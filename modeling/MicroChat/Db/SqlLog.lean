import MicroChat.Db.LoadRecords
import MicroChat.Support.Printf

/-!
# Db — SqlLog

The calls of `LOG` that `Sql3::ExecSQL` makes while a message is stored.  `LOG` formats into two
buffers of `MAX_BUF` characters, and gives the second one to `printf` as a format.

* `log`: `LOG` of `Business/fun.cpp`; `execSQLLogs`, `addMsgLogs`: its calls.
* `harmless_log_iff`: which calls keep to the buffers and print the line.
* `harmless_addMsg_iff`: the same for the calls that store a message.
* `execSQLLogged`: `ExecSQL` with these calls, and `allLogged_iff`: which statements get past them.
-/

namespace MicroChat
open Support Support.Sql Support.Utf16

/-- `MAX_BUF`. -/
def maxBuf : Nat := 65535

/-- `ctime` without its line break: `Www Mmm dd hh:mm:ss yyyy`. -/
structure CTime where
  text : Bytes
  length_eq : text.length = 24
  plain : ∀ b ∈ text, b ≠ percent ∧ b ≠ 0

/-- What a call of `LOG` formats into its two buffers, and what it prints; `none` where that is
undefined. -/
structure LogCall where
  buffer : Bytes
  Buff : Bytes
  printed : Option Bytes

/-- `void LOG(const char *szLog, ...)`; `none` where the format does not match its arguments. -/
def log (szTime : CTime) (szLog : Bytes) (args : List Bytes) : Option LogCall := do
  let buffer ← format szLog args
  let Buff ← format (ascii "[%s] %s \r\n") [szTime.text, buffer]
  return ⟨buffer, Buff, format Buff []⟩

/-- `"[Sql3::ExecSQL]正在执行Sql语句:%s"`, in the encoding of the source file. -/
def execHead : Bytes :=
  ascii "[Sql3::ExecSQL]" ++ [213, 253, 212, 218, 214, 180, 208, 208] ++ ascii "Sql" ++
    [211, 239, 190, 228] ++ ascii ":"

def execFormat : Bytes := execHead ++ ascii "%s"

/-- `"[Sql3::ExecSQL][Error]sql:%s执行错误,错误信息:%s"`. -/
def errorHead : Bytes := ascii "[Sql3::ExecSQL][Error]sql:"

def errorMiddle : Bytes :=
  [214, 180, 208, 208, 180, 237, 206, 243, 44, 180, 237, 206, 243, 208, 197, 207, 162] ++ ascii ":"

def errorFormat : Bytes := errorHead ++ ascii "%s" ++ errorMiddle ++ ascii "%s"

section
variable (P : Platform) (E : Sqlite)

/-- The calls of `LOG` in `int Sql3::ExecSQL(LPCSTR strSQLUtf8, …)`, at two times; `errmsg` is
`sqlite3_errmsg(m_pDB)`. -/
def execSQLLogs (errmsg : Bytes) (before behind : CTime) (s : Sql3) (strSQLUtf8 : Bytes) :
    List (Option LogCall) :=
  if s.m_pDB.isNone then []
  else
    let strSqlA := utf82CStringA P strSQLUtf8
    log before execFormat [strSqlA] ::
      if (s.execSQL E strSQLUtf8).2 then [] else [log behind errorFormat [strSqlA, errmsg]]

/-- The calls while `AddMsg` stores a message. -/
def addMsgLogs (errmsg : Bytes) (before behind : CTime) (s : Sql3) (pMsg : NewMsg) :
    List (Option LogCall) :=
  execSQLLogs P E errmsg before behind s (addMsgText P pMsg)

end

/-- The texts and their terminators fit into the buffers, and the line is printed. -/
structure LogCall.Harmless (call : LogCall) : Prop where
  buffer : call.buffer.length + 1 ≤ maxBuf
  Buff : call.Buff.length + 1 ≤ maxBuf
  printed : call.printed = some call.Buff

/-- All calls are. -/
def Harmless (calls : List (Option LogCall)) : Prop :=
  ∀ call ∈ calls, ∃ c, call = some c ∧ c.Harmless

/-- The texts and their terminators fit into the buffers, and `printf` has an argument for each of
its conversions. -/
structure LogCall.Returns (call : LogCall) : Prop where
  buffer : call.buffer.length + 1 ≤ maxBuf
  Buff : call.Buff.length + 1 ≤ maxBuf
  printed : call.printed.isSome

instance : DecidablePred LogCall.Returns := fun call =>
  decidable_of_iff (call.buffer.length + 1 ≤ maxBuf ∧ call.Buff.length + 1 ≤ maxBuf ∧
      call.printed.isSome)
    ⟨fun h => ⟨h.1, h.2.1, h.2.2⟩, fun h => ⟨h.buffer, h.Buff, h.printed⟩⟩

/-- All calls return. -/
def LogsReturn (calls : List (Option LogCall)) : Prop := ∀ call ∈ calls, ∃ c ∈ call, c.Returns

instance : DecidablePred LogsReturn := fun calls =>
  inferInstanceAs (Decidable (∀ call ∈ calls, ∃ c ∈ call, c.Returns))

section
variable {szTime : CTime} {szLog buffer : Bytes} {args : List Bytes}

/-- The line that is printed. -/
def logLine (szTime : CTime) (buffer : Bytes) : Bytes :=
  ascii "[" ++ szTime.text ++ ascii "] " ++ buffer ++ ascii " \r\n"

theorem length_logLine : (logLine szTime buffer).length = buffer.length + 30 := by
  have h₁ : (ascii "[").length = 1 := by decide
  have h₂ : (ascii "] ").length = 2 := by decide
  have h₃ : (ascii " \r\n").length = 3 := by decide
  simp only [logLine, List.length_append, szTime.length_eq, h₁, h₂, h₃]
  omega

theorem percent_mem_logLine : percent ∈ logLine szTime buffer ↔ percent ∈ buffer := by
  have h₁ : percent ∉ ascii "[" := by decide
  have h₂ : percent ∉ ascii "] " := by decide
  have h₃ : percent ∉ ascii " \r\n" := by decide
  have ht : percent ∉ szTime.text := fun hmem => (szTime.plain _ hmem).1 rfl
  simp only [logLine, List.mem_append, h₁, h₂, h₃, ht, or_false, false_or]

theorem log_eq (h : format szLog args = some buffer) (h0 : (0 : UInt8) ∉ buffer) :
    log szTime szLog args =
      some ⟨buffer, logLine szTime buffer, format (logLine szTime buffer) []⟩ := by
  have htime : cstr szTime.text = szTime.text :=
    cstr_eq_self fun hmem => (szTime.plain 0 hmem).2 rfl
  have hsplit : ascii "[%s] %s \r\n" =
      ascii "[" ++ percent :: 0x73 :: (ascii "] " ++ percent :: 0x73 :: ascii " \r\n") := by
    decide
  have hline : format (ascii "[%s] %s \r\n") [szTime.text, buffer] =
      some (logLine szTime buffer) := by
    rw [hsplit, format_append (by decide), format_string, format_append (by decide),
      format_string, format_self (by decide), htime, cstr_eq_self h0]
    simp [logLine]
  rw [log, h]
  simp only [Option.bind_eq_bind, Option.bind_some, hline]
  rfl

/-- **Which calls are harmless**: those whose text is short enough for the line around it, and
holds no `%`. -/
theorem harmless_log_iff (h : format szLog args = some buffer) (h0 : (0 : UInt8) ∉ buffer) :
    (∃ c, log szTime szLog args = some c ∧ c.Harmless) ↔
      buffer.length + 31 ≤ maxBuf ∧ percent ∉ buffer := by
  rw [log_eq h h0]
  constructor
  · rintro ⟨c, hc, -, hBuff, hprinted⟩
    cases hc
    rw [length_logLine] at hBuff
    exact ⟨hBuff, fun hm => format_eq_self_iff.mp hprinted (percent_mem_logLine.mpr hm)⟩
  · rintro ⟨hle, hno⟩
    refine ⟨_, rfl, ?_, ?_, ?_⟩
    · exact Nat.le_trans (by dsimp only; omega) hle
    · rw [length_logLine]
      exact hle
    · exact format_eq_self_iff.mpr fun hm => hno (percent_mem_logLine.mp hm)

end

/-! ### The calls of `ExecSQL` -/

section
variable {P : Platform} {E : Sqlite} {errmsg : Bytes} {before behind : CTime} {s : Sql3}
  {pMsg : NewMsg}

theorem format_execFormat (a : Bytes) : format execFormat [a] = some (execHead ++ cstr a) := by
  have hs : ascii "%s" = [percent, 0x73] := by decide
  rw [execFormat, hs, format_append (by decide), format_string, format, Option.map_some,
    Option.map_some, List.append_nil]

theorem format_errorFormat (a b : Bytes) :
    format errorFormat [a, b] = some (errorHead ++ (cstr a ++ (errorMiddle ++ cstr b))) := by
  have hsplit : errorFormat =
      errorHead ++ percent :: 0x73 :: (errorMiddle ++ [percent, 0x73]) := by decide
  rw [hsplit, format_append (by decide), format_string, format_append (by decide), format_string,
    format, Option.map_some, Option.map_some, Option.map_some, Option.map_some, List.append_nil]

theorem length_execHead : execHead.length = 31 := by decide

/-- What the first call prints, and that it is a C string. -/
theorem format_exec {a : Bytes} (h0 : (0 : UInt8) ∉ a) :
    format execFormat [a] = some (execHead ++ a) ∧ (0 : UInt8) ∉ execHead ++ a := by
  have hhead : (0 : UInt8) ∉ execHead := by decide
  have hformat := format_execFormat a
  rw [cstr_eq_self h0] at hformat
  exact ⟨hformat, by simp [hhead, h0]⟩

/-- So for the call behind the statement. -/
theorem format_error {a : Bytes} (h0 : (0 : UInt8) ∉ a) (errmsg : Bytes) :
    format errorFormat [a, errmsg] =
        some (errorHead ++ (a ++ (errorMiddle ++ cstr errmsg))) ∧
      (0 : UInt8) ∉ errorHead ++ (a ++ (errorMiddle ++ cstr errmsg)) := by
  have hhead : (0 : UInt8) ∉ errorHead := by decide
  have hmiddle : (0 : UInt8) ∉ errorMiddle := by decide
  have hformat := format_errorFormat a errmsg
  rw [cstr_eq_self h0] at hformat
  exact ⟨hformat, by simp [hhead, hmiddle, h0, zero_notMem_cstr]⟩

/-- The line of the first call of `LOG`. -/
theorem log_exec {a : Bytes} (h0 : (0 : UInt8) ∉ a) :
    log before execFormat [a] = some ⟨execHead ++ a, logLine before (execHead ++ a),
      format (logLine before (execHead ++ a)) []⟩ :=
  log_eq (format_exec h0).1 (format_exec h0).2

theorem harmless_exec_iff {a : Bytes} (h0 : (0 : UInt8) ∉ a) :
    (∃ c, log before execFormat [a] = some c ∧ c.Harmless) ↔
      a.length + 62 ≤ maxBuf ∧ percent ∉ a := by
  have hhead : percent ∉ execHead := by decide
  obtain ⟨hformat, hzero⟩ := format_exec h0
  rw [harmless_log_iff hformat hzero, List.length_append, List.mem_append, length_execHead]
  simp only [hhead, false_or]
  exact and_congr_left fun _ => by omega

/-- The call of `LOG` behind a statement that fails. -/
theorem harmless_error_iff {a : Bytes} (h0 : (0 : UInt8) ∉ a) (errmsg : Bytes) :
    (∃ c, log behind errorFormat [a, errmsg] = some c ∧ c.Harmless) ↔
      a.length + (cstr errmsg).length + 75 ≤ maxBuf ∧ percent ∉ a ∧ percent ∉ cstr errmsg := by
  have hhead : errorHead.length = 26 ∧ percent ∉ errorHead := by decide
  have hmiddle : errorMiddle.length = 18 ∧ percent ∉ errorMiddle := by decide
  obtain ⟨hformat, hzero⟩ := format_error h0 errmsg
  rw [harmless_log_iff hformat hzero]
  simp only [List.length_append, List.mem_append, hhead, hmiddle, false_or, not_or]
  exact and_congr_left fun _ => by omega

variable (P E errmsg s pMsg) in
/-- The statement that stores the message has no `%` in the system code page and is short enough
for the line that is logged; if it fails, the error has none and there is room for it too. -/
structure Loggable : Prop where
  plain : percent ∉ utf82CStringA P (addMsgText P pMsg)
  short : (utf82CStringA P (addMsgText P pMsg)).length + 62 ≤ maxBuf
  failed : (s.execSQL E (addMsgText P pMsg)).2 = false → percent ∉ cstr errmsg ∧
    (utf82CStringA P (addMsgText P pMsg)).length + (cstr errmsg).length + 75 ≤ maxBuf

/-- While a database is open, the first call is about the statement. -/
theorem exists_mem_addMsgLogs (h : s.m_pDB.isSome) :
    ∃ c, some c ∈ addMsgLogs P E errmsg before behind s pMsg ∧
      c.Buff = logLine before (execHead ++ utf82CStringA P (addMsgText P pMsg)) ∧
      c.printed = format c.Buff [] := by
  have hnone : ¬ s.m_pDB.isNone = true := by simpa using Option.isSome_iff_ne_none.mp h
  obtain ⟨c, hlog, hBuff, hformat⟩ : ∃ c,
      log before execFormat [utf82CStringA P (addMsgText P pMsg)] = some c ∧
        c.Buff = logLine before (execHead ++ utf82CStringA P (addMsgText P pMsg)) ∧
        c.printed = format c.Buff [] :=
    ⟨_, log_exec (zero_notMem_utf82CStringA _ _), rfl, rfl⟩
  refine ⟨c, ?_, hBuff, hformat⟩
  rw [addMsgLogs, execSQLLogs, if_neg hnone, ← hlog]
  exact List.mem_cons_self

/-- A line that is printed as it is has no `%` of the statement in it. -/
theorem plain_of_printed (hopen : s.m_pDB.isSome)
    (h : ∀ call ∈ addMsgLogs P E errmsg before behind s pMsg,
      ∃ c, call = some c ∧ c.printed = some c.Buff) :
    percent ∉ utf82CStringA P (addMsgText P pMsg) := by
  obtain ⟨c, hmem, hBuff, hformat⟩ := exists_mem_addMsgLogs hopen
  obtain ⟨c', hc, hprinted⟩ := h _ hmem
  cases hc
  rw [hformat, format_eq_self_iff, hBuff, percent_mem_logLine, List.mem_append, not_or] at hprinted
  exact hprinted.2

/-- A line that fits into its buffer leaves the statement that much room. -/
theorem short_of_fits (hopen : s.m_pDB.isSome)
    (h : ∀ call ∈ addMsgLogs P E errmsg before behind s pMsg,
      ∃ c, call = some c ∧ c.Buff.length + 1 ≤ maxBuf) :
    (utf82CStringA P (addMsgText P pMsg)).length + 62 ≤ maxBuf := by
  obtain ⟨c, hmem, hBuff, -⟩ := exists_mem_addMsgLogs hopen
  obtain ⟨c', hc, hle⟩ := h _ hmem
  cases hc
  rw [hBuff, length_logLine, List.length_append, length_execHead] at hle
  omega

/-- **Which messages are logged harmlessly**: all while no database is open, and then those whose
statement is loggable. -/
theorem harmless_addMsg_iff :
    Harmless (addMsgLogs P E errmsg before behind s pMsg) ↔
      s.m_pDB = none ∨ Loggable P E errmsg s pMsg := by
  have h0 := zero_notMem_utf82CStringA P (addMsgText P pMsg)
  rw [addMsgLogs, execSQLLogs]
  cases hdb : s.m_pDB with
  | none => simp [Harmless]
  | some db =>
      simp only [Option.isNone_some, Bool.false_eq_true, if_false, Harmless, List.forall_mem_cons,
        harmless_exec_iff h0, reduceCtorEq, false_or]
      -- the second call is made where the statement fails
      by_cases hok : (s.execSQL E (addMsgText P pMsg)).2 = true
      · rw [if_pos hok]
        constructor
        · rintro ⟨⟨hshort, hplain⟩, -⟩
          exact ⟨hplain, hshort, fun hf => absurd (hok.symm.trans hf) (by decide)⟩
        · rintro ⟨hplain, hshort, -⟩
          exact ⟨⟨hshort, hplain⟩, by simp⟩
      · rw [if_neg hok, List.forall_mem_singleton, harmless_error_iff h0]
        have hf := Bool.eq_false_of_not_eq_true hok
        constructor
        · rintro ⟨⟨hshort, hplain⟩, herror, -, herrmsg⟩
          exact ⟨hplain, hshort, fun _ => ⟨herrmsg, herror⟩⟩
        · rintro ⟨hplain, hshort, hfailed⟩
          exact ⟨⟨hshort, hplain⟩, (hfailed hf).2, hplain, (hfailed hf).1⟩

end

/-! ### `ExecSQL` with its calls of `LOG` -/

/-- What `LOG` gets of the machine at the `n`th statement: the time of each call, and
`sqlite3_errmsg(m_pDB)`. -/
structure LogEnv where
  before : Nat → CTime
  behind : Nat → CTime
  errmsg : Nat → Bytes

section
variable (P : Platform) (E : Sqlite) (L : LogEnv)

/-- `int Sql3::ExecSQL(LPCSTR strSQLUtf8, NULL, NULL)`; `none` where a call of `LOG` does not
return. -/
def Sql3.execSQLLogged (s : Sql3) (strSQLUtf8 : Bytes) : Option (Sql3 × Bool) :=
  if LogsReturn (execSQLLogs P E (L.errmsg s.calls) (L.before s.calls) (L.behind s.calls) s
      strSQLUtf8) then
    some (s.execSQL E strSQLUtf8)
  else none

/-- `void CMicroChatDB::AddMsg(NewMsg *pMsg)`. -/
def addMsgLogged (s : Sql3) (pMsg : NewMsg) : Option Sql3 :=
  (s.execSQLLogged P E L (addMsgText P pMsg)).map Prod.fst

/-- The insertion of a contact in `NewInitCGITask::Buf2Resp`. -/
def insertContactLogged (s : Sql3) (pInfo : ContactInfo) : Option Sql3 :=
  (s.execSQLLogged P E L (unicodeToUtf8 (insertContactText P pInfo))).map Prod.fst

/-- `void CMicroChatDB::UpdateSyncKey(string strSyncKey)`. -/
def updateSyncKeyLogged (s : Sql3) (strSyncKey : Bytes) : Option Sql3 := do
  let (s, _) ← s.execSQLLogged P E L (unicodeToUtf8 (ofAscii (ascii "delete from synckey;")))
  let (s, _) ← s.execSQLLogged P E L (unicodeToUtf8 (updateSyncKeyText P strSyncKey))
  return s

/-- A statement that gets past `LOG`: no database is open, or in the system code page it is a
format without conversions and short enough for the line; and if it fails, so is the error, and
there is room for it too. -/
def Logged (s : Sql3) (text : Bytes) : Prop :=
  s.m_pDB.isSome →
    ((utf82CStringA P text).length + 62 ≤ maxBuf ∧ (format (utf82CStringA P text) []).isSome) ∧
      ((s.execSQL E text).2 = false →
        (utf82CStringA P text).length + (cstr (L.errmsg s.calls)).length + 75 ≤ maxBuf ∧
          (format (cstr (L.errmsg s.calls)) []).isSome)

instance (s : Sql3) (text : Bytes) : Decidable (Logged P E L s text) :=
  inferInstanceAs (Decidable (_ → _ ∧ (_ → _)))

/-- So do these, executed one after the other. -/
def AllLogged : Sql3 → List Bytes → Prop
  | _, [] => True
  | s, text :: texts => Logged P E L s text ∧ AllLogged (s.execSQL E text).1 texts

instance decidableAllLogged : (s : Sql3) → (texts : List Bytes) →
    Decidable (AllLogged P E L s texts)
  | _, [] => inferInstanceAs (Decidable True)
  | s, text :: texts =>
      have := decidableAllLogged (s.execSQL E text).1 texts
      inferInstanceAs (Decidable (_ ∧ _))

end

section
variable {P : Platform} {E : Sqlite} {L : LogEnv} {s : Sql3} {text : Bytes}

/-- The calls that return: those whose text is short enough for the line around it, and a format
without conversions. -/
theorem returns_log_iff {szTime : CTime} {szLog buffer : Bytes} {args : List Bytes}
    (h : format szLog args = some buffer) (h0 : (0 : UInt8) ∉ buffer) :
    (∃ c ∈ log szTime szLog args, c.Returns) ↔
      buffer.length + 31 ≤ maxBuf ∧ (format buffer []).isSome := by
  have hline : (format (logLine szTime buffer) []).isSome ↔ (format buffer []).isSome := by
    have hpre : percent ∉ ascii "[" ++ szTime.text ++ ascii "] " := fun hmem => by
      have h₁ : percent ∉ ascii "[" := by decide
      have h₂ : percent ∉ ascii "] " := by decide
      simp only [List.mem_append, h₁, h₂, or_false, false_or] at hmem
      exact (szTime.plain _ hmem).1 rfl
    rw [logLine, List.append_assoc _ buffer, format_append hpre, Option.isSome_map,
      isSome_format_append (by decide)]
    exact and_iff_left (by decide)
  rw [log_eq h h0]
  constructor
  · rintro ⟨c, hc, -, hBuff, hprinted⟩
    cases hc
    rw [length_logLine] at hBuff
    exact ⟨hBuff, hline.mp hprinted⟩
  · rintro ⟨hle, hsome⟩
    refine ⟨_, rfl, Nat.le_trans (by dsimp only; omega) hle, ?_, hline.mpr hsome⟩
    rw [length_logLine]
    exact hle

theorem returns_exec_iff {before : CTime} {a : Bytes} (h0 : (0 : UInt8) ∉ a) :
    (∃ c ∈ log before execFormat [a], c.Returns) ↔
      a.length + 62 ≤ maxBuf ∧ (format a []).isSome := by
  have hhead : percent ∉ execHead := by decide
  obtain ⟨hformat, hzero⟩ := format_exec h0
  rw [returns_log_iff hformat hzero, List.length_append, length_execHead, format_append hhead,
    Option.isSome_map]
  exact and_congr_left fun _ => by omega

theorem returns_error_iff {behind : CTime} {a : Bytes} (h0 : (0 : UInt8) ∉ a) (errmsg : Bytes) :
    (∃ c ∈ log behind errorFormat [a, errmsg], c.Returns) ↔
      a.length + (cstr errmsg).length + 75 ≤ maxBuf ∧ (format a []).isSome ∧
        (format (cstr errmsg) []).isSome := by
  have hhead : errorHead.length = 26 ∧ percent ∉ errorHead := by decide
  have hmiddle : errorMiddle.length = 18 ∧ percent ∉ errorMiddle := by decide
  -- no conversion of `a` reaches into the text behind it
  have hfirst : (errorMiddle ++ cstr errmsg).head? = some 214 := rfl
  obtain ⟨hformat, hzero⟩ := format_error h0 errmsg
  rw [returns_log_iff hformat hzero, format_append hhead.2, Option.isSome_map,
    isSome_format_append (by rw [hfirst]; decide), format_append hmiddle.2, Option.isSome_map]
  simp only [List.length_append, hhead.1, hmiddle.1]
  exact and_congr_left fun _ => by omega

/-- **Which statements get past `LOG`.** -/
theorem logsReturn_iff :
    LogsReturn (execSQLLogs P E (L.errmsg s.calls) (L.before s.calls) (L.behind s.calls) s text) ↔
      Logged P E L s text := by
  have h0 := zero_notMem_utf82CStringA P text
  rw [execSQLLogs, Logged]
  cases hdb : s.m_pDB with
  | none => simp [LogsReturn]
  | some db =>
      simp only [Option.isNone_some, Bool.false_eq_true, if_false, LogsReturn,
        List.forall_mem_cons, returns_exec_iff h0, Option.isSome_some, true_imp_iff]
      -- the second call is made where the statement fails
      cases hok : (s.execSQL E text).2 with
      | true => simp
      | false =>
          rw [if_neg (by decide), List.forall_mem_singleton, returns_error_iff h0]
          constructor
          · rintro ⟨hexec, herror, -, herrmsg⟩
            exact ⟨hexec, fun _ => ⟨herror, herrmsg⟩⟩
          · rintro ⟨hexec, hfailed⟩
            exact ⟨hexec, (hfailed rfl).1, hexec.2, (hfailed rfl).2⟩

theorem execSQLLogged_eq : s.execSQLLogged P E L text =
    if Logged P E L s text then some (s.execSQL E text) else none :=
  if_congr logsReturn_iff rfl rfl

end

/-! ### A `%`, and a long message -/

/-- On this machine texts stay as they are. -/
theorem utf82CStringA_asciiPlatform {t : Bytes} (h0 : (0 : UInt8) ∉ t) :
    utf82CStringA asciiPlatform t = t := by
  have hz : (0 : UInt16) ∉ ofAscii t := zero_notMem_ofAscii h0
  have hbyte : ∀ b : UInt8, b.toUInt16.toUInt8 = b := fun b => by simp
  have hwide : utf8ToUnicode asciiPlatform t = ofAscii t := by
    rw [utf8ToUnicode, cstr_eq_self h0]
    exact wcstr_eq_self hz
  have hback : asciiPlatform.cw2a (ofAscii t) = t := by
    change (t.map UInt8.toUInt16).map UInt16.toUInt8 = t
    rw [List.map_map]
    exact (List.map_congr_left fun b _ => hbyte b).trans (List.map_id t)
  rw [utf82CStringA, hwide, cW2A, wcstr_eq_self hz, hback, cstr_eq_self h0]

/-- A message from `a` to `b`. -/
def messageFrom (szContent : Bytes) : NewMsg := ⟨1, ascii "a", ascii "b", 1, 0, szContent⟩

theorem fits_messageFrom {szContent : Bytes} (h0 : (0 : UInt8) ∉ szContent)
    (hlt : szContent.length < 65535) : (messageFrom szContent).Fits := by
  have hfrom : strcpyS 1024 (ascii "a") = some (ascii "a") := by decide
  have hto : strcpyS 1024 (ascii "b") = some (ascii "b") := by decide
  refine ⟨hfrom, hto, ?_⟩
  change strcpyS 65535 szContent = some szContent
  rw [strcpyS, cstr_eq_self h0, if_pos hlt]

/-- Its content stands in the statement that stores it. -/
theorem content_stands_addMsgText {szContent : Bytes} (h : ∀ b ∈ szContent, b < 0x80)
    (h0 : (0 : UInt8) ∉ szContent) : szContent <:+:
      utf82CStringA asciiPlatform (addMsgText asciiPlatform (messageFrom szContent)) := by
  have hins := insertable_msgValues asciiPlatform (messageFrom szContent)
  have hzero : (0 : UInt8) ∉ addMsgText asciiPlatform (messageFrom szContent) := by
    rw [addMsgText_eq]
    exact zero_notMem_insertText hins.table_word hins.columns_word hins.zero_notMem
  have hcontent : cStringA2Utf8 asciiPlatform (messageFrom szContent).szContent = szContent :=
    cStringA2Utf8_ascii asciiPlatform h h0
  rw [utf82CStringA_asciiPlatform hzero, addMsgText, hcontent]
  exact ⟨_, _, rfl⟩

def epoch : CTime where
  text := ascii "Thu Jan 01 08:00:00 1970"
  length_eq := by decide
  plain := by simp [ascii, percent]

/-- A message `%d`, and one of 65500 letters. -/
theorem not_harmless :
    (¬ ∀ (P : Platform) (E : Sqlite) (errmsg : Bytes) (before behind : CTime) (s : Sql3)
      (pMsg : NewMsg), pMsg.Fits → ∀ call ∈ addMsgLogs P E errmsg before behind s pMsg,
        ∃ c, call = some c ∧ c.printed = some c.Buff) ∧
    ¬ ∀ (P : Platform) (E : Sqlite) (errmsg : Bytes) (before behind : CTime) (s : Sql3)
      (pMsg : NewMsg), pMsg.Fits → ∀ call ∈ addMsgLogs P E errmsg before behind s pMsg,
        ∃ c, call = some c ∧ c.Buff.length + 1 ≤ maxBuf := by
  constructor
  · intro h
    have hplain := plain_of_printed rfl (h asciiPlatform plainEnv.sqlite [] epoch epoch
      ⟨some ⟨fun _ => none⟩, 0⟩ (messageFrom (ascii "%d"))
      (fits_messageFrom (by decide) (by decide)))
    -- `%d` has no argument
    have hstands : ascii "%d" <:+:
        utf82CStringA asciiPlatform (addMsgText asciiPlatform (messageFrom (ascii "%d"))) :=
      content_stands_addMsgText (ascii_lt (by decide)) (by decide)
    exact hplain (hstands.subset (by decide))
  · intro h
    have hbyte : ∀ b ∈ List.replicate 65500 (0x61 : UInt8), b < 0x80 ∧ b ≠ 0 := by
      intro b hb
      rw [List.eq_of_mem_replicate hb]
      decide
    have h0 : (0 : UInt8) ∉ List.replicate 65500 (0x61 : UInt8) := fun hm => (hbyte 0 hm).2 rfl
    have hshort := short_of_fits rfl (h asciiPlatform plainEnv.sqlite [] epoch epoch
      ⟨some ⟨fun _ => none⟩, 0⟩ (messageFrom (List.replicate 65500 0x61))
      (fits_messageFrom h0 (by rw [List.length_replicate]; decide)))
    -- the letters alone leave no room for what stands around them
    have hcontent := (content_stands_addMsgText (fun b hb => (hbyte b hb).1) h0).length_le
    rw [List.length_replicate] at hcontent
    rw [maxBuf] at hshort
    omega

end MicroChat
