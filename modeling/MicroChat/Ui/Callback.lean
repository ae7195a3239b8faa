import MicroChat.Business.SyncKey
import MicroChat.Wrapper.NetworkService

/-!
# Ui — Callback

`MicroChat/business/callback.cpp`: what the callback of the client and the window handlers behind
it take a result for.

* `ResultType`, `sdkCallBack`: the struct that is read for a cgi type and a code.
* `FromInterface`: the tasks the functions of `interface.cpp` start.
* `Misread`: the responses whose result is taken for another struct.
* `readsRight_iff`: these are all.
-/

namespace MicroChat
open Support

/-! ### The callback -/

/-- The structs of `interface.h` that results are. -/
inductive ResultType where
  | login
  | mobileVerify
  | newInit
  | newSync
  | searchContact
  | verifyUser
  deriving DecidableEq, Repr

def CgiResult.type : CgiResult → ResultType
  | .login _ => .login
  | .mobileVerify _ => .mobileVerify
  | .newInit _ => .newInit
  | .newSync _ => .newSync
  | .searchContact _ => .searchContact
  | .verifyUser _ => .verifyUser

/-- `HandleCallBackError`: the struct that the handlers of `WM_LOGIN_SCAN_QRCODE` and
`WM_SHOW_LOGIN_RESULT` read; for other codes nothing is read. -/
def handleCallBackError (nCode : Int) : Option ResultType :=
  if nCode = cgiCodeLoginNeedScanQrcode then some .login
  else if nCode = cgiCodeLoginFail then some .login
  else none

/-- `SDKCallBack`: the struct that the function for the cgi type reads. -/
def sdkCallBack (nCgiType : UInt32) (nCode : Int) : Option ResultType :=
  if nCode ≠ 0 then handleCallBackError nCode
  else if nCgiType = 701 then some .login
  else if nCgiType = 145 then some .mobileVerify
  else if nCgiType = 139 then some .newInit
  else if nCgiType = 138 then some .newSync
  else if nCgiType = 106 then some .searchContact
  else if nCgiType = 30 then some .verifyUser
  else none

/-- The pointer is looked at before it is followed.  `LoginCallBack` alone does not; the handler of
`WM_LOGIN_SCAN_QRCODE` ends the process where it is null. -/
def testsNull (nCgiType : UInt32) (nCode : Int) : Bool := ¬ (nCode = 0 ∧ nCgiType = 701)

def ResPtr.isNull : ResPtr → Bool
  | .null => true
  | .wild | .result _ => false

/-- The struct behind the pointer, if there is one. -/
def ResPtr.type : ResPtr → Option ResultType
  | .null | .wild => none
  | .result res => some res.type

/-- The struct the pointer is followed for: a null one is not, where that is tested. -/
def Notice.read (n : Notice) : Option ResultType :=
  if n.result.isNull ∧ testsNull n.nCgiType n.nCode then none
  else sdkCallBack n.nCgiType n.nCode

/-- What is read of a result is the struct it is. -/
def Notice.ReadsRight (n : Notice) : Prop := ∀ T, n.read = some T → n.result.type = some T

/-! ### Tasks of the interface -/

/-- The classes that a function of `interface.cpp` makes an object of. -/
def CGITask.ByInterface : CGITask → Prop
  | .getContact _ | .reportSyncKV => False
  | _ => True

/-- The task was made by a function of `interface.cpp`, and has had no response yet. -/
def FromInterface (task : Task) : Prop :=
  task.impl.ByInterface ∧ ∃ mem, task = createTask mem task.impl

/-- The response has an empty plaintext, where the code stays the one of a failed login; or the
task sends a message, for which no result is made and no cgi type set, and a pointer that is not
null is followed, or any for a login. -/
def Misread (env : CgiEnv) (x : CgiState) (task : Task) (i : CgiInput) : Prop :=
  match task.impl with
  | .newInit m => Plaintext env.crypto .base sessionKey x.auth.session m i.inbuffer []
  | .bind t m =>
      Plaintext env.crypto .bind (fun _ => t.m_strAesKey) x.auth.session m i.inbuffer [] ∧
        ∃ resp, env.replies.bindResponse [] = some resp
  | .newSend _ =>
      (task.m_res.isNull = true → i.errorCode = 0 ∧ task.cgitype_ = 701) ∧
        (i.errorCode = cgiCodeLoginNeedScanQrcode ∨ i.errorCode = cgiCodeLoginFail ∨
          i.errorCode = 0 ∧ task.cgitype_ ∈ [701, 145, 139, 138, 106, 30])
  | _ => False

/-! ### What each class tells the callback -/

theorem handleCallBackError_iff {nCode : Int} {T : ResultType} :
    handleCallBackError nCode = some T ↔
      T = .login ∧ (nCode = cgiCodeLoginNeedScanQrcode ∨ nCode = cgiCodeLoginFail) := by
  rw [handleCallBackError]
  split
  · simp_all [eq_comm]
  · split <;> simp_all [eq_comm]

/-- Codes that are not about a login are read by their cgi type, or not at all. -/
theorem sdkCallBack_of_code {nCgiType : UInt32} {nCode : Int}
    (h₁ : nCode ≠ cgiCodeLoginNeedScanQrcode) (h₂ : nCode ≠ cgiCodeLoginFail) {T : ResultType}
    (h : sdkCallBack nCgiType nCode = some T) : sdkCallBack nCgiType 0 = some T := by
  rw [sdkCallBack] at h
  split at h
  · exact absurd (handleCallBackError_iff.mp h).2 (by simp [h₁, h₂])
  · rw [sdkCallBack, if_neg (by simp)]
    exact h

/-- What a login task brings is read as that. -/
theorem sdkCallBack_login {nCode : Int} {T : ResultType} (h : sdkCallBack 701 nCode = some T) :
    T = .login := by
  rw [sdkCallBack] at h
  split at h
  · exact (handleCallBackError_iff.mp h).1
  · exact (Option.some_inj.mp h).symm

theorem sdkCallBack_isSome_iff {nCgiType : UInt32} {nCode : Int} :
    (∃ T, sdkCallBack nCgiType nCode = some T) ↔
      nCode = cgiCodeLoginNeedScanQrcode ∨ nCode = cgiCodeLoginFail ∨
        nCode = 0 ∧ nCgiType ∈ [701, 145, 139, 138, 106, 30] := by
  by_cases h0 : nCode = 0
  · subst h0
    simp only [sdkCallBack, ne_eq, not_true, if_false, List.mem_cons, List.not_mem_nil, or_false,
      true_and]
    constructor
    · rintro ⟨T, h⟩
      split at h
      · simp [*]
      split at h
      · simp [*]
      split at h
      · simp [*]
      split at h
      · simp [*]
      split at h
      · simp [*]
      split at h
      · simp [*]
      · cases h
    · rintro (h | h | rfl | rfl | rfl | rfl | rfl | rfl)
      · cases h
      · cases h
      all_goals exact ⟨_, rfl⟩
  · simp only [sdkCallBack, ne_eq, h0, not_false_iff, if_true, handleCallBackError_iff,
      false_and, or_false, exists_eq_left]

/-- What is read is what the callback takes the result for, of a pointer that is followed. -/
theorem read_eq_some_iff {n : Notice} {T : ResultType} : n.read = some T ↔
    (n.result.isNull = true → n.nCode = 0 ∧ n.nCgiType = 701) ∧
      sdkCallBack n.nCgiType n.nCode = some T := by
  rw [Notice.read]
  split
  · rename_i h
    have htest : ¬ (n.nCode = 0 ∧ n.nCgiType = 701) := of_decide_eq_true h.2
    exact iff_of_false nofun fun hread => htest (hread.1 h.1)
  · rename_i h
    refine (and_iff_right fun hnull => ?_).symm
    by_contra htest
    exact h ⟨hnull, decide_eq_true htest⟩

/-- A result of the right struct, with a code that is not about a login. -/
theorem readsRight_of_code {n : Notice} (h₁ : n.nCode ≠ cgiCodeLoginNeedScanQrcode)
    (h₂ : n.nCode ≠ cgiCodeLoginFail)
    (hres : n.result.type = sdkCallBack n.nCgiType 0) : n.ReadsRight :=
  fun _ h => hres.trans (sdkCallBack_of_code h₁ h₂ (read_eq_some_iff.mp h).2)

/-- A result of another struct than that of a login, with the code of a failed one. -/
theorem not_readsRight_of_fail {n : Notice} (h : n.nCode = cgiCodeLoginFail)
    (hnull : n.result.isNull = false) (hres : n.result.type ≠ some .login) : ¬ n.ReadsRight := by
  intro hr
  refine hres (hr .login (read_eq_some_iff.mpr ⟨fun h => ?_, ?_⟩))
  · rw [hnull] at h
    cases h
  · rw [h]
    rfl

/-- Codes that are not about a login. -/
theorem not_login_of_mem {code : Int} {codes : List Int} (h : code ∈ codes)
    (hcodes : codes.all fun c => c ≠ cgiCodeLoginNeedScanQrcode ∧ c ≠ cgiCodeLoginFail) :
    code ≠ cgiCodeLoginNeedScanQrcode ∧ code ≠ cgiCodeLoginFail := by
  simpa using List.all_eq_true.mp hcodes code h

/-- `NewSync` starts with an unknown error, and has no code about a login. -/
theorem newSync_code {env : Env} {s : Session} {m : BaseHeader} {db : Sql3} {inbuffer : Bytes}
    {r : SyncResponse} (h : newSyncBuf2Resp env s m db inbuffer = some r) :
    r.errorCode ≠ cgiCodeLoginNeedScanQrcode ∧ r.errorCode ≠ cgiCodeLoginFail := by
  rcases errorCode_buf2RespWith h with ⟨-, hcode⟩ | ⟨-, hcode⟩
  · have hunknown : cgiErrUnknown ≠ cgiCodeLoginNeedScanQrcode ∧
        cgiErrUnknown ≠ cgiCodeLoginFail := by decide
    rw [hcode]
    exact hunknown
  · exact not_login_of_mem hcode rfl

/-- The tasks that bring back one message and start with an unknown error have no code about a
login. -/
theorem reply_code {μ ρ : Type} {C : Crypto} {H : ReplyHandler μ ρ} {s : Session}
    {m : BaseHeader} {inbuffer : Bytes} {r : TaskReply ρ} (hinit : H.initial = cgiErrUnknown)
    (h : replyWith C H s m inbuffer = some r) :
    r.errorCode ≠ cgiCodeLoginNeedScanQrcode ∧ r.errorCode ≠ cgiCodeLoginFail := by
  rcases errorCode_replyWith h with ⟨-, hcode⟩ | ⟨-, hcode⟩
  · rw [hcode, hinit]
    exact ⟨by decide, by decide⟩
  · exact not_login_of_mem hcode (by decide)

/-- What the callback is told of a task of the interface, class by class. -/
theorem readsRight_of_buf2Resp {env : CgiEnv} {x : CgiState} {task : Task} {i : CgiInput}
    {r : CgiEnd} (hi : FromInterface task) (h : task.impl.buf2Resp env x i = some r)
    (taskid : Nat) :
    Notice.ReadsRight ⟨taskid, (r.res.map .result).getD task.m_res, task.cgitype_, task.taskid_,
      r.errorCode⟩ ↔ ¬ Misread env x task i := by
  obtain ⟨hby, mem, htask⟩ := hi
  have htype : task.cgitype_ = task.impl.cgitype_.getD mem.cgitype_ := by rw [htask]; rfl
  rw [Misread]
  cases himpl : task.impl <;> rw [himpl] at h htype hby
  case getContact | reportSyncKV => exact hby.elim
  case manualAuth t m =>
    obtain ⟨r, -, rfl⟩ := Option.map_eq_some_iff.mp h
    refine iff_of_true (fun T hT => ?_) id
    have hT := (read_eq_some_iff.mp hT).2
    rw [htype] at hT
    rw [sdkCallBack_login hT]
    rfl
  case newInit m =>
    -- an empty plaintext keeps the code of a failed login, every other response replaces it
    obtain ⟨r, hr, rfl⟩ := Option.map_eq_some_iff.mp h
    rcases errorCode_buf2RespWith hr with ⟨ht, hcode⟩ | ⟨ht, hcode⟩
    · exact iff_of_false (not_readsRight_of_fail hcode rfl (by simp [ResPtr.type, CgiResult.type]))
        (not_not.mpr ht)
    · obtain ⟨h₁, h₂⟩ := not_login_of_mem hcode rfl
      exact iff_of_true (readsRight_of_code h₁ h₂ (by rw [htype]; rfl)) ht
  case newSync m =>
    obtain ⟨r, hr, rfl⟩ := Option.map_eq_some_iff.mp h
    obtain ⟨h₁, h₂⟩ := newSync_code hr
    exact iff_of_true (readsRight_of_code h₁ h₂ (by rw [htype]; rfl)) id
  case searchContact m | verifyUser t m =>
    obtain ⟨r, hr, rfl⟩ := Option.map_eq_some_iff.mp h
    obtain ⟨h₁, h₂⟩ := reply_code rfl hr
    exact iff_of_true (readsRight_of_code h₁ h₂ (by rw [htype]; rfl)) id
  case bind t m =>
    obtain ⟨r, hr, rfl⟩ := Option.map_eq_some_iff.mp h
    rcases errorCode_replyWith hr with ⟨ht, hcode⟩ | ⟨ht, hcode⟩
    · exact iff_of_false (not_readsRight_of_fail hcode rfl (by simp [ResPtr.type, CgiResult.type]))
        (not_not.mpr ht)
    · obtain ⟨h₁, h₂⟩ := not_login_of_mem hcode (by decide)
      exact iff_of_true (readsRight_of_code h₁ h₂ (by rw [htype]; rfl)) ht
  case newSend t =>
    -- there is no result, so whatever is read is wrong
    obtain ⟨x, -, rfl⟩ := Option.map_eq_some_iff.mp h
    have hnone : task.m_res.type = none := by
      rw [htask]
      cases hnull : mem.m_resIsNull <;> simp [createTask, hnull, ResPtr.type]
    dsimp only
    rw [← sdkCallBack_isSome_iff]
    constructor
    · rintro h ⟨hfollow, T, hT⟩
      cases hnone.symm.trans (h T (read_eq_some_iff.mpr ⟨hfollow, hT⟩))
    · intro h T hT
      obtain ⟨hfollow, hT⟩ := read_eq_some_iff.mp hT
      exact absurd ⟨hfollow, T, hT⟩ h

/-- **When producer and consumer agree.**  The callback about a response to a task of the interface
reads its result as what it is, or does not read it, on every response but the `Misread` ones. -/
theorem readsRight_iff {env : CgiEnv} {s s' : NetworkService} {taskid : Nat} {task : Task}
    {i : CgiInput} {mem : Memory} (hreg : s.m_cgiCallBack = true)
    (ht : s.map_task_ taskid = some task) (hi : FromInterface task)
    (h : s.buf2Resp env taskid i mem = some s') :
    ∃ n, s'.called = s.called ++ [n] ∧ (n.ReadsRight ↔ ¬ Misread env s.state task i) := by
  obtain ⟨r, hr, hcalled⟩ := NetworkService.called_buf2Resp hreg ht h
  exact ⟨_, hcalled, readsRight_of_buf2Resp hi hr taskid⟩

/-- A sync that is answered by a header alone. -/
theorem readsRight_headerOnly : ∃ s' n,
    (NetworkService.firstTask .zeroed).buf2Resp plainCgiEnv 1 headerOnly .zeroed = some s' ∧
      s'.called = [] ++ [n] ∧ (n.ReadsRight ↔ ¬ Misread plainCgiEnv ⟨{}, ⟨none, 0⟩⟩
        (createTask .zeroed (.newSync {})) headerOnly) := by
  obtain ⟨s', hs⟩ := Option.isSome_iff_exists.mp (show ((NetworkService.firstTask .zeroed).buf2Resp
    plainCgiEnv 1 headerOnly .zeroed).isSome = true by decide +kernel)
  obtain ⟨n, hn⟩ :=
    readsRight_iff rfl (NetworkService.map_firstTask _) ⟨trivial, .zeroed, rfl⟩ hs
  exact ⟨s', n, hs, hn⟩

/-! ### A response of another key -/

/-- Sixteen times the character `0` under AES-128-CBC: there is no padding to take off. -/
def unpaddedBody : Bytes :=
  [0x28, 0x28, 0xef, 0xe2, 0x2a, 0xac, 0xb2, 0xe1, 0xf9, 0xaf, 0x33, 0x66, 0x0a, 0xe2, 0xa7, 0x46]

def unpaddedInput : CgiInput where
  errorCode := 0
  inbuffer := [0xbf, 0x7a, 0x5f, 0, 0, 0, 0, 0, 0, 0, 0] ++ List.replicate 15 1 ++
    [0x8b, 0x01, 0x10, 0x10] ++ unpaddedBody
  time := 0

def unpaddedEnv : CgiEnv where
  __ := plainCgiEnv
  crypto := decrypting unpaddedBody (List.replicate 16 0x30) rfl

/-- A service with a started `NewInit` task, after a login. -/
def initService : NetworkService :=
  let s := NetworkService.idle.startTask (createTask .zeroed (.newInit {}))
  { s with state := ⟨{ session := { authInfo := { m_Session := brokenKey } } }, ⟨none, 0⟩⟩ }

/-- The result of a `NewInit` whose response does not decrypt is taken for that of a login. -/
theorem not_readsRight : ¬ ∀ (env : CgiEnv) (s s' : NetworkService) (taskid : Nat) (task : Task)
    (i : CgiInput) (mem : Memory) (n : Notice), s.m_cgiCallBack = true →
    s.map_task_ taskid = some task → FromInterface task →
    s.buf2Resp env taskid i mem = some s' → s'.called = s.called ++ [n] → n.ReadsRight := by
  intro h
  have hnotice : (initService.buf2Resp unpaddedEnv 1 unpaddedInput .zeroed).map
      (fun s' => s'.called.map fun n => (n.nCode, n.result.isNull, n.result.type)) =
        some [(cgiCodeLoginFail, false, some .newInit)] := by decide +kernel
  obtain ⟨s', hs, hnotice⟩ := Option.map_eq_some_iff.mp hnotice
  obtain ⟨n, hcalled, hn⟩ := List.map_eq_singleton_iff.mp hnotice
  obtain ⟨hcode, hnull, hres⟩ : n.nCode = cgiCodeLoginFail ∧ n.result.isNull = false ∧
      n.result.type = some .newInit := by simpa using hn
  have hmap : initService.map_task_ 1 = some (createTask .zeroed (.newInit {})) :=
    Function.update_self (f := NetworkService.idle.map_task_) 1 _
  exact not_readsRight_of_fail hcode hnull (by rw [hres]; decide)
    (h unpaddedEnv initService s' 1 _ unpaddedInput .zeroed n rfl hmap ⟨trivial, .zeroed, rfl⟩ hs
      hcalled)

end MicroChat
