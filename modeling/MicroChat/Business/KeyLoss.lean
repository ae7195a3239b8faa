import MicroChat.Business.AuthInfo
import MicroChat.Support.Runs

/-!
# Business — KeyLoss

When a stored sync key survives.  `UpdateSyncKey` deletes the old key in one statement and inserts
the new one in another, and stores the empty text for a response without a key; and `LoadFromDB`
empties the whole database of a client without a key.

* `HoldsKey`: a database with a key that `GetSyncKey` reads as one.
* `KeyStays`, `SafeResponse`: what a response must be like for the key to survive it.
* `holdsKey_step_iff`: which responses a key survives, and `key_survives` over any number of them.
-/

namespace MicroChat
open Support Support.Sql

/-- The key table holds a key that is not empty, and is read without leaving an array. -/
def HoldsKey (s : Sql3) : Prop :=
  ∃ t, CMicroChatDB.copiedKey ((s.rows synckeyTable).getD []) = some t ∧ hex2bin t ≠ []

/-- With `key` stored by the statements `n` and `n + 1` there is a key: the second is executed and
`key` is not empty and fits, or neither is executed. -/
def KeyStays (E : Sqlite) (n : Nat) (key : Bytes) : Prop :=
  if E.fails (n + 1) then E.fails n = true else key ≠ [] ∧ 3 * key.length < 4096

/-- The statement leaves the key table of any database. -/
def LeavesKeys (E : Sqlite) (text : Bytes) : Prop :=
  ∀ n db, (E.exec n (cstr text) db).1.tables synckeyTable = db.tables synckeyTable

/-- So do the statements the item is stored with. -/
def Decoded.LeavesKeys (env : Env) (storesContacts : Bool) : Decoded → Prop
  | .message pMsg => MicroChat.LeavesKeys env.sqlite (addMsgText env.platform pMsg)
  | .contact pInfo => storesContacts = true →
      MicroChat.LeavesKeys env.sqlite (unicodeToUtf8 (insertContactText env.platform pInfo))
  | .skip | .bad => True

/-- If the response opens then storing its key leaves a key, and its items leave the key table. -/
def SafeResponse (env : Env) (H : SyncHandler) (s : Session) (m : BaseHeader) (db : Sql3)
    (inbuffer : Bytes) : Prop :=
  ∀ key cnt items, Opens env H s m inbuffer key cnt items →
    KeyStays env.sqlite db.calls key ∧ ∀ item ∈ items.take cnt.toInt.toNat, ∀ d,
      H.decode item = some d → d.LeavesKeys env H.storesContacts

/-! ### One response -/

section
variable {env : Env} {H : SyncHandler} {s : Session} {m : BaseHeader} {db : Sql3}
  {inbuffer : Bytes}

/-- An item without apostrophes leaves the keys. -/
theorem Decoded.QuoteFree.leavesKeys {storesContacts : Bool} {d : Decoded}
    (h : d.QuoteFree env.platform storesContacts) : d.LeavesKeys env storesContacts := by
  have hins {table : Bytes} {columns values : List Bytes} (h : Insertable table columns values)
      (hq : ∀ v ∈ values, apostrophe ∉ v) (hkey : synckeyTable ≠ table) :
      MicroChat.LeavesKeys env.sqlite (insertText table columns values) := fun n db => by
    rw [h.cstr_insertText]
    exact exec_insertText_ne h hq hkey
  cases d with
  | message pMsg =>
      change MicroChat.LeavesKeys env.sqlite (addMsgText env.platform pMsg)
      rw [addMsgText_eq]
      exact hins (insertable_msgValues env.platform pMsg)
        ((msgValues_quoteFree_iff env.platform).mpr h) (by decide)
  | contact pInfo =>
      intro hstores
      rw [insertContactText_eq]
      exact hins (insertable_contactValues env.platform pInfo) (h hstores) (by decide)
  | skip | bad => trivial

theorem rows_execSQL_of_leavesKeys {E : Sqlite} {text : Bytes} (h : LeavesKeys E text) (s : Sql3) :
    (s.execSQL E text).1.rows synckeyTable = s.rows synckeyTable := by
  obtain ⟨m_pDB, calls⟩ := s
  cases m_pDB with
  | none => rfl
  | some db => exact h calls db

theorem rows_storeItem_of_leavesKeys {storesContacts : Bool} {st : SyncState} {d : Decoded}
    (h : d.LeavesKeys env storesContacts) :
    (storeItem env storesContacts st d).db.rows synckeyTable = st.db.rows synckeyTable := by
  cases d with
  | message pMsg => exact rows_execSQL_of_leavesKeys h st.db
  | contact pInfo =>
      cases storesContacts with
      | true => exact rows_execSQL_of_leavesKeys (h rfl) st.db
      | false => rfl
  | skip | bad => rfl

/-- A response that opens leaves the key table as storing its key does. -/
theorem rows_of_opens {r : SyncResponse} {key : Bytes} {cnt : Int32} {items : List Item}
    (ho : Opens env H s m inbuffer key cnt items)
    (hitems : ∀ item ∈ items.take cnt.toInt.toNat, ∀ d, H.decode item = some d →
      d.LeavesKeys env H.storesContacts)
    (h : buf2RespWith env H s m db inbuffer = some r) :
    r.db.rows synckeyTable = (setSyncKey env.platform env.sqlite db key).rows synckeyTable := by
  rcases buf2RespWith_cases ho h with ⟨-, -, hdb, -⟩ | ⟨ok, st, -, hloop, -, hdb, -⟩
  · rw [hdb]
  · rw [hdb]
    exact itemLoop_preserves (f := fun st => st.db.rows synckeyTable)
      (fun item hi d hd st => rows_storeItem_of_leavesKeys (hitems item hi d hd)) hloop

theorem holdsKey_iff {db : Sql3} : HoldsKey db ↔ ∃ key, ReadsKey db key ∧ key ≠ [] := by
  simp only [HoldsKey, ReadsKey, Option.map_eq_some_iff]
  constructor
  · rintro ⟨t, ht, hne⟩
    exact ⟨_, ⟨t, ht, rfl⟩, hne⟩
  · rintro ⟨_, ⟨t, ht, rfl⟩, hne⟩
    exact ⟨t, ht, hne⟩

/-- A database with a key has the table of it. -/
theorem HoldsKey.rows (h : HoldsKey db) : ∃ rows, db.rows synckeyTable = some rows := by
  obtain ⟨key, hkey, hne⟩ := holdsKey_iff.mp h
  cases hrows : db.rows synckeyTable with
  | none => exact absurd ((readsKey_of_rows_none hrows).mp hkey) hne
  | some rows => exact ⟨rows, rfl⟩

/-- **Storing a key** over one that is there leaves one exactly if the key stays. -/
theorem holdsKey_setSyncKey_iff (h : HoldsKey db) {key : Bytes} :
    HoldsKey (setSyncKey env.platform env.sqlite db key) ↔ KeyStays env.sqlite db.calls key := by
  obtain ⟨rows, hrows⟩ := h.rows
  obtain ⟨old, hold, hne⟩ := holdsKey_iff.mp h
  rw [holdsKey_iff, KeyStays]
  simp only [readsKey_setSyncKey_iff, KeyStored, executes_iff hrows]
  cases hins : env.sqlite.fails (db.calls + 1) with
  | true =>
      cases hdel : env.sqlite.fails db.calls with
      | true => simpa using ⟨old, hold, hne⟩
      | false => simp
  | false =>
      have hread : ∃ k, ReadsKey db k := ⟨old, hold⟩
      simp only [hread, or_true, and_true, true_imp_iff, not_true, false_imp_iff,
        Bool.false_eq_true, if_false]
      constructor
      · rintro ⟨_, ⟨rfl, hlen⟩, hne⟩
        exact ⟨hne, hlen⟩
      · rintro ⟨hne, hlen⟩
        exact ⟨key, ⟨rfl, hlen⟩, hne⟩

/-- **One response** whose items leave the keys: a key is left exactly if the response does not
open, or the key it brings stays. -/
theorem holdsKey_step_iff {r : SyncResponse} (h : HoldsKey db)
    (hitems : ∀ key cnt items, Opens env H s m inbuffer key cnt items →
      ∀ item ∈ items.take cnt.toInt.toNat, ∀ d, H.decode item = some d →
        d.LeavesKeys env H.storesContacts)
    (hr : buf2RespWith env H s m db inbuffer = some r) :
    HoldsKey r.db ↔ ∀ key cnt items, Opens env H s m inbuffer key cnt items →
      KeyStays env.sqlite db.calls key := by
  have hopens {key : Bytes} {cnt : Int32} {items : List Item}
      (ho : Opens env H s m inbuffer key cnt items) :
      HoldsKey r.db ↔ KeyStays env.sqlite db.calls key := by
    rw [HoldsKey, rows_of_opens ho (hitems key cnt items ho) hr]
    exact holdsKey_setSyncKey_iff h
  by_cases hex : ∃ key cnt items, Opens env H s m inbuffer key cnt items
  · obtain ⟨key, cnt, items, ho⟩ := hex
    exact ⟨fun hk _ _ _ ho' => (hopens ho').mp hk, fun hk => (hopens ho).mpr (hk _ _ _ ho)⟩
  · refine iff_of_true ?_ fun key cnt items ho => absurd ⟨key, cnt, items, ho⟩ hex
    cases buf2RespWith_outcome hr with
    | closed hdb _ => exact hdb ▸ h
    | empty ho _ _ | failed ho _ _ _ | finished ho _ _ _ _ => exact absurd ⟨_, _, _, ho⟩ hex

end

/-! ### Any number of responses -/

/-- A response to a task of either kind: the session and the members of the task's header it comes
to, and its bytes. -/
inductive Reply where
  | newSync (s : Session) (m : BaseHeader) (inbuffer : Bytes)
  | newInit (s : Session) (m : BaseHeader) (inbuffer : Bytes)

/-- What `Buf2Resp` makes of it. -/
def Reply.buf2Resp (env : Env) (db : Sql3) : Reply → Option SyncResponse
  | .newSync s m inbuffer => newSyncBuf2Resp env s m db inbuffer
  | .newInit s m inbuffer => newInitBuf2Resp env s m db inbuffer

def Reply.Safe (env : Env) (db : Sql3) : Reply → Prop
  | .newSync s m inbuffer => SafeResponse env (newSyncHandler env) s m db inbuffer
  | .newInit s m inbuffer => SafeResponse env (newInitHandler env) s m db inbuffer

def ReplyStep (env : Env) (db : Sql3) (e : Reply) (db' : Sql3) : Prop :=
  ∃ r, e.buf2Resp env db = some r ∧ r.db = db'

/-- The databases after any responses, from one with a key. -/
def ReplyReachable (env : Env) : Sql3 → Prop := Reachable HoldsKey (ReplyStep env)

/-- The databases after safe responses. -/
def SafeReachable (env : Env) : Sql3 → Prop :=
  Reachable HoldsKey fun db e db' => ReplyStep env db e db' ∧ e.Safe env db

section
variable {env : Env} {db : Sql3}

theorem SafeReachable.holdsKey (h : SafeReachable env db) : HoldsKey db := by
  refine h.invariant HoldsKey (fun _ h => h) ?_
  rintro db e db' h ⟨⟨r, hr, rfl⟩, hsafe⟩
  cases e with
  | newSync s m inbuffer =>
      exact (holdsKey_step_iff h (fun key cnt items ho => (hsafe key cnt items ho).2) hr).mpr
        fun key cnt items ho => (hsafe key cnt items ho).1
  | newInit s m inbuffer =>
      exact (holdsKey_step_iff h (fun key cnt items ho => (hsafe key cnt items ho).2) hr).mpr
        fun key cnt items ho => (hsafe key cnt items ho).1

/-- A database with a key, read by a statement that succeeds. -/
theorem HoldsKey.getSyncKey (h : HoldsKey db) (hf : env.sqlite.fails db.calls = false) :
    ∃ key, CAuthInfo.getSyncKey env.sqlite db = ({ db with calls := db.calls + 1 }, some key) ∧
      key ≠ [] := by
  obtain ⟨key, hkey, hne⟩ := holdsKey_iff.mp h
  obtain ⟨rows, hrows⟩ := h.rows
  refine ⟨key, Prod.ext ?_ ((getSyncKey_eq_some_iff hf).mpr hkey), hne⟩
  obtain ⟨m_pDB, n⟩ := db
  cases m_pDB with
  | none => cases hrows
  | some db => rfl

/-- **When a stored key survives.**  After any safe responses `GetSyncKey`, its statement
succeeding, returns a key that is not empty, and `LoadFromDB` deletes nothing. -/
theorem key_survives (h : SafeReachable env db) (hf : env.sqlite.fails db.calls = false) :
    (∃ key, (CAuthInfo.getSyncKey env.sqlite db).2 = some key ∧ key ≠ []) ∧
      ∃ db', loadFromDB env.sqlite db = some (db', false) ∧
        ∀ table, db'.rows table = db.rows table := by
  obtain ⟨key, hkey, hne⟩ := h.holdsKey.getSyncKey hf
  have hlen : key.length ≠ 0 := by simpa using hne
  refine ⟨⟨key, by rw [hkey], hne⟩, ⟨{ db with calls := db.calls + 1 + 2 }, ?_, fun _ => rfl⟩⟩
  rw [loadFromDB, hkey]
  exact congrArg some (if_neg hlen)

end

/-! ### Two responses -/

/-- A database with a key. -/
def keyDb : Sql3 := ⟨some (emptyDb.set synckeyTable [synckeyColumns.zip [bin2Hex (ascii "a")]]), 0⟩

theorem holdsKey_keyDb : HoldsKey keyDb := ⟨bin2Hex (ascii "a"), by decide +kernel, by decide⟩

def brokenReply : Reply :=
  .newSync { authInfo := { m_Session := brokenKey } } {} brokenResponse

/-- The broken response brings a key that stays, and an item that does not parse. -/
theorem safe_brokenReply : brokenReply.Safe brokenEnv keyDb := by
  intro key cnt items ho
  have hp := (opens_iff_of_text (show _ = some (some brokenText) by decide +kernel)).mp ho
  have hparse : (newSyncHandler brokenEnv).parse brokenText =
      some (ascii "k", 1, [⟨5, [0x12]⟩]) := by decide +kernel
  cases hparse.symm.trans hp
  refine ⟨?_, fun item hi d hd => ?_⟩
  · exact ⟨by decide, by decide⟩
  · have hitem : item = ⟨5, [0x12]⟩ := by simpa using List.mem_of_mem_take hi
    subst hitem
    cases hd
    trivial

/-- The key survives the broken response. -/
theorem key_survives_brokenReply : ∃ r, brokenReply.buf2Resp brokenEnv keyDb = some r ∧
    ∃ key, (CAuthInfo.getSyncKey brokenEnv.sqlite r.db).2 = some key ∧ key ≠ [] := by
  have hsome : (brokenReply.buf2Resp brokenEnv keyDb).isSome := by decide +kernel
  obtain ⟨r, hr⟩ := Option.isSome_iff_exists.mp hsome
  have hreach : SafeReachable brokenEnv r.db :=
    Reachable.next (.start holdsKey_keyDb) ⟨⟨r, hr, rfl⟩, safe_brokenReply⟩
  exact ⟨r, hr, (key_survives hreach rfl).1⟩

/-- A count of 0, and no key. -/
def keylessText : Bytes := [0x12, 0x02, 0x08, 0x00]

/-- `keylessText` and its padding under AES-128-CBC. -/
def keylessBody : Bytes :=
  [0x48, 0x23, 0xf7, 0x95, 0xd5, 0x02, 0x2b, 0x46, 0x70, 0x7a, 0x9d, 0xa9, 0xf4, 0xd7, 0x9b, 0x5f]

def keylessResponse : Bytes :=
  [0xbf, 0x7a, 0x5f, 0, 0, 0, 0, 0, 0, 0, 0] ++ List.replicate 15 1 ++ [0x8a, 0x01, 0x04, 0x04] ++
    keylessBody

/-- The libraries on `keylessResponse`. -/
def keylessEnv : Env :=
  { plainEnv with
    crypto := decrypting keylessBody (keylessText ++ List.replicate 12 0x0c) rfl
    proto := { plainEnv.proto with
      newSyncResp := fun s => if s = keylessText then some ⟨[], 0, []⟩ else none } }

/-- A response without a key, every statement executed: the empty text is stored in place of the
key. -/
theorem not_key_survives : ¬ ∀ (env : Env) (db : Sql3), (∀ n, env.sqlite.fails n = false) →
    ReplyReachable env db →
      ∃ key, (CAuthInfo.getSyncKey env.sqlite db).2 = some key ∧ key ≠ [] := by
  intro h
  let e : Reply := .newSync { authInfo := { m_Session := brokenKey } } {} keylessResponse
  have hkey : (e.buf2Resp keylessEnv keyDb).map
      (fun r => (CAuthInfo.getSyncKey keylessEnv.sqlite r.db).2) = some (some []) := by
    decide +kernel
  obtain ⟨r, hr, he⟩ := Option.map_eq_some_iff.mp hkey
  obtain ⟨key, hkey, hne⟩ := h keylessEnv r.db (fun _ => rfl)
    (Reachable.next (.start holdsKey_keyDb) ⟨r, hr, rfl⟩)
  rw [he] at hkey
  cases hkey
  exact hne rfl

end MicroChat
