import MicroChat.Business.Items
import MicroChat.Business.KeyLoss

/-!
# Business — ReportKey

`ReportSyncKVCGITask`: the key of a `NewSync` response goes through the database to the task that
reports it, and other responses store theirs in the same place.

* `packet`, `req2Buf`: the request of `ReportSyncKVCGITask`.
* `Client`, `Step`: responses, the requests that read the key, and the ends of the tasks, in any
  order; every task that waits is listed with the key of the response that started it.
* `Orderly`, `reportsOwn_buf2Resp_iff`: the responses after which every task still finds its key.
* `reports_own_key`: in runs of such responses every task reports its key.
-/

namespace MicroChat.Report
open Support

/-! ### The request -/

/-- What a report is built with. -/
structure ReportEnv extends Env where
  /-- `syncMsgKey_::ParsePartialFromArray`, and `msgkey().SerializePartialAsString()` of it -/
  syncMsgKey : Bytes → Option Bytes

/-- `string ReportSyncKVCGITask::MakeHeader(int nLenProtobuf)`. -/
def makeHeader (nLenProtobuf : Nat) : Bytes := [0, 0, 0, 0xd0] ++ be 4 nLenProtobuf

/-- The request that a key is serialised into. -/
def packet (env : ReportEnv) (strSyncKey : Bytes) : Bytes :=
  let reqProtobuf := (env.syncMsgKey strSyncKey).getD []
  makeHeader reqProtobuf.length ++ reqProtobuf

/-- `bool ReportSyncKVCGITask::Req2Buf(…)`: the database afterwards, and the request. -/
def req2Buf (env : ReportEnv) (db : Sql3) : Option (Sql3 × Bytes) :=
  let (db, strSyncKey) := CAuthInfo.getSyncKey env.sqlite db
  strSyncKey.map fun strSyncKey => (db, packet env strSyncKey)

/-- The database after `NewSyncCGITask::Req2Buf`, which reads the key as well, twice if there is
one. -/
def newSyncReq2Buf (E : Sqlite) (db : Sql3) : Option Sql3 :=
  let (db, strSyncKey) := CAuthInfo.getSyncKey E db
  strSyncKey.bind fun strSyncKey =>
    if strSyncKey.length = 0 then some db
    else
      let (db, strSyncKey) := CAuthInfo.getSyncKey E db
      strSyncKey.map fun _ => db

theorem req2Buf_of_getSyncKey {env : ReportEnv} {db : Sql3} {key : Bytes}
    (h : (CAuthInfo.getSyncKey env.sqlite db).2 = some key) :
    req2Buf env db = some ((CAuthInfo.getSyncKey env.sqlite db).1, packet env key) := by
  change (CAuthInfo.getSyncKey env.sqlite db).2.map _ = _
  rw [h]
  rfl

/-! ### The client -/

/-- The database, and the `ReportSyncKV` tasks that wait, by their ids, with the keys of the
responses that started them. -/
structure Client where
  db : Sql3
  waiting : Nat → Option Bytes

inductive Event where
  | buf2Resp (reply : Reply)
  | req2Buf (taskid : Nat) (outbuffer : Bytes)
  | newSyncReq2Buf
  | onTaskEnd (taskid : Nat)

/-- The handler of a reply. -/
def handler (env : Env) : Reply → SyncHandler
  | .newSync .. => newSyncHandler env
  | .newInit .. => newInitHandler env

/-- The reply decrypts to a plaintext that parses as a key, a count and items. -/
def OpensTo (env : Env) (key : Bytes) (cnt : Int32) (items : List Item) : Reply → Prop
  | .newSync s m inbuffer => Opens env (newSyncHandler env) s m inbuffer key cnt items
  | .newInit s m inbuffer => Opens env (newInitHandler env) s m inbuffer key cnt items

/-- The reply starts a report. -/
def Reports (env : Env) : Reply → Prop
  | .newSync s m inbuffer => AcceptedResponse env (newSyncHandler env) s m inbuffer
  | .newInit .. => False

/-- What happens to a client.  `NewInitCGITask::Req2Buf` does not come to the database. -/
inductive Step (env : ReportEnv) (c : Client) : Event → Client → Prop where
  /-- a response after which the server is told, by a task with an id of its own -/
  | reported {reply : Reply} {r : SyncResponse} {key : Bytes} {cnt : Int32} {items : List Item}
      {taskid : Nat} (hr : reply.buf2Resp env.toEnv c.db = some r) (hreported : r.reported = true)
      (ho : OpensTo env.toEnv key cnt items reply) (hid : c.waiting taskid = none) :
      Step env c (.buf2Resp reply) ⟨r.db, Function.update c.waiting taskid (some key)⟩
  | silent {reply : Reply} {r : SyncResponse} (hr : reply.buf2Resp env.toEnv c.db = some r)
      (hsilent : r.reported = false) : Step env c (.buf2Resp reply) ⟨r.db, c.waiting⟩
  | req2Buf {taskid : Nat} {key outbuffer : Bytes} {db : Sql3} (hid : c.waiting taskid = some key)
      (hreq : req2Buf env c.db = some (db, outbuffer)) :
      Step env c (.req2Buf taskid outbuffer) ⟨db, c.waiting⟩
  | newSyncReq2Buf {db : Sql3} (hreq : newSyncReq2Buf env.sqlite c.db = some db) :
      Step env c .newSyncReq2Buf ⟨db, c.waiting⟩
  /-- a task that makes no more requests -/
  | onTaskEnd (taskid : Nat) :
      Step env c (.onTaskEnd taskid) ⟨c.db, Function.update c.waiting taskid none⟩

/-- No report waits. -/
def Started (c : Client) : Prop := ∀ taskid, c.waiting taskid = none

/-- A task that waits, or the one the reply starts, is to report this key. -/
def ToReport (env : Env) (c : Client) (reply : Reply) (key' key : Bytes) : Prop :=
  (∃ taskid, c.waiting taskid = some key) ∨ Reports env reply ∧ key = key'

/-- No other key takes the place of one that is to be reported: if the reply opens then what is
stored of its key is the key of every task that waits, and its items leave the key table. -/
def KeysKept (env : Env) (c : Client) (reply : Reply) : Prop :=
  ∀ key' cnt items, OpensTo env key' cnt items reply →
    ∀ key, ToReport env c reply key' key → KeyStored env.sqlite c.db key' key ∧
      ∀ item ∈ items.take cnt.toInt.toNat, ∀ d, (handler env reply).decode item = some d →
        d.LeavesKeys env (handler env reply).storesContacts

/-- The steps that keep the keys, and read them. -/
def Orderly (env : ReportEnv) (c : Client) : Event → Prop
  | .buf2Resp reply => KeysKept env.toEnv c reply
  | .req2Buf taskid _ => env.sqlite.fails c.db.calls = true → c.waiting taskid = some []
  | .newSyncReq2Buf | .onTaskEnd _ => True

/-- The states of all runs, and of the orderly ones. -/
def ClientReachable (env : ReportEnv) : Client → Prop := Reachable Started (Step env)

def OrderlyReachable (env : ReportEnv) : Client → Prop :=
  Reachable Started fun c e c' => Step env c e c' ∧ Orderly env c e

/-- Every task that waits would find its key. -/
def ReportsOwn (c : Client) : Prop := ∀ taskid key, c.waiting taskid = some key → ReadsKey c.db key

/-! ### One response -/

section
variable {env : ReportEnv} {c c' : Client} {reply : Reply} {r : SyncResponse} {db : Sql3}
  {key key' : Bytes} {cnt : Int32} {items : List Item}

/-- A reply opens to one key and its items. -/
theorem OpensTo.unique {env : Env} {cnt' : Int32} {items' : List Item}
    (h : OpensTo env key cnt items reply) (h' : OpensTo env key' cnt' items' reply) :
    (key', cnt', items') = (key, cnt, items) := by
  have hone {H : SyncHandler} {s : Session} {m : BaseHeader} {inbuffer : Bytes}
      (h : Opens env H s m inbuffer key cnt items)
      (h' : Opens env H s m inbuffer key' cnt' items') :
      (key', cnt', items') = (key, cnt, items) := by
    obtain ⟨u, text, ho, hp⟩ := h
    obtain ⟨u', text', ho', hp'⟩ := h'
    cases ho.symm.trans ho'
    exact Option.some_inj.mp (hp'.symm.trans hp)
  cases reply with
  | newSync | newInit => exact hone h h'

/-- The replies after which the server is told. -/
theorem reported_iff_reports {env : Env} (hr : reply.buf2Resp env db = some r) :
    r.reported = true ↔ Reports env reply := by
  cases reply with
  | newSync s m inbuffer => exact (reported_iff hr).trans (and_iff_right rfl)
  | newInit s m inbuffer =>
      refine iff_of_false (fun h => ?_) id
      cases ((reported_iff hr).mp h).1

/-- A reply that does not open leaves the database. -/
theorem db_of_not_opensTo {env : Env} (hr : reply.buf2Resp env db = some r)
    (hno : ∀ key cnt items, ¬ OpensTo env key cnt items reply) : r.db = db := by
  have hclosed {H : SyncHandler} {s : Session} {m : BaseHeader} {inbuffer : Bytes}
      (hr : buf2RespWith env H s m db inbuffer = some r)
      (hno : ∀ key cnt items, ¬ Opens env H s m inbuffer key cnt items) : r.db = db := by
    cases buf2RespWith_outcome hr with
    | closed hdb _ => exact hdb
    | empty ho _ _ | failed ho _ _ _ | finished ho _ _ _ _ => exact absurd ho (hno _ _ _)
  cases reply with
  | newSync | newInit => exact hclosed hr hno

/-- What is read after a reply that opens. -/
theorem readsKey_buf2Resp_iff (hs : Step env c (.buf2Resp reply) c')
    (ho : OpensTo env.toEnv key' cnt items reply)
    (hitems : ∀ item ∈ items.take cnt.toInt.toNat, ∀ d,
      (handler env.toEnv reply).decode item = some d →
        d.LeavesKeys env.toEnv (handler env.toEnv reply).storesContacts) :
    ReadsKey c'.db key ↔ KeyStored env.sqlite c.db key' key := by
  have hrows {r : SyncResponse} (hr : reply.buf2Resp env.toEnv c.db = some r) :
      r.db.rows synckeyTable =
        (setSyncKey env.platform env.sqlite c.db key').rows synckeyTable := by
    cases reply with
    | newSync | newInit => exact rows_of_opens ho hitems hr
  rw [← readsKey_setSyncKey_iff env.platform key']
  cases hs with
  | reported hr | silent hr => rw [ReadsKey, ReadsKey, hrows hr]

/-- The keys that wait after a reply: those that waited, and the one of a report it starts. -/
theorem waiting_buf2Resp (hs : Step env c (.buf2Resp reply) c')
    (ho : OpensTo env.toEnv key' cnt items reply) :
    (∃ taskid, c'.waiting taskid = some key) ↔ ToReport env.toEnv c reply key' key := by
  cases hs with
  | reported hr hreported ho' hid =>
      rename_i taskid
      cases ho.unique ho'
      have hreports := (reported_iff_reports hr).mp hreported
      constructor
      · rintro ⟨t, ht⟩
        rcases of_update_eq_some ht with ⟨-, he⟩ | ⟨-, hold⟩
        · exact .inr ⟨hreports, (Option.some_inj.mp he).symm⟩
        · exact .inl ⟨t, hold⟩
      · rintro (⟨t, ht⟩ | ⟨-, rfl⟩)
        · refine ⟨t, (Function.update_of_ne ?_ ..).trans ht⟩
          rintro rfl
          rw [hid] at ht
          cases ht
        · exact ⟨taskid, Function.update_self ..⟩
  | silent hr hsilent =>
      have hno : ¬ Reports env.toEnv reply := by
        rw [← reported_iff_reports hr, hsilent]
        decide
      exact ⟨.inl, fun h => h.resolve_right fun h => hno h.1⟩

/-- A reply that does not open changes nothing. -/
theorem eq_of_not_opensTo (hs : Step env c (.buf2Resp reply) c')
    (hno : ∀ key cnt items, ¬ OpensTo env.toEnv key cnt items reply) : c' = c := by
  cases hs with
  | reported _ _ ho _ => exact absurd ho (hno _ _ _)
  | silent hr _ => rw [db_of_not_opensTo hr hno]

/-- A reply that keeps the keys. -/
theorem ReportsOwn.buf2Resp (h : ReportsOwn c) (hs : Step env c (.buf2Resp reply) c')
    (hkept : KeysKept env.toEnv c reply) : ReportsOwn c' := by
  by_cases hopens : ∃ key' cnt items, OpensTo env.toEnv key' cnt items reply
  · obtain ⟨key', cnt, items, ho⟩ := hopens
    intro taskid key hw
    obtain ⟨hstored, hitems⟩ := hkept key' cnt items ho key ((waiting_buf2Resp hs ho).mp ⟨_, hw⟩)
    exact (readsKey_buf2Resp_iff hs ho hitems).mpr hstored
  · have hno (key' : Bytes) (cnt : Int32) (items : List Item) :
        ¬ OpensTo env.toEnv key' cnt items reply := fun ho => hopens ⟨_, _, _, ho⟩
    rw [eq_of_not_opensTo hs hno]
    exact h

/-- **One response**, whose items leave the key table, to a client all of whose reports find their
keys: they still do, and a new one does, exactly if what is stored is the key of each of them. -/
theorem reportsOwn_buf2Resp_iff (h : ReportsOwn c) (hs : Step env c (.buf2Resp reply) c')
    (hitems : ∀ key cnt items, OpensTo env.toEnv key cnt items reply →
      ∀ item ∈ items.take cnt.toInt.toNat, ∀ d, (handler env.toEnv reply).decode item = some d →
        d.LeavesKeys env.toEnv (handler env.toEnv reply).storesContacts) :
    ReportsOwn c' ↔ KeysKept env.toEnv c reply := by
  refine ⟨?_, h.buf2Resp hs⟩
  intro hafter key' cnt items ho key hkey
  obtain ⟨taskid, hw⟩ := (waiting_buf2Resp hs ho).mpr hkey
  have hleave := hitems key' cnt items ho
  exact ⟨(readsKey_buf2Resp_iff hs ho hleave).mp (hafter taskid key hw), hleave⟩

end

/-! ### Runs -/

section
variable {env : ReportEnv} {c c' : Client}

/-- Reading the key leaves the rows. -/
theorem rows_getSyncKey (E : Sqlite) (db : Sql3) (table : Bytes) :
    (CAuthInfo.getSyncKey E db).1.rows table = db.rows table := by
  obtain ⟨m_pDB, n⟩ := db
  cases m_pDB <;> rfl

theorem rows_req2Buf {db db' : Sql3} {outbuffer : Bytes}
    (h : req2Buf env db = some (db', outbuffer)) :
    db'.rows synckeyTable = db.rows synckeyTable := by
  obtain ⟨key, -, he⟩ := Option.map_eq_some_iff.mp h
  cases he
  exact rows_getSyncKey env.sqlite db synckeyTable

theorem rows_newSyncReq2Buf {E : Sqlite} {db db' : Sql3} (h : newSyncReq2Buf E db = some db') :
    db'.rows synckeyTable = db.rows synckeyTable := by
  obtain ⟨key, -, h⟩ := Option.bind_eq_some_iff.mp h
  split at h
  · cases h
    exact rows_getSyncKey E db synckeyTable
  · obtain ⟨key', -, he⟩ := Option.map_eq_some_iff.mp h
    have hsecond := rows_getSyncKey E (CAuthInfo.getSyncKey E db).1 synckeyTable
    rw [← he]
    exact hsecond.trans (rows_getSyncKey E db synckeyTable)

/-- **One orderly step.** -/
theorem ReportsOwn.step {e : Event} (h : ReportsOwn c) (hs : Step env c e c')
    (ho : Orderly env c e) : ReportsOwn c' := by
  cases e with
  | buf2Resp reply => exact h.buf2Resp hs ho
  | req2Buf taskid outbuffer =>
      cases hs with
      | req2Buf hid hreq =>
          intro taskid key hw
          rw [ReadsKey, rows_req2Buf hreq]
          exact h taskid key hw
  | newSyncReq2Buf =>
      cases hs with
      | newSyncReq2Buf hreq =>
          intro taskid key hw
          rw [ReadsKey, rows_newSyncReq2Buf hreq]
          exact h taskid key hw
  | onTaskEnd taskid =>
      cases hs
      intro taskid key hw
      exact h taskid key (of_erase_eq_some hw).2

theorem OrderlyReachable.reportsOwn (h : OrderlyReachable env c) : ReportsOwn c := by
  refine h.invariant ReportsOwn ?_ ?_
  · intro c hstart taskid key hw
    rw [hstart taskid] at hw
    cases hw
  · rintro c e c' h ⟨hs, ho⟩
    exact h.step hs ho

/-- **Reports in orderly runs.**  The key that a task reads and serialises is the key of the
response that started it. -/
theorem reports_own_key {taskid : Nat} {key outbuffer : Bytes} (h : OrderlyReachable env c)
    (hs : Step env c (.req2Buf taskid outbuffer) c')
    (ho : Orderly env c (.req2Buf taskid outbuffer)) (hkey : c.waiting taskid = some key) :
    (CAuthInfo.getSyncKey env.sqlite c.db).2 = some key ∧ outbuffer = packet env key := by
  have hread : (CAuthInfo.getSyncKey env.sqlite c.db).2 = some key := by
    cases hf : env.sqlite.fails c.db.calls with
    | true =>
        cases hkey.symm.trans (ho hf)
        exact getSyncKey_of_fails hf
    | false => exact (getSyncKey_eq_some_iff hf).mpr (h.reportsOwn taskid key hkey)
  refine ⟨hread, ?_⟩
  cases hs with
  | req2Buf _ hreq =>
      rw [req2Buf_of_getSyncKey hread] at hreq
      cases hreq
      rfl

end

/-! ### Two responses -/

/-- A key that ends in `version`, as the server sends it. -/
def versionKey (version : UInt8) : Bytes := [0x12, 0x04, 0x12, 0x02, 0x10, version]

/-- The message, the contact and the empty item of `itemsText`, with another key. -/
def consumedText : Bytes :=
  [0x12, 0x30, 0x08, 0x03, 0x12, 0x1b, 0x08, 0x05, 0x12, 0x17] ++ messageItem.payload ++
    [0x12, 0x0b, 0x08, 0x02, 0x12, 0x07] ++ wxidItem.payload ++
    [0x12, 0x02, 0x08, 0x03, 0x22, 0x06] ++ versionKey 5

/-- `consumedText` and its padding under AES-128-CBC. -/
def consumedBody : Bytes :=
  [0x27, 0x3e, 0x60, 0xcd, 0xca, 0x53, 0x73, 0x35, 0x7b, 0x78, 0xb0, 0xef, 0xb1, 0xde, 0x6e, 0xd5,
    0x88, 0xaa, 0x0c, 0x16, 0x14, 0xb0, 0xfc, 0x53, 0xf3, 0x76, 0x41, 0x9c, 0xb5, 0x3d, 0x25, 0x30,
    0x6b, 0xe4, 0xf4, 0xf6, 0x17, 0x6c, 0x71, 0x3b, 0x7e, 0xe0, 0x74, 0xce, 0x4a, 0x9c, 0xbf, 0x15,
    0x64, 0x03, 0x2c, 0xd8, 0x72, 0x38, 0x19, 0x26, 0xd0, 0xf0, 0x9c, 0xc8, 0x65, 0x7c, 0x36, 0x17]

/-- The next key, and one item of a `NewInit` response: a profile. -/
def profileText : Bytes :=
  [0x12, 0x06] ++ versionKey 6 ++
    [0x30, 0x01, 0x3a, 0x08, 0x08, 0x01, 0x12, 0x04, 0x12, 0x02, 0x08, 0x00]

/-- `profileText` and its padding under AES-128-CBC. -/
def profileBody : Bytes :=
  [0x5d, 0xc1, 0xbd, 0x80, 0x8c, 0x1f, 0x51, 0xe3, 0xb9, 0x8d, 0xa6, 0x36, 0x62, 0xc9, 0x64, 0x76,
    0x54, 0x77, 0xe0, 0xd8, 0xd9, 0xcb, 0x11, 0x1b, 0x54, 0x8d, 0x39, 0x3e, 0x79, 0xae, 0xdc, 0x08]

/-- Libraries that decrypt one more text under `brokenKey` than `C`. -/
def alsoDecrypting (C : Crypto) (body text : Bytes) (h : text.length = body.length) : Crypto where
  __ := C
  cbcDecrypt key iv s :=
    if key = brokenKey ∧ iv = brokenKey ∧ s = body then text else C.cbcDecrypt key iv s
  length_cbcDecrypt key iv s := by
    split
    · rename_i hs
      rw [hs.2.2, h]
    · exact C.length_cbcDecrypt key iv s

/-- The libraries on `consumedBody` and `profileBody`, and on the two keys. -/
def bothEnv : ReportEnv where
  __ := plainEnv
  crypto := alsoDecrypting
    (decrypting consumedBody (consumedText ++ List.replicate 6 0x06) rfl)
    profileBody (profileText ++ List.replicate 12 0x0c) rfl
  proto := { itemsProto with
    newSyncResp := fun s =>
      if s = consumedText then some ⟨versionKey 5, 3, [messageItem, wxidItem, ⟨3, []⟩]⟩ else none
    newInitResponse := fun s =>
      if s = profileText then some ⟨versionKey 6, 1, [⟨1, [0x08, 0x00]⟩]⟩ else none }
  syncMsgKey key :=
    if key = versionKey 5 then some [0x12, 0x02, 0x10, 5]
    else if key = versionKey 6 then some [0x12, 0x02, 0x10, 6]
    else none

/-- A client without reports, all tables there. -/
def idle : Client := ⟨⟨some emptyDb, 0⟩, fun _ => none⟩

def consumedReply : Reply :=
  .newSync { authInfo := { m_Session := brokenKey } } {} (responseOf 58 consumedBody)

def profileReply : Reply :=
  .newInit { authInfo := { m_Session := brokenKey } } {} (responseOf 20 profileBody)

theorem opensTo_consumedReply :
    OpensTo bothEnv.toEnv (versionKey 5) 3 [messageItem, wxidItem, ⟨3, []⟩] consumedReply :=
  (opens_iff_of_text (show _ = some (some consumedText) by decide +kernel)).mpr
    (by decide +kernel)

/-- The client after the `NewSync` response, with a report of its key. -/
theorem exists_reported : ∃ r, consumedReply.buf2Resp bothEnv.toEnv idle.db = some r ∧
    Step bothEnv idle (.buf2Resp consumedReply)
      ⟨r.db, Function.update idle.waiting 0 (some (versionKey 5))⟩ := by
  have hrep : (consumedReply.buf2Resp bothEnv.toEnv idle.db).map (·.reported) = some true := by
    decide +kernel
  obtain ⟨r, hr, hreported⟩ := Option.map_eq_some_iff.mp hrep
  exact ⟨r, hr, .reported hr hreported opensTo_consumedReply rfl⟩

theorem keysKept_consumedReply : KeysKept bothEnv.toEnv idle consumedReply := by
  intro key' cnt items ho key hkey
  cases opensTo_consumedReply.unique ho
  have hexec (n : Nat) : Executes bothEnv.sqlite idle.db n := ⟨rfl, rfl⟩
  constructor
  · rcases hkey with ⟨taskid, hw⟩ | ⟨-, rfl⟩
    · cases hw
    · exact ⟨fun _ => ⟨rfl, by decide, .inl (hexec _)⟩, fun h => absurd (hexec _) h⟩
  · intro item hi d hd
    have hi := List.mem_of_mem_take hi
    simp only [List.mem_cons, List.not_mem_nil, or_false] at hi
    rcases hi with rfl | rfl | rfl
    · have hdecode : (handler bothEnv.toEnv consumedReply).decode messageItem =
          some (.message ⟨7, ascii "a", ascii "b", 1, 5, ascii "x"⟩) := by decide +kernel
      cases hdecode.symm.trans hd
      exact Decoded.QuoteFree.leavesKeys ⟨by decide, by decide, by decide +kernel⟩
    · have hdecode : (handler bothEnv.toEnv consumedReply).decode wxidItem =
          some (.contact ⟨ascii "w", [], [], []⟩) := by decide +kernel
      cases hdecode.symm.trans hd
      exact nofun
    · cases hd
      trivial

/-- The `NewSync` response, and then the request of the report. -/
theorem reports_own_key_items : ∃ c c' outbuffer, OrderlyReachable bothEnv c ∧
    Step bothEnv c (.req2Buf 0 outbuffer) c' ∧
      (CAuthInfo.getSyncKey bothEnv.sqlite c.db).2 = some (versionKey 5) ∧
      outbuffer = [0, 0, 0, 0xd0, 0, 0, 0, 4, 0x12, 0x02, 0x10, 5] := by
  obtain ⟨r, -, hs⟩ := exists_reported
  let c : Client := ⟨r.db, Function.update idle.waiting 0 (some (versionKey 5))⟩
  have hkey : c.waiting 0 = some (versionKey 5) := rfl
  have hreach : OrderlyReachable bothEnv c :=
    Reachable.next (.start fun _ => rfl) ⟨hs, keysKept_consumedReply⟩
  have hreads := (getSyncKey_eq_some_iff (E := bothEnv.sqlite) rfl).mpr (hreach.reportsOwn 0 _ hkey)
  have hstep := Step.req2Buf hkey (req2Buf_of_getSyncKey hreads)
  obtain ⟨hread, hout⟩ := reports_own_key hreach hstep (fun hfails => by cases hfails) hkey
  have hpacket : packet bothEnv (versionKey 5) =
      [0, 0, 0, 0xd0, 0, 0, 0, 4, 0x12, 0x02, 0x10, 5] := by decide +kernel
  exact ⟨c, _, _, hreach, hstep, hread, hout.trans hpacket⟩

/-- **A `NewInit` response between the two**: the request is of its key, every statement being
executed. -/
theorem not_reports_own_key : ¬ ∀ (env : ReportEnv) (c c' : Client) (taskid : Nat)
    (key outbuffer : Bytes), (∀ n, env.sqlite.fails n = false) → ClientReachable env c →
    Step env c (.req2Buf taskid outbuffer) c' → c.waiting taskid = some key →
    outbuffer = packet env key := by
  intro h
  obtain ⟨r, hr, hs⟩ := exists_reported
  have hrun : ((consumedReply.buf2Resp bothEnv.toEnv idle.db).bind fun r =>
      (profileReply.buf2Resp bothEnv.toEnv r.db).map fun r' =>
        (r'.reported, (CAuthInfo.getSyncKey bothEnv.sqlite r'.db).2)) =
      some (false, some (versionKey 6)) := by decide +kernel
  rw [hr, Option.bind_some, Option.map_eq_some_iff] at hrun
  obtain ⟨r', hr', he⟩ := hrun
  obtain ⟨hsilent, hread⟩ := Prod.mk.inj he
  let c : Client := ⟨r'.db, Function.update idle.waiting 0 (some (versionKey 5))⟩
  have hw : c.waiting 0 = some (versionKey 5) := rfl
  have hreach : ClientReachable bothEnv c :=
    Reachable.next (Reachable.next (.start fun _ => rfl) hs) (.silent hr' hsilent)
  have hstep := Step.req2Buf hw (req2Buf_of_getSyncKey hread)
  have hpacket : packet bothEnv (versionKey 6) ≠ packet bothEnv (versionKey 5) := by
    decide +kernel
  exact hpacket (h bothEnv c _ 0 (versionKey 5) _ (fun _ => rfl) hreach hstep hw)

end MicroChat.Report
