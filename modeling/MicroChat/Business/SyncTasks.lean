import MicroChat.Business.Messages

/-!
# Business — SyncTasks

`NewSyncCGITask::Buf2Resp` and `NewInitCGITask::Buf2Resp`: one handler, `buf2RespWith`, with what
the two tasks do differently in a `SyncHandler`.

* `newSyncBuf2Resp`, `newInitBuf2Resp`: the two functions of the source.
* `Opens`: a response that decrypts and parses.
* `buf2RespWith_of_opens`: the handler on such a response, after the sync key has been stored, and
  `buf2RespWith_cases`: what comes of it.
* `Outcome`, `buf2RespWith_outcome`: the ways in which it can end.
* `reported_iff`: the responses after which the server is told.
-/

namespace MicroChat
open Support

/-! ### The two tasks -/

/-- What the two tasks do differently. -/
structure SyncHandler where
  /-- the error code the function starts with -/
  initial : Int
  /-- the key, the count and the items of a plaintext -/
  parse : Bytes → Option (Bytes × Int32 × List Item)
  /-- the code for a plaintext that does not parse, and for a count of 0 -/
  onParseErr : Int
  onEmpty : Int
  decode : Item → Option Decoded
  /-- whether contacts go into the database -/
  storesContacts : Bool
  /-- whether `ReportSyncKV` is called after the items -/
  reports : Bool

section
variable (env : Env)

/-- An item goes into the arrays of the result, and into the database. -/
def storeItem (storesContacts : Bool) (st : SyncState) : Decoded → SyncState
  | .message pMsg =>
      ⟨{ st.res with ppNewMsg := st.res.ppNewMsg ++ [pMsg] },
        addMsg env.platform env.sqlite st.db pMsg⟩
  | .contact pInfo =>
      ⟨{ st.res with ppContanct := st.res.ppContanct ++ [pInfo] },
        if storesContacts then insertContact env.platform env.sqlite st.db pInfo else st.db⟩
  | .skip | .bad => st

/-- `Buf2Resp` of a task, for the database `db` and the members `m` of its header. -/
def buf2RespWith (H : SyncHandler) (s : Session) (m : BaseHeader) (db : Sql3) (inbuffer : Bytes) :
    Option SyncResponse := do
  let (u, text) ← openResponse env.crypto H.initial s m inbuffer
  match text with
  | .error code => return ⟨code, u.header, u.session, db, {}, false⟩
  | .ok respProtobuf =>
      match H.parse respProtobuf with
      | none => return ⟨H.onParseErr, u.header, u.session, db, {}, false⟩
      | some (key, cnt, items) =>
          -- the new key is stored before the items are looked at
          let db := setSyncKey env.platform env.sqlite db key
          if cnt = 0 then return ⟨H.onEmpty, u.header, u.session, db, {}, false⟩
          -- `new NewMsg *[cnt]` of a negative count
          if cnt.toInt < 0 then none
          let (ok, st) ← itemLoop H.decode (storeItem env H.storesContacts) cnt.toInt.toNat items
            ⟨{ dwSize := cnt.toInt.toNat }, db⟩
          if ok then return ⟨cgiCodeOk, u.header, u.session, st.db, st.res, H.reports⟩
          else return ⟨cgiCodeParseProtobufErr, u.header, u.session, st.db, st.res, false⟩

/-- An item of a `NewSync` response; a `commonMsg` that does not parse is passed over. -/
def newSyncItem (item : Item) : Option Decoded :=
  if item.type = 5 then
    match env.proto.newSyncRespMsg item.payload with
    | some msg => (newMsgOf env.platform msg).map .message
    | none => some .bad
  else if item.type = 2 then
    match env.proto.commonMsg item.payload with
    | some common =>
        match env.proto.contactInfo common with
        | some info => (contactOf info).map .contact
        | none => some .bad
    | none => some .skip
  else some .skip

/-- An item of a `NewInit` response. -/
def newInitItem (item : Item) : Option Decoded :=
  if item.type = 1 then
    if env.proto.userInfo item.payload then some .skip else some .bad
  else if item.type = 2 then
    match env.proto.contactInfo item.payload with
    | some info => (contactOf info).map .contact
    | none => some .bad
  else if item.type = 5 then
    match env.proto.newMsgContent item.payload with
    | some msg => (newMsgOf env.platform msg).map .message
    | none => some .bad
  else some .skip

def newSyncHandler : SyncHandler where
  initial := cgiErrUnknown
  parse text := (env.proto.newSyncResp text).map fun r => (r.strsynckey, r.cnt, r.msg)
  onParseErr := cgiCodeParseProtobufErr
  onEmpty := cgiCodeOk
  decode := newSyncItem env
  storesContacts := false
  reports := true

/-- `NewInit` keeps the code it set before parsing if the plaintext does not parse, and rejects a
count of 0. -/
def newInitHandler : SyncHandler where
  initial := cgiCodeLoginFail
  parse text := (env.proto.newInitResponse text).map fun r => (r.sync2, r.cntlist, r.tag7)
  onParseErr := cgiCodeOk
  onEmpty := cgiCodeParseProtobufErr
  decode := newInitItem env
  storesContacts := true
  reports := false

/-- `int NewSyncCGITask::Buf2Resp(…)`. -/
def newSyncBuf2Resp := buf2RespWith env (newSyncHandler env)

/-- `int NewInitCGITask::Buf2Resp(…)`. -/
def newInitBuf2Resp := buf2RespWith env (newInitHandler env)

/-! ### Responses that parse -/

/-- The response decrypts to a plaintext that parses as a key, a count and items. -/
def Opens (H : SyncHandler) (s : Session) (m : BaseHeader) (inbuffer key : Bytes) (cnt : Int32)
    (items : List Item) : Prop :=
  ∃ u text, openResponse env.crypto H.initial s m inbuffer = some (u, .ok text) ∧
    H.parse text = some (key, cnt, items)

/-- The response opens, and has items, all of which are there and good. -/
def AcceptedResponse (H : SyncHandler) (s : Session) (m : BaseHeader) (inbuffer : Bytes) : Prop :=
  ∃ key cnt items, Opens env H s m inbuffer key cnt items ∧ 0 < cnt.toInt ∧
    AllGood H.decode cnt.toInt.toNat items

end

section
variable {env : Env} {H : SyncHandler} {s : Session} {m : BaseHeader} {db : Sql3}
  {inbuffer : Bytes}

/-- What a response opens to once its plaintext is known. -/
theorem opens_iff_of_text {text key : Bytes} {cnt : Int32} {items : List Item}
    (h : (openResponse env.crypto H.initial s m inbuffer).map (fun r => r.2.toOption) =
      some (some text)) :
    Opens env H s m inbuffer key cnt items ↔ H.parse text = some (key, cnt, items) := by
  obtain ⟨⟨u, text'⟩, ho, ht⟩ := Option.map_eq_some_iff.mp h
  cases text' with
  | error code => cases ht
  | ok text' =>
      cases ht
      refine ⟨fun ⟨u', text', ho', hp⟩ => ?_, fun hp => ⟨u, text, ho, hp⟩⟩
      cases ho.symm.trans ho'
      exact hp

/-- **A response that parses**: the key is stored, then the items decide. -/
theorem buf2RespWith_of_opens (db : Sql3) {key : Bytes} {cnt : Int32} {items : List Item}
    (h : Opens env H s m inbuffer key cnt items) :
    ∃ u : HeaderResult, buf2RespWith env H s m db inbuffer =
      let db := setSyncKey env.platform env.sqlite db key
      if cnt = 0 then some ⟨H.onEmpty, u.header, u.session, db, {}, false⟩
      else if cnt.toInt < 0 then none
      else (itemLoop H.decode (storeItem env H.storesContacts) cnt.toInt.toNat items
          ⟨{ dwSize := cnt.toInt.toNat }, db⟩).map fun r =>
        if r.1 then ⟨cgiCodeOk, u.header, u.session, r.2.db, r.2.res, H.reports⟩
        else ⟨cgiCodeParseProtobufErr, u.header, u.session, r.2.db, r.2.res, false⟩ := by
  obtain ⟨u, text, ho, hp⟩ := h
  refine ⟨u, ?_⟩
  rw [buf2RespWith, ho]
  simp only [Option.bind_eq_bind, Option.bind_some, hp]
  split
  · rfl
  · split
    · rfl
    · cases itemLoop H.decode (storeItem env H.storesContacts) cnt.toInt.toNat items
        ⟨{ dwSize := cnt.toInt.toNat }, setSyncKey env.platform env.sqlite db key⟩ with
      | none => rfl
      | some r =>
          obtain ⟨ok, st⟩ := r
          cases ok <;> rfl

/-- **What comes of a response that parses**: with a count of 0 that is all, else the items decide
the code, the database and whether `ReportSyncKV` is called. -/
theorem buf2RespWith_cases {r : SyncResponse} {key : Bytes} {cnt : Int32} {items : List Item}
    (ho : Opens env H s m inbuffer key cnt items)
    (h : buf2RespWith env H s m db inbuffer = some r) :
    cnt = 0 ∧ r.errorCode = H.onEmpty ∧ r.db = setSyncKey env.platform env.sqlite db key ∧
        r.reported = false ∨
      ∃ ok st, 0 < cnt.toInt ∧
        itemLoop H.decode (storeItem env H.storesContacts) cnt.toInt.toNat items
          ⟨{ dwSize := cnt.toInt.toNat }, setSyncKey env.platform env.sqlite db key⟩ =
            some (ok, st) ∧
        r.errorCode = (if ok then cgiCodeOk else cgiCodeParseProtobufErr) ∧ r.db = st.db ∧
        r.reported = (ok && H.reports) := by
  obtain ⟨u, hr⟩ := buf2RespWith_of_opens db ho
  rw [h] at hr
  dsimp only at hr
  split at hr
  · rename_i hcnt
    cases hr
    exact .inl ⟨hcnt, rfl, rfl, rfl⟩
  · rename_i hcnt
    split at hr
    · cases hr
    · rename_i hneg
      have hne : cnt.toInt ≠ 0 := fun h0 => hcnt (Int32.toInt_inj.mp h0)
      obtain ⟨⟨ok, st⟩, hloop, he⟩ := Option.map_eq_some_iff.mp hr.symm
      refine .inr ⟨ok, st, by omega, hloop, ?_⟩
      cases ok <;> (cases he; exact ⟨rfl, rfl, rfl⟩)

/-- How the handler can end with `r`. -/
inductive Outcome (env : Env) (H : SyncHandler) (s : Session) (m : BaseHeader) (db : Sql3)
    (inbuffer : Bytes) (r : SyncResponse) : Prop where
  /-- the response does not open -/
  | closed (hdb : r.db = db) (hrep : r.reported = false)
  | empty {key : Bytes} {items : List Item} (ho : Opens env H s m inbuffer key 0 items)
      (hcode : r.errorCode = H.onEmpty) (hrep : r.reported = false)
  | failed {key : Bytes} {cnt : Int32} {items : List Item}
      (ho : Opens env H s m inbuffer key cnt items) (hpos : 0 < cnt.toInt)
      (hitems : ItemFails H.decode cnt.toInt.toNat items) (hrep : r.reported = false)
  | finished {key : Bytes} {cnt : Int32} {items : List Item}
      (ho : Opens env H s m inbuffer key cnt items) (hpos : 0 < cnt.toInt)
      (hitems : AllGood H.decode cnt.toInt.toNat items) (hcode : r.errorCode = cgiCodeOk)
      (hrep : r.reported = H.reports)

/-- **What the handler can do**, one case for each of its ends. -/
theorem buf2RespWith_outcome {r : SyncResponse} (h : buf2RespWith env H s m db inbuffer = some r) :
    Outcome env H s m db inbuffer r := by
  have hall := h
  rw [buf2RespWith, Option.bind_eq_bind, Option.bind_eq_some_iff] at h
  obtain ⟨⟨u, text⟩, ho, h⟩ := h
  cases text with
  | error code =>
      cases h
      exact .closed rfl rfl
  | ok text =>
      cases hp : H.parse text with
      | none =>
          simp only [hp] at h
          cases h
          exact .closed rfl rfl
      | some p =>
          obtain ⟨key, cnt, items⟩ := p
          have ho : Opens env H s m inbuffer key cnt items := ⟨u, text, ho, hp⟩
          rcases buf2RespWith_cases ho hall with
            ⟨rfl, hcode, -, hrep⟩ | ⟨ok, st, hpos, hloop, hcode, -, hrep⟩
          · exact .empty ho hcode hrep
          · cases ok with
            | false => exact .failed ho hpos (itemLoop_false_iff.mp ⟨st, hloop⟩) hrep
            | true => exact .finished ho hpos (itemLoop_true_iff.mp ⟨st, hloop⟩) hcode hrep

/-- The handler goes on from what the response opens to: with the session of the header, and with
the error it opens to or a code of its own. -/
theorem buf2RespWith_of_open {r : SyncResponse} (h : buf2RespWith env H s m db inbuffer = some r) :
    ∃ u text, openResponse env.crypto H.initial s m inbuffer = some (u, text) ∧
      r.session = u.session ∧
      (∀ code, text = .error code → r.errorCode = code) ∧
      ∀ t, text = .ok t →
        r.errorCode ∈ [H.onParseErr, H.onEmpty, cgiCodeOk, cgiCodeParseProtobufErr] := by
  obtain ⟨⟨u, text⟩, ho, h⟩ := Option.bind_eq_some_iff.mp h
  refine ⟨u, text, ho, ?_⟩
  cases text with
  | error code =>
      cases h
      exact ⟨rfl, fun code hc => (by cases hc; rfl), nofun⟩
  | ok t =>
      dsimp only at h
      cases hp : H.parse t with
      | none =>
          rw [hp] at h
          cases h
          exact ⟨rfl, nofun, fun _ _ => by simp⟩
      | some p =>
          rw [hp] at h
          dsimp only at h
          split at h
          · cases h
            exact ⟨rfl, nofun, fun _ _ => by simp⟩
          · split at h
            · cases h
            · obtain ⟨⟨ok, st⟩, -, h⟩ := Option.bind_eq_some_iff.mp h
              cases ok <;> (cases h; exact ⟨rfl, nofun, fun _ _ => by simp⟩)

/-- The session the handler leaves is the one the header leaves. -/
theorem session_buf2RespWith {r : SyncResponse} (h : buf2RespWith env H s m db inbuffer = some r) :
    ∃ u, unPackHeader s m inbuffer = some u ∧ r.session = u.session := by
  obtain ⟨u, text, ho, hsession, -⟩ := buf2RespWith_of_open h
  exact ⟨u, openResponse_header ho, hsession⟩

/-- The codes the handler can end with: the one it starts with for an empty plaintext, and others
for every other response. -/
theorem errorCode_buf2RespWith {r : SyncResponse}
    (h : buf2RespWith env H s m db inbuffer = some r) :
    Plaintext env.crypto .base sessionKey s m inbuffer [] ∧ r.errorCode = H.initial ∨
      ¬ Plaintext env.crypto .base sessionKey s m inbuffer [] ∧
        r.errorCode ∈ [cgiCodeUnpackErr, cgiCodeDecryptErr, H.onParseErr, H.onEmpty, cgiCodeOk,
          cgiCodeParseProtobufErr] := by
  obtain ⟨u, text, ho, -, herr, hok⟩ := buf2RespWith_of_open h
  rcases openResponse_cases ho with ⟨htext, hno⟩ | ⟨htext, ht⟩ | ⟨t, htext, hne, ht⟩
  · refine .inr ⟨hno [], ?_⟩
    rcases htext with htext | htext <;> rw [herr _ htext] <;> simp
  · exact .inl ⟨ht, herr _ htext⟩
  · have := hok t htext
    exact .inr ⟨fun h0 => hne (h0.unique ht), by simp at this ⊢; tauto⟩

/-- The handler gets through an accepted response. -/
theorem buf2RespWith_of_accepted (db : Sql3) (h : AcceptedResponse env H s m inbuffer) :
    ∃ r, buf2RespWith env H s m db inbuffer = some r ∧ r.reported = H.reports := by
  obtain ⟨key, cnt, items, ho, hpos, hgood⟩ := h
  obtain ⟨u, hr⟩ := buf2RespWith_of_opens db ho
  obtain ⟨st, hloop⟩ := (@itemLoop_true_iff H.decode (storeItem env H.storesContacts)
    cnt.toInt.toNat items
    ⟨{ dwSize := cnt.toInt.toNat }, setSyncKey env.platform env.sqlite db key⟩).mpr hgood
  have hcnt : cnt ≠ 0 := by
    rintro rfl
    exact absurd hpos (by decide)
  simp only [if_neg hcnt, if_neg (not_lt.mpr hpos.le), hloop] at hr
  exact ⟨_, hr, rfl⟩

/-- **When `ReportSyncKV` is called**: after an accepted response. -/
theorem reported_iff {r : SyncResponse} (h : buf2RespWith env H s m db inbuffer = some r) :
    r.reported = true ↔ H.reports = true ∧ AcceptedResponse env H s m inbuffer := by
  constructor
  · intro htrue
    cases buf2RespWith_outcome h with
    | closed _ hrep | empty _ _ hrep | failed _ _ _ hrep =>
        rw [hrep] at htrue
        cases htrue
    | finished ho hpos hgood _ hrep => exact ⟨hrep ▸ htrue, _, _, _, ho, hpos, hgood⟩
  · rintro ⟨hreports, hacc⟩
    obtain ⟨r', hr', hrep⟩ := buf2RespWith_of_accepted db hacc
    cases hr'.symm.trans h
    exact hrep.trans hreports

end

end MicroChat
