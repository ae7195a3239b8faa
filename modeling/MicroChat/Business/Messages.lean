import MicroChat.Business.Crypto
import MicroChat.Business.Header
import MicroChat.Db.MicroChatDB

/-!
# Business — Messages

What `NewSyncCGITask::Buf2Resp` and `NewInitCGITask::Buf2Resp` have in common: opening a response,
and the loop over its items.

* `Proto`: the parsers of the generated protobuf classes.
* `openResponse`: header and decryption, up to the plaintext.
* `Decoded`, `newMsgOf`, `contactOf`: an item with its fields copied into the arrays of the result.
* `itemLoop`, `itemLoop_false_iff`, `itemLoop_true_iff`: the loop, and how it ends.
* `setSyncKey`: `CAuthInfo::SetSyncKey`.
-/

namespace MicroChat
open Support

/-! ### Messages -/

/-- `NewSyncRespMsg_::NewMsgContent_`. -/
structure NewMsgContent where
  fromId : Bytes
  toId : Bytes
  rawcontent : Bytes
  type : Int32
  createtime : Int32
  serverid : Int64
  deriving DecidableEq, Repr

/-- The fields of the protobuf `ContactInfo` that are read. -/
structure ContactInfoMsg where
  wxid : Bytes
  nickname : Bytes
  headicon_small : Bytes
  encryptname : Bytes
  deriving DecidableEq, Repr

/-- One entry of `newmsg().msg()`, or of `tag7()`: its type and its payload. -/
structure Item where
  type : Int32
  payload : Bytes
  deriving DecidableEq, Repr

/-- `NewSyncResp`. -/
structure NewSyncResp where
  strsynckey : Bytes
  cnt : Int32
  msg : List Item
  deriving DecidableEq, Repr

/-- `NewInitResponse`. -/
structure NewInitResponse where
  sync2 : Bytes
  cntlist : Int32
  tag7 : List Item
  deriving DecidableEq, Repr

/-- `ParsePartialFromArray` of the generated classes, `none` for `false`. -/
structure Proto where
  newSyncResp : Bytes → Option NewSyncResp
  newInitResponse : Bytes → Option NewInitResponse
  /-- `NewSyncRespMsg_`, of which only `content()` is read -/
  newSyncRespMsg : Bytes → Option NewMsgContent
  newMsgContent : Bytes → Option NewMsgContent
  /-- `commonMsg`, of which only `msg()` is read -/
  commonMsg : Bytes → Option Bytes
  contactInfo : Bytes → Option ContactInfoMsg
  /-- `UserInfo`, of which nothing is read -/
  userInfo : Bytes → Bool

/-- What the client runs on. -/
structure Env where
  crypto : Crypto
  proto : Proto
  platform : Platform
  sqlite : Sqlite

/-- Libraries that change nothing, parsers that accept nothing, and a database that executes every
statement it is made for. -/
def plainEnv : Env where
  crypto := plainCrypto
  proto :=
    { newSyncResp := fun _ => none
      newInitResponse := fun _ => none
      newSyncRespMsg := fun _ => none
      newMsgContent := fun _ => none
      commonMsg := fun _ => none
      contactInfo := fun _ => none
      userInfo := fun _ => false }
  platform := asciiPlatform
  sqlite := ⟨fun _ => false, fun _ db => (db, false)⟩

/-! ### Error codes -/

def cgiCodeOk : Int := 0
def cgiCodeLoginFail : Int := -1
def cgiCodeDecryptErr : Int := 100002
def cgiCodeParseProtobufErr : Int := 100003
def cgiCodeUnpackErr : Int := 100004
def cgiErrUnknown : Int := 0x7FFFFFFF

/-! ### Opening a response -/

/-- The body decrypted under a key, and uncompressed if the header says so. -/
def decryptUnder (C : Crypto) (key : Bytes) (u : HeaderResult) : Option Bytes :=
  if u.header.m_bCompressed then aesUncompress C key u.body u.header.m_nLenRespProtobuf
  else aesNouncompress C key u.body

/-- The body decrypted under the session key. -/
def decryptBody (C : Crypto) (u : HeaderResult) : Option Bytes :=
  decryptUnder C u.session.authInfo.m_Session u

/-- The header and the plaintext of a response, or the error code it is rejected with; `initial`
is the code an empty plaintext leaves. -/
def openResponse (C : Crypto) (initial : Int) (s : Session) (m : BaseHeader) (inbuffer : Bytes) :
    Option (HeaderResult × Except Int Bytes) := do
  let u ← unPackHeader s m inbuffer
  if u.body.length = 0 then return (u, .error cgiCodeUnpackErr)
  if u.header.m_nDecryptType ≠ 5 then return (u, .error cgiCodeDecryptErr)
  let respProtobuf ← decryptBody C u
  if respProtobuf.length = 0 then return (u, .error initial)
  return (u, .ok respProtobuf)

/-- The key that a login has brought. -/
def sessionKey (s : Session) : Bytes := s.authInfo.m_Session

/-- The response has a body of type 5, and this is what it decrypts to. -/
def Plaintext (C : Crypto) (R : HeaderReader) (key : Session → Bytes) (s : Session)
    (m : BaseHeader) (inbuffer text : Bytes) : Prop :=
  ∃ u, unPackHeaderWith R s m inbuffer = some u ∧ u.body ≠ [] ∧ u.header.m_nDecryptType = 5 ∧
    decryptUnder C (key u.session) u = some text

/-- A response has one plaintext. -/
theorem Plaintext.unique {C : Crypto} {R : HeaderReader} {key : Session → Bytes} {s : Session}
    {m : BaseHeader} {inbuffer text text' : Bytes} (h : Plaintext C R key s m inbuffer text)
    (h' : Plaintext C R key s m inbuffer text') : text' = text := by
  obtain ⟨u, hu, -, -, ht⟩ := h
  obtain ⟨u', hu', -, -, ht'⟩ := h'
  cases hu.symm.trans hu'
  exact Option.some_inj.mp (ht'.symm.trans ht)

/-- The header is unpacked first. -/
theorem openResponse_header {C : Crypto} {initial : Int} {s : Session} {m : BaseHeader}
    {inbuffer : Bytes} {u : HeaderResult} {text : Except Int Bytes}
    (h : openResponse C initial s m inbuffer = some (u, text)) :
    unPackHeader s m inbuffer = some u := by
  obtain ⟨u', hu, h⟩ := Option.bind_eq_some_iff.mp h
  split at h
  · cases h
    exact hu
  · split at h
    · cases h
      exact hu
    · obtain ⟨respProtobuf, -, h⟩ := Option.bind_eq_some_iff.mp h
      split at h <;> cases h <;> exact hu

/-- **What a response opens to**: an error of its own, or its plaintext, if that is not empty. -/
theorem openResponse_cases {C : Crypto} {initial : Int} {s : Session} {m : BaseHeader}
    {inbuffer : Bytes} {u : HeaderResult} {text : Except Int Bytes}
    (h : openResponse C initial s m inbuffer = some (u, text)) :
    (text = .error cgiCodeUnpackErr ∨ text = .error cgiCodeDecryptErr) ∧
        (∀ t, ¬ Plaintext C .base sessionKey s m inbuffer t) ∨
      text = .error initial ∧ Plaintext C .base sessionKey s m inbuffer [] ∨
      ∃ t, text = .ok t ∧ t ≠ [] ∧ Plaintext C .base sessionKey s m inbuffer t := by
  obtain ⟨u', hu, h⟩ := Option.bind_eq_some_iff.mp h
  have hno {t : Bytes} (hbad : u'.body = [] ∨ u'.header.m_nDecryptType ≠ 5) :
      ¬ Plaintext C .base sessionKey s m inbuffer t := by
    rintro ⟨u'', hu', hb, h5, -⟩
    cases hu.symm.trans hu'
    exact hbad.elim hb fun h => h h5
  split at h
  · rename_i hb
    cases h
    exact .inl ⟨.inl rfl, fun _ => hno (.inl (List.length_eq_zero_iff.mp hb))⟩
  · rename_i hb
    split at h
    · rename_i h5
      cases h
      exact .inl ⟨.inr rfl, fun _ => hno (.inr h5)⟩
    · rename_i h5
      obtain ⟨t, ht, h⟩ := Option.bind_eq_some_iff.mp h
      have hplain : Plaintext C .base sessionKey s m inbuffer t :=
        ⟨u', hu, fun he => hb (by rw [he]; rfl), not_not.mp h5, ht⟩
      split at h
      · rename_i he
        cases h
        cases List.length_eq_zero_iff.mp he
        exact .inr (.inl ⟨rfl, hplain⟩)
      · rename_i he
        cases h
        exact .inr (.inr ⟨t, rfl, fun h => he (by rw [h]; rfl), hplain⟩)

/-! ### Items -/

/-- `strcpy_s` into an array of `n` characters: what the array holds, `none` where the text does
not fit and the program is ended. -/
def strcpyS (n : Nat) (src : Bytes) : Option Bytes :=
  if (cstr src).length < n then some (cstr src) else none

theorem isSome_strcpyS_iff {n : Nat} {src : Bytes} :
    (strcpyS n src).isSome ↔ (cstr src).length < n := by
  rw [strcpyS]
  split <;> simp [*]

/-- What `strcpy_s` has copied, it copies as it is. -/
theorem strcpyS_strcpyS {n : Nat} {src s : Bytes} (h : strcpyS n src = some s) :
    strcpyS n s = some s := by
  rw [strcpyS] at h ⊢
  split at h
  · rename_i hlt
    cases h
    rw [cstr_eq_self (zero_notMem_cstr src), if_pos hlt]
  · cases h

theorem cstr_of_strcpyS {n : Nat} {src s : Bytes} (h : strcpyS n src = some s) : cstr src = s := by
  rw [strcpyS] at h
  split at h
  · exact Option.some_inj.mp h
  · cases h

/-- The message the fields are copied into. -/
def newMsgOf (P : Platform) (c : NewMsgContent) : Option NewMsg := do
  let szFrom ← strcpyS 1024 c.fromId
  let szTo ← strcpyS 1024 c.toId
  let szContent ← strcpyS 65535 (utf82CStringA P c.rawcontent)
  return ⟨c.serverid.toUInt64, szFrom, szTo, c.type, c.createtime.toUInt32, szContent⟩

/-- The contact the fields are copied into. -/
def contactOf (info : ContactInfoMsg) : Option ContactInfo := do
  let wxid ← strcpyS 100 info.wxid
  let nickName ← strcpyS 100 info.nickname
  let headicon ← strcpyS 200 info.headicon_small
  let v1_Name ← strcpyS 200 info.encryptname
  return ⟨wxid, nickName, headicon, v1_Name⟩

/-- What an item turns out to be. -/
inductive Decoded where
  | message (pMsg : NewMsg)
  | contact (pInfo : ContactInfo)
  /-- nothing the client keeps -/
  | skip
  /-- a payload that does not parse -/
  | bad
  deriving DecidableEq, Repr

/-- `NewSyncResult` and `NewInitResult`: the items copied so far, and the size of the arrays. -/
structure SyncResult where
  ppNewMsg : List NewMsg := []
  ppContanct : List ContactInfo := []
  dwSize : Nat := 0
  deriving DecidableEq, Repr

/-- The result and the database in the course of the loop. -/
structure SyncState where
  res : SyncResult
  db : Sql3

/-- The loop over the items with index below `n`: whether it ran to its end, and what it left.
`none` where an item is not there, or a field does not fit. -/
def itemLoop (decode : Item → Option Decoded) (store : SyncState → Decoded → SyncState) :
    Nat → List Item → SyncState → Option (Bool × SyncState)
  | 0, _, st => some (true, st)
  | _ + 1, [], _ => none
  | n + 1, item :: items, st =>
      match decode item with
      | none => none
      | some .bad => some (false, st)
      | some d => itemLoop decode store n items (store st d)

/-- The item parses and its fields fit. -/
def GoodItem (decode : Item → Option Decoded) (item : Item) : Prop :=
  ∃ d, decode item = some d ∧ d ≠ .bad

/-- An item among the first `n` does not parse, and those before it are good. -/
def ItemFails (decode : Item → Option Decoded) (n : Nat) (items : List Item) : Prop :=
  ∃ pre item post, items = pre ++ item :: post ∧ pre.length < n ∧ decode item = some .bad ∧
    ∀ x ∈ pre, GoodItem decode x

/-- The first `n` items are there and good. -/
def AllGood (decode : Item → Option Decoded) (n : Nat) (items : List Item) : Prop :=
  n ≤ items.length ∧ ∀ x ∈ items.take n, GoodItem decode x

section Loop
variable {decode : Item → Option Decoded} {store : SyncState → Decoded → SyncState}

theorem itemLoop_good {n : Nat} {item : Item} {items : List Item} {st : SyncState} {d : Decoded}
    (hd : decode item = some d) (hb : d ≠ .bad) :
    itemLoop decode store (n + 1) (item :: items) st =
      itemLoop decode store n items (store st d) := by
  cases d with
  | bad => exact absurd rfl hb
  | message | contact | skip => rw [itemLoop, hd]

/-- **When the loop is left early**: at an item that does not parse. -/
theorem itemLoop_false_iff {n : Nat} {items : List Item} {st : SyncState} :
    (∃ st', itemLoop decode store n items st = some (false, st')) ↔
      ItemFails decode n items := by
  induction n generalizing items st with
  | zero =>
      refine ⟨fun ⟨st', h⟩ => (by cases h), ?_⟩
      rintro ⟨pre, item, post, -, hlt, -⟩
      exact absurd hlt (Nat.not_lt_zero _)
  | succ n ih =>
      cases items with
      | nil =>
          refine ⟨fun ⟨st', h⟩ => (by cases h), ?_⟩
          rintro ⟨pre, item, post, he, -⟩
          simp at he
      | cons item items =>
          cases hd : decode item with
          | none =>
              refine ⟨fun ⟨st', h⟩ => (by rw [itemLoop, hd] at h; cases h), ?_⟩
              rintro ⟨_ | ⟨x, pre⟩, y, post, he, -, hbad, hpre⟩
              · cases he
                rw [hd] at hbad
                cases hbad
              · cases he
                obtain ⟨d, hd', -⟩ := hpre item List.mem_cons_self
                rw [hd] at hd'
                cases hd'
          | some d =>
              by_cases hb : d = .bad
              · subst hb
                refine ⟨fun _ => ⟨[], item, items, rfl, Nat.succ_pos n, hd, by simp⟩, ?_⟩
                intro _
                exact ⟨st, by rw [itemLoop, hd]⟩
              · rw [itemLoop_good hd hb, ih]
                constructor
                · rintro ⟨pre, y, post, rfl, hlt, hbad, hpre⟩
                  refine ⟨item :: pre, y, post, rfl, Nat.succ_lt_succ hlt, hbad, ?_⟩
                  exact List.forall_mem_cons.mpr ⟨⟨d, hd, hb⟩, hpre⟩
                · rintro ⟨_ | ⟨x, pre⟩, y, post, he, hlt, hbad, hpre⟩
                  · cases he
                    rw [hd, Option.some_inj] at hbad
                    exact absurd hbad hb
                  · cases he
                    exact ⟨pre, y, post, rfl, Nat.lt_of_succ_lt_succ hlt, hbad,
                      (List.forall_mem_cons.mp hpre).2⟩

/-- **When the loop runs to its end**: all items are there and good. -/
theorem itemLoop_true_iff {n : Nat} {items : List Item} {st : SyncState} :
    (∃ st', itemLoop decode store n items st = some (true, st')) ↔ AllGood decode n items := by
  induction n generalizing items st with
  | zero => exact ⟨fun _ => ⟨Nat.zero_le _, by simp⟩, fun _ => ⟨st, rfl⟩⟩
  | succ n ih =>
      cases items with
      | nil => exact ⟨fun ⟨_, h⟩ => (by cases h), fun h => absurd h.1 (Nat.not_succ_le_zero n)⟩
      | cons item items =>
          rw [AllGood, List.take_succ_cons, List.forall_mem_cons, List.length_cons,
            Nat.succ_le_succ_iff]
          cases hd : decode item with
          | none =>
              refine ⟨fun ⟨st', h⟩ => (by rw [itemLoop, hd] at h; cases h), ?_⟩
              rintro ⟨-, ⟨d, hd', -⟩, -⟩
              rw [hd] at hd'
              cases hd'
          | some d =>
              by_cases hb : d = .bad
              · subst hb
                refine ⟨fun ⟨st', h⟩ => (by rw [itemLoop, hd] at h; cases h), ?_⟩
                rintro ⟨-, ⟨d, hd', hb⟩, -⟩
                rw [hd, Option.some_inj] at hd'
                exact absurd hd'.symm hb
              · rw [itemLoop_good hd hb, ih]
                exact ⟨fun h => ⟨h.1, ⟨d, hd, hb⟩, h.2⟩, fun h => ⟨h.1, h.2.2⟩⟩

/-- What storing an item the loop comes to leaves alone, the loop leaves alone. -/
theorem itemLoop_preserves {α : Type*} {f : SyncState → α} {n : Nat} {items : List Item}
    {st st' : SyncState} {b : Bool}
    (hf : ∀ item ∈ items.take n, ∀ d, decode item = some d → ∀ st, f (store st d) = f st)
    (h : itemLoop decode store n items st = some (b, st')) : f st' = f st := by
  induction n generalizing items st with
  | zero =>
      cases h
      rfl
  | succ n ih =>
      cases items with
      | nil => cases h
      | cons item items =>
          rw [List.take_succ_cons] at hf
          obtain ⟨hitem, hitems⟩ := List.forall_mem_cons.mp hf
          cases hd : decode item with
          | none => rw [itemLoop, hd] at h; cases h
          | some d =>
              by_cases hb : d = .bad
              · subst hb
                rw [itemLoop, hd] at h
                cases h
                rfl
              · rw [itemLoop_good hd hb] at h
                rw [ih hitems h, hitem d hd]

end Loop

/-! ### The sync key -/

/-- `void CAuthInfo::SetSyncKey(string strSyncKey)`. -/
def setSyncKey (P : Platform) (E : Sqlite) (db : Sql3) (strSyncKey : Bytes) : Sql3 :=
  updateSyncKey P E db (bin2Hex strSyncKey)

/-- What `Buf2Resp` of either task leaves behind.  `reported` says whether a `ReportSyncKV` task
was started. -/
structure SyncResponse where
  errorCode : Int
  header : BaseHeader
  session : Session
  db : Sql3
  res : SyncResult
  reported : Bool

end MicroChat
