import MicroChat.Business.HeaderFormat
import MicroChat.Business.Messages

/-!
# Business — Replies

The `Buf2Resp` of the tasks that bring back one message: `SearchContactCGITask`,
`GetContactCGITask`, `VerifyUserCGITask` and `BindCGITask`.  They are one function, `replyWith`,
with what the tasks do differently in a `ReplyHandler`.

* `searchContactBuf2Resp`, `getContactBuf2Resp`, `verifyUserBuf2Resp`, `bindBuf2Resp`: the
  functions of the source.
* `ReplyOutcome`, `replyWith_outcome`: the ways in which the function can end.
-/

namespace MicroChat
open Support

/-! ### Messages -/

/-- The fields of `SearchContactResponse` that are read. -/
structure SearchContactResponse where
  /-- `tag1().code()` and `tag1().result().strresult()` -/
  code : Int32
  strresult : Bytes
  /-- `nickname().name()`, `v1().v1_name()` -/
  nickname : Bytes
  v1_name : Bytes
  v2_name : Bytes
  headicon : Bytes

/-- The fields of `GetContactResponse` that are read. -/
structure GetContactResponse where
  code : Int32
  strresult : Bytes
  /-- `tag3().v1().v1_name()` -/
  v1_name : Bytes

/-- The fields of `VerifyUserResponse` that are read. -/
structure VerifyUserResponse where
  code : Int32
  strresult : Bytes

/-- The fields of `BindResponse` that are read. -/
structure BindResponse where
  code : Int32
  strresult : Bytes

/-- `ParsePartialFromArray` of the generated classes, `none` for `false`. -/
structure ReplyProto where
  searchContactResponse : Bytes → Option SearchContactResponse
  getContactResponse : Bytes → Option GetContactResponse
  verifyUserResponse : Bytes → Option VerifyUserResponse
  bindResponse : Bytes → Option BindResponse

/-! ### Results -/

structure SearchContactResult where
  nCode : Int32 := 0
  szMsgResult : Bytes := []
  szNickName : Bytes := []
  szV1_Name : Bytes := []
  szV2_Name : Bytes := []
  szHeadIcon : Bytes := []
  deriving DecidableEq, Repr

structure VerifyUserResult where
  nCode : Int32 := 0
  szMsgResult : Bytes := []
  deriving DecidableEq, Repr

structure MobileVerifyResult where
  nCode : Int32 := 0
  szMsgResult : Bytes := []
  nOption : Int32 := 10
  deriving DecidableEq, Repr

/-! ### The tasks -/

/-- `VerifyUserCGITask`. -/
structure VerifyUserCGITask where
  m_userName : Bytes
  m_v2Name : Bytes
  m_sayContent : Bytes
  m_tag2 : Int32 := 1
  deriving DecidableEq, Repr

/-- `BindCGITask`, as far as its response is concerned. -/
structure BindCGITask where
  m_nOptionType : Int32 := 10
  m_strAesKey : Bytes := []
  deriving DecidableEq, Repr

/-- What the tasks do differently, for the messages and the results of a task. -/
structure ReplyHandler (μ ρ : Type) where
  /-- the error code the function starts with -/
  initial : Int
  reader : HeaderReader
  /-- the key of the plaintext -/
  key : Session → Bytes
  parse : Bytes → Option μ
  /-- the result as it is allocated, and with the fields of a message copied into it -/
  blank : ρ
  fill : μ → Option ρ

/-- What a `Buf2Resp` leaves behind. -/
structure TaskReply (ρ : Type) where
  errorCode : Int
  header : BaseHeader
  session : Session
  res : ρ

section
variable {μ ρ : Type}

/-- `Buf2Resp` of a task, for the members `m` of its header. -/
def replyWith (C : Crypto) (H : ReplyHandler μ ρ) (s : Session) (m : BaseHeader)
    (inbuffer : Bytes) : Option (TaskReply ρ) := do
  let u ← unPackHeaderWith H.reader s m inbuffer
  if u.body.length = 0 then return ⟨cgiCodeUnpackErr, u.header, u.session, H.blank⟩
  if u.header.m_nDecryptType ≠ 5 then return ⟨cgiCodeDecryptErr, u.header, u.session, H.blank⟩
  let respProtobuf ← decryptUnder C (H.key u.session) u
  -- an empty plaintext keeps the code, and is parsed all the same
  let code := if respProtobuf.length ≠ 0 then cgiCodeOk else H.initial
  match H.parse respProtobuf with
  | none => return ⟨cgiCodeParseProtobufErr, u.header, u.session, H.blank⟩
  | some resp =>
      let res ← H.fill resp
      return ⟨code, u.header, u.session, res⟩

/-- The ways in which the function ends. -/
inductive ReplyOutcome (C : Crypto) (H : ReplyHandler μ ρ) (s : Session) (m : BaseHeader)
    (inbuffer : Bytes) (r : TaskReply ρ) : Prop where
  | closed (hno : ∀ text, ¬ Plaintext C H.reader H.key s m inbuffer text)
      (hcode : r.errorCode = cgiCodeUnpackErr ∨ r.errorCode = cgiCodeDecryptErr)
  | unparsed {text : Bytes} (ht : Plaintext C H.reader H.key s m inbuffer text)
      (hp : H.parse text = none) (hcode : r.errorCode = cgiCodeParseProtobufErr)
  | filled {text : Bytes} {resp : μ} (ht : Plaintext C H.reader H.key s m inbuffer text)
      (hp : H.parse text = some resp) (hres : H.fill resp = some r.res)
      (hcode : r.errorCode = if text ≠ [] then cgiCodeOk else H.initial)

variable {C : Crypto} {H : ReplyHandler μ ρ} {s : Session} {m : BaseHeader} {inbuffer : Bytes}

/-- **What the function can do**; whatever it is, the session is the one the header leaves. -/
theorem replyWith_outcome {r : TaskReply ρ} (h : replyWith C H s m inbuffer = some r) :
    (∃ u, unPackHeaderWith H.reader s m inbuffer = some u ∧ r.session = u.session) ∧
      ReplyOutcome C H s m inbuffer r := by
  obtain ⟨u, hu, h⟩ := Option.bind_eq_some_iff.mp h
  have hno {text : Bytes} (hbad : u.body = [] ∨ u.header.m_nDecryptType ≠ 5) :
      ¬ Plaintext C H.reader H.key s m inbuffer text := by
    rintro ⟨u', hu', hb, h5, -⟩
    cases hu.symm.trans hu'
    rcases hbad with hbad | hbad
    · exact hb hbad
    · exact hbad h5
  split at h
  · rename_i hb
    cases h
    exact ⟨⟨u, hu, rfl⟩, .closed (fun _ => hno (.inl (List.length_eq_zero_iff.mp hb))) (.inl rfl)⟩
  · rename_i hb
    split at h
    · rename_i h5
      cases h
      exact ⟨⟨u, hu, rfl⟩, .closed (fun _ => hno (.inr h5)) (.inr rfl)⟩
    · rename_i h5
      obtain ⟨text, htext, h⟩ := Option.bind_eq_some_iff.mp h
      have ht : Plaintext C H.reader H.key s m inbuffer text :=
        ⟨u, hu, fun he => hb (by rw [he]; rfl), not_not.mp h5, htext⟩
      dsimp only at h
      cases hp : H.parse text with
      | none =>
          rw [hp] at h
          cases h
          exact ⟨⟨u, hu, rfl⟩, .unparsed ht hp rfl⟩
      | some resp =>
          rw [hp] at h
          obtain ⟨res, hres, h⟩ := Option.bind_eq_some_iff.mp h
          cases h
          refine ⟨⟨u, hu, rfl⟩, .filled ht hp hres ?_⟩
          cases text <;> rfl

/-- The codes the function can end with: the one it starts with for an empty plaintext that parses,
and others for every other response. -/
theorem errorCode_replyWith {r : TaskReply ρ} (h : replyWith C H s m inbuffer = some r) :
    (Plaintext C H.reader H.key s m inbuffer [] ∧ ∃ resp, H.parse [] = some resp) ∧
        r.errorCode = H.initial ∨
      ¬ (Plaintext C H.reader H.key s m inbuffer [] ∧ ∃ resp, H.parse [] = some resp) ∧
        r.errorCode ∈
          [cgiCodeUnpackErr, cgiCodeDecryptErr, cgiCodeParseProtobufErr, cgiCodeOk] := by
  cases (replyWith_outcome h).2 with
  | closed hno hcode =>
      refine .inr ⟨fun ht => hno [] ht.1, ?_⟩
      rcases hcode with hcode | hcode <;> rw [hcode] <;> simp
  | unparsed ht hp hcode =>
      refine .inr ⟨fun ⟨ht', resp, hp'⟩ => ?_, by rw [hcode]; simp⟩
      cases ht'.unique ht
      cases hp.symm.trans hp'
  | @filled text resp ht hp _ hcode =>
      by_cases he : text = []
      · subst he
        exact .inl ⟨⟨ht, resp, hp⟩, hcode⟩
      · rw [if_pos he] at hcode
        exact .inr ⟨fun ht' => he (ht'.1.unique ht), by rw [hcode]; simp⟩

end

/-! ### The four functions -/

section
variable (C : Crypto) (P : Platform) (parsers : ReplyProto)

def searchContactHandler : ReplyHandler SearchContactResponse SearchContactResult where
  initial := cgiErrUnknown
  reader := .base
  key := sessionKey
  parse := parsers.searchContactResponse
  blank := {}
  fill resp := do
    let szMsgResult ← strcpyS 1024 (utf82CStringA P resp.strresult)
    let szNickName ← strcpyS 100 (utf82CStringA P resp.nickname)
    let szV1_Name ← strcpyS 200 resp.v1_name
    let szV2_Name ← strcpyS 200 resp.v2_name
    let szHeadIcon ← strcpyS 200 resp.headicon
    return ⟨resp.code, szMsgResult, szNickName, szV1_Name, szV2_Name, szHeadIcon⟩

def getContactHandler : ReplyHandler GetContactResponse SearchContactResult where
  initial := cgiErrUnknown
  reader := .base
  key := sessionKey
  parse := parsers.getContactResponse
  blank := {}
  fill resp := do
    let szMsgResult ← strcpyS 1024 (utf82CStringA P resp.strresult)
    let szV1_Name ← strcpyS 200 resp.v1_name
    return { nCode := resp.code, szMsgResult, szV1_Name }

/-- With the result comes the task that asks again, started after a first one was refused. -/
def verifyUserHandler (t : VerifyUserCGITask) :
    ReplyHandler VerifyUserResponse (VerifyUserResult × Option VerifyUserCGITask) where
  initial := cgiErrUnknown
  reader := .base
  key := sessionKey
  parse := parsers.verifyUserResponse
  blank := ({}, none)
  fill resp := do
    let szMsgResult ← strcpyS 1024 (utf82CStringA P resp.strresult)
    return (⟨resp.code, szMsgResult⟩,
      if t.m_tag2 = 1 ∧ resp.code ≠ 0 then some { t with m_tag2 := 2 } else none)

/-- `BindCGITask` has a header parser and a key of its own. -/
def bindHandler (t : BindCGITask) : ReplyHandler BindResponse MobileVerifyResult where
  initial := cgiCodeLoginFail
  reader := .bind
  key _ := t.m_strAesKey
  parse := parsers.bindResponse
  blank := {}
  fill resp := do
    let szMsgResult ← strcpyS 1024 (utf82CStringA P resp.strresult)
    return ⟨resp.code, szMsgResult, t.m_nOptionType⟩

/-- `int SearchContactCGITask::Buf2Resp(…)`. -/
def searchContactBuf2Resp := replyWith C (searchContactHandler P parsers)

/-- `int GetContactCGITask::Buf2Resp(…)`. -/
def getContactBuf2Resp := replyWith C (getContactHandler P parsers)

/-- `int VerifyUserCGITask::Buf2Resp(…)`. -/
def verifyUserBuf2Resp (t : VerifyUserCGITask) := replyWith C (verifyUserHandler P parsers t)

/-- `int BindCGITask::Buf2Resp(…)`. -/
def bindBuf2Resp (t : BindCGITask) := replyWith C (bindHandler P parsers t)

end

end MicroChat
