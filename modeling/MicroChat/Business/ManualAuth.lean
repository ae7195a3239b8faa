import MicroChat.Business.Crypto
import MicroChat.Business.Header

/-!
# Business — ManualAuth

The login request of `MicroChatSDK/Business/ManualAuthCGITask.cpp`.

* `ManualAuthCGITask.req2Buf`: one call of `Req2Buf`, which also replaces the task's password by
  its digest, its AES key and its ECDH keys.
* `requests`: the account requests of any number of calls.
* `requests_passwords_iff`: when all of them carry the digest of the password the user entered.
-/

namespace MicroChat
open Support

/-- `ManualAuthAccountRequest`. -/
structure AccountRequest where
  aesLen : Nat
  aesKey : Bytes
  ecdhKeyLen : Nat
  ecdhKey : Bytes
  nid : Nat
  username : Bytes
  password1 : Bytes
  password2 : Bytes
  deriving DecidableEq, Repr

/-- `ManualAuthCGITask`. -/
structure ManualAuthCGITask where
  m_strUserName : Bytes
  m_strPwd : Bytes
  m_strAesKey : Bytes := []
  m_nAesKeyLen : Nat := 16
  m_strLocalEcdhPubKey : Bytes := []
  m_strLocalEcdhPriKey : Bytes := []
  m_nid : Nat := 713
  cgitype_ : UInt32 := 701
  deriving DecidableEq, Repr

/-- The task `Login` starts for what the user entered. -/
def login (user pwd : Bytes) : ManualAuthCGITask where
  m_strUserName := user
  m_strPwd := pwd

/-- What one call of `Req2Buf` gets from outside: the values of `rand()` and the EC key. -/
structure Req2BufInput where
  rand : Nat → Nat
  ecKey : Option EcKey

/-- What every call uses: the libraries, the serializers, and the bytes `MakeDeviceReq` makes of
the fixed device data. -/
structure LoginEnv where
  crypto : Crypto
  serialize : AccountRequest → Bytes
  deviceReq : Bytes
  /-- `LOGIN_RSA_VER158_KEY_E` and `LOGIN_RSA_VER158_KEY_N` -/
  keyE : Bytes
  keyN : Bytes

namespace ManualAuthCGITask
variable (C : Crypto)

/-- `void ManualAuthCGITask::GenPwd()`. -/
def genPwd (t : ManualAuthCGITask) : ManualAuthCGITask :=
  { t with m_strPwd := getMd5_32 C t.m_strPwd }

/-- `void ManualAuthCGITask::GenAesKey()`. -/
def genAesKey (rand : Nat → Nat) (t : ManualAuthCGITask) : ManualAuthCGITask :=
  { t with m_strAesKey := (List.range 16).map fun i => UInt8.ofNat (rand i % 0xff) }

/-- `void ManualAuthCGITask::GenEcdh()`; the result of `::GenEcdh` is not looked at. -/
def genEcdh (ecKey : Option EcKey) (t : ManualAuthCGITask) : ManualAuthCGITask :=
  let (_, pub, pri) := MicroChat.genEcdh ecKey t.m_strLocalEcdhPubKey t.m_strLocalEcdhPriKey
  { t with m_nid := 713, m_strLocalEcdhPubKey := pub, m_strLocalEcdhPriKey := pri }

/-- `string ManualAuthCGITask::MakeAccountReq()`, before it is serialized. -/
def makeAccountReq (t : ManualAuthCGITask) : AccountRequest where
  aesLen := t.m_nAesKeyLen
  aesKey := t.m_strAesKey
  ecdhKeyLen := t.m_strLocalEcdhPubKey.length
  ecdhKey := t.m_strLocalEcdhPubKey
  nid := t.m_nid
  username := t.m_strUserName
  password1 := t.m_strPwd
  password2 := t.m_strPwd

/-- What a call of `Req2Buf` leaves behind: the task, the account request it has built, and the
packet, `some none` for `FALSE`. -/
structure Req2Buf where
  task : ManualAuthCGITask
  account : AccountRequest
  packet : Option (Option Bytes)

/-- The packet of an account request. -/
def makePacket (env : LoginEnv) (t : ManualAuthCGITask) (account : AccountRequest) :
    Option (Option Bytes) := do
  let reqAccountProtobuf := env.serialize account
  let keye := hex2bin env.keyE
  let keyn := hex2bin env.keyN
  let reqAccount ← (compressRsa env.crypto keye keyn reqAccountProtobuf).1
  if reqAccount.length = 0 then return none
  let reqDevice := (compressAes env.crypto t.m_strAesKey env.deviceReq).1
  if reqDevice.length = 0 then return none
  let subHeader := htonl (.ofNat reqAccountProtobuf.length) ++
    htonl (.ofNat env.deviceReq.length) ++ htonl (.ofNat reqAccount.length)
  let body := subHeader ++ reqAccount ++ reqDevice
  return some (manualAuthMakeHeader t.cgitype_ (.ofNat body.length) (.ofNat body.length) ++ body)

/-- `bool ManualAuthCGITask::Req2Buf(…)`. -/
def req2Buf (env : LoginEnv) (input : Req2BufInput) (t : ManualAuthCGITask) : Req2Buf :=
  let t := t.genPwd env.crypto
  let t := t.genAesKey input.rand
  let t := t.genEcdh input.ecKey
  let account := t.makeAccountReq
  ⟨t, account, makePacket env t account⟩

/-- The account requests of calls on one task, one after the other. -/
def requests (env : LoginEnv) : List Req2BufInput → ManualAuthCGITask → List AccountRequest
  | [], _ => []
  | input :: inputs, t =>
      let r := t.req2Buf env input
      r.account :: requests env inputs r.task

/-! ### The password -/

section
variable {env : LoginEnv} {input : Req2BufInput} {t : ManualAuthCGITask}

/-- **One call** sends the digest of the task's password, and leaves it in the password's place. -/
theorem req2Buf_pwd :
    (t.req2Buf env input).task.m_strPwd = getMd5_32 env.crypto t.m_strPwd ∧
    (t.req2Buf env input).account.password1 = getMd5_32 env.crypto t.m_strPwd ∧
    (t.req2Buf env input).account.password2 = getMd5_32 env.crypto t.m_strPwd :=
  ⟨rfl, rfl, rfl⟩

/-- **Calls on a fixed point**: every request carries it. -/
theorem requests_fixed {h : Bytes} (hh : getMd5_32 env.crypto h = h) {inputs : List Req2BufInput}
    {t : ManualAuthCGITask} (ht : getMd5_32 env.crypto t.m_strPwd = h) :
    ∀ a ∈ requests env inputs t, a.password1 = h ∧ a.password2 = h := by
  intro a ha
  induction inputs generalizing t with
  | nil => cases ha
  | cons input inputs ih =>
      obtain ⟨h₁, h₂, h₃⟩ := @req2Buf_pwd env input t
      rcases List.mem_cons.mp ha with rfl | ha
      · exact ⟨h₂.trans ht, h₃.trans ht⟩
      · exact ih (by rw [h₁, ht, hh]) ha

end

/-- **When building the login request is repeatable.**  All the calls on a fresh task send the
digest of the password exactly when there is at most one, or the digest is the digest of its own
text. -/
theorem requests_passwords_iff (env : LoginEnv) (user pwd : Bytes) (inputs : List Req2BufInput) :
    (∀ a ∈ requests env inputs (login user pwd),
      a.password1 = getMd5_32 env.crypto pwd ∧ a.password2 = getMd5_32 env.crypto pwd) ↔
    inputs.length ≤ 1 ∨
      getMd5_32 env.crypto (getMd5_32 env.crypto pwd) = getMd5_32 env.crypto pwd := by
  constructor
  · intro h
    match inputs, h with
    | [], _ => exact .inl (Nat.zero_le 1)
    | [_], _ => exact .inl (Nat.le_refl 1)
    | i₁ :: i₂ :: _, h =>
        exact .inr (h _ (List.mem_cons_of_mem _ List.mem_cons_self)).1
  · rintro (hlen | hfix)
    · match inputs, hlen with
      | [], _ =>
          intro a ha
          cases ha
      | [input], _ =>
          intro a ha
          rw [requests, requests, List.mem_singleton] at ha
          subst ha
          exact ⟨rfl, rfl⟩
    · exact requests_fixed hfix rfl

/-- The libraries with the two MD5 digests that a password `123456` sent twice asks for. -/
def md5Of123456 : Crypto where
  __ := plainCrypto
  md5 s :=
    if s = ascii "123456" then
      [0xe1, 0x0a, 0xdc, 0x39, 0x49, 0xba, 0x59, 0xab, 0xbe, 0x56, 0xe0, 0x57, 0xf2, 0x0f, 0x88,
        0x3e]
    else
      [0x14, 0xe1, 0xb6, 0x00, 0xb1, 0xfd, 0x57, 0x9f, 0x47, 0x43, 0x3b, 0x88, 0xe8, 0xd8, 0x52,
        0x91]
  length_md5 s := by split <;> rfl

/-- The second request for the password `123456` carries the digest of the digest's text. -/
theorem not_requests_123456 : ¬ ∀ (env : LoginEnv) (user pwd : Bytes) (inputs : List Req2BufInput),
    ∀ a ∈ requests env inputs (login user pwd),
      a.password1 = getMd5_32 env.crypto pwd ∧ a.password2 = getMd5_32 env.crypto pwd := fun h => by
  have h₂ := h ⟨md5Of123456, fun _ => [], [], [], []⟩ [] (ascii "123456")
    [⟨fun _ => 0, none⟩, ⟨fun _ => 0, none⟩] _ (List.mem_cons_of_mem _ List.mem_cons_self)
  exact absurd h₂.1 (by decide)

end ManualAuthCGITask

end MicroChat
