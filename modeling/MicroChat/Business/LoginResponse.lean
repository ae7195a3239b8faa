import MicroChat.Business.HeaderFormat
import MicroChat.Business.ManualAuth
import MicroChat.Business.Messages

/-!
# Business — LoginResponse

`ManualAuthCGITask::Buf2Resp`: what a login response does to `CAuthInfo`.

* `Account`, `AuthState`: the members of `CAuthInfo` a login writes.
* `openManualAuth`: header, decryption under the task's own key, parsing.
* `sessionOf`, `loginRefused`: the two halves of the function, by the code of the response.
* `LogsIn`: the responses that carry a session key; `buf2Resp_outcome`: how the function ends.
* `m_Session_iff`: which session keys are stored as they are.
* `agreedLogin_iff`: when a login is one with a key the server has agreed on.
-/

namespace MicroChat
open Support

/-! ### Messages -/

/-- The fields of `ManualAuthResponse` that are read. -/
structure ManualAuthResponse where
  /-- `result().code()` and `result().err_msg().msg()` -/
  code : Int32
  msg : Bytes
  /-- `authparam().ecdh().ecdhkey()` -/
  ecdhkeyLen : Int32
  ecdhkey : Bytes
  /-- `authparam().session()` -/
  sessionLen : Int32
  sessionKey : Bytes
  /-- `authparam().l()` -/
  l : Bytes
  /-- `accountinfo().wxid()` -/
  wxid : Bytes
  deriving DecidableEq, Repr

/-- `LoginResult`. -/
structure LoginResult where
  szMsg : Bytes := []
  szUrl : Bytes := []
  szWxid : Bytes := []
  dwUin : UInt32 := 0
  deriving DecidableEq, Repr

/-! ### The state -/

/-- The members of `CAuthInfo` that only a login writes. -/
structure Account where
  m_UserName : Bytes := []
  m_WxId : Bytes := []
  m_ClientVersion : UInt32 := 0
  m_guid_15 : Bytes := []
  m_guid : Bytes := []
  m_androidVer : Bytes := []
  m_launguage : Bytes := []
  deriving DecidableEq, Repr

/-- `CAuthInfo` and the statics of `BaseHeader`. -/
structure AuthState where
  session : Session := {}
  account : Account := {}
  m_mobilecode_authticket : Bytes := []
  m_mobileNum : Bytes := []
  deriving DecidableEq, Repr

/-- What a login response is read with. -/
structure AuthEnv where
  crypto : Crypto
  ecdh : EcdhLib
  platform : Platform
  /-- `ManualAuthResponse::ParsePartialFromArray`, `none` for `false` -/
  manualAuthResponse : Bytes → Option ManualAuthResponse

/-! ### Error codes -/

def cgiCodeLoginNeedMobileMsg : Int := -205
def cgiCodeLoginNeedScanQrcode : Int := -106
def cgiCodeLoginSucc : Int := 0
def cgiCodeLoginEcdhErr : Int := 100005
def cgiCodeLoginScanQrcodeErr : Int := 100006

/-- What `Buf2Resp` leaves behind. -/
structure LoginResponse where
  errorCode : Int
  header : BaseHeader
  state : AuthState
  res : LoginResult

/-- The reason a login is refused for: the `Content` of the text. -/
def contentOf (strXml : Bytes) : Option Bytes := do
  let nStart := (← find strXml (ascii "<Content><![CDATA[") 0) + (ascii "<Content><![CDATA[").length
  let nEnd ← find strXml (ascii "]></Content>") nStart
  -- for an end right at the start `nEnd - nStart - 1` is `npos`
  substr strXml nStart (if nEnd = nStart then strXml.length else nEnd - nStart - 1)

/-- The address to be scanned: the `Url` of the text. -/
def urlOf (strXml : Bytes) : Option Bytes := do
  let nStart := (← find strXml (ascii "<Url><![CDATA[") 0) + (ascii "<Url><![CDATA[").length
  let nEnd ← find strXml (ascii "]]></Url>") nStart
  substr strXml nStart (nEnd - nStart)

namespace ManualAuthCGITask
section
variable (env : AuthEnv) (t : ManualAuthCGITask)

/-- The header and the message of a response, or the error code it is rejected with. -/
def openManualAuth (s : Session) (m : BaseHeader) (inbuffer : Bytes) :
    Option (HeaderResult × Except Int ManualAuthResponse) := do
  let u ← manualAuthUnPackHeader s m inbuffer
  if u.body.length = 0 then return (u, .error cgiCodeUnpackErr)
  let respProtobuf ← decryptUnder env.crypto t.m_strAesKey u
  match env.manualAuthResponse respProtobuf with
  | none => return (u, .error cgiCodeDecryptErr)
  | some resp => return (u, .ok resp)

/-- The session key of a response with the code 0, empty where there is none. -/
def sessionOf (resp : ManualAuthResponse) : Option Bytes :=
  if resp.ecdhkeyLen = 0 then some []
  else do
    let aesKey ← doEcdh env.crypto env.ecdh t.m_nid resp.ecdhkey t.m_strLocalEcdhPriKey
    if resp.sessionLen = 0 then some [] else aesNouncompress env.crypto aesKey resp.sessionKey

/-- What a successful login writes into `CAuthInfo`. -/
def saveLogin (session wxid : Bytes) (a : AuthState) : AuthState :=
  { a with
    session := { a.session with
      authInfo := { a.session.authInfo with
        m_Session := cstr session
        m_uin := a.session.s_dwUin } }
    account :=
      { m_ClientVersion := clientVersion
        m_UserName := cstr t.m_strUserName
        m_WxId := cstr wxid
        m_guid := ascii "A31d2152a33d83e7"
        m_guid_15 := (ascii "A31d2152a33d83e7").take 15
        m_androidVer := ascii "android-26"
        m_launguage := ascii "zh_CN" } }

/-- The result with the reason a login is refused for, if the text holds one. -/
def refusedResult (resp : ManualAuthResponse) (res : LoginResult) : Option LoginResult :=
  match contentOf resp.msg with
  | none => some res
  | some strReason =>
      (strcpyS 4096 (utf82CStringA env.platform strReason)).map fun szMsg => { res with szMsg }

/-- The code, the state and the result of a response with a code other than 0. -/
def loginRefused (resp : ManualAuthResponse) (a : AuthState) (res : LoginResult) :
    Option (Int × AuthState × LoginResult) := do
  let res ← refusedResult env resp res
  if resp.code.toInt = cgiCodeLoginNeedScanQrcode then
    match urlOf resp.msg with
    | some url =>
        let szUrl ← strcpyS 4096 url
        return (cgiCodeLoginNeedScanQrcode, a, { res with szUrl })
    | none => return (cgiCodeLoginScanQrcodeErr, a, res)
  else if resp.code.toInt = cgiCodeLoginNeedMobileMsg then
    return (cgiCodeLoginNeedMobileMsg,
      { a with m_mobilecode_authticket := resp.l, m_mobileNum := t.m_strUserName }, res)
  else return (cgiCodeLoginFail, a, res)

/-- The code, the state and the result of a response with the code 0. -/
def loginAccepted (resp : ManualAuthResponse) (a : AuthState) (res : LoginResult) :
    Option (Int × AuthState × LoginResult) := do
  let session ← t.sessionOf env resp
  if session.length = 0 then return (cgiCodeLoginEcdhErr, a, res)
  let a := t.saveLogin session resp.wxid a
  let szWxid ← strcpyS 100 a.account.m_WxId
  return (cgiCodeLoginSucc, a, { res with szWxid, dwUin := a.session.authInfo.m_uin })

/-- `int ManualAuthCGITask::Buf2Resp(…)`, for the members `m` of the task's header. -/
def buf2Resp (a : AuthState) (m : BaseHeader) (inbuffer : Bytes) : Option LoginResponse := do
  let (u, msg) ← t.openManualAuth env a.session m inbuffer
  let a := { a with session := u.session }
  match msg with
  | .error code => return ⟨code, u.header, a, {}⟩
  | .ok resp =>
      let szMsg ← strcpyS 4096 resp.msg
      (if resp.code.toInt = 0 then t.loginAccepted env resp a { szMsg }
        else t.loginRefused env resp a { szMsg }).map fun (code, a, res) =>
          ⟨code, u.header, a, res⟩

/-! ### Responses that log in -/

/-- The message holds a public key of the server that `DoEcdh` makes `aesKey` of, and a session
that decrypts under it to `session`. -/
def Carries (resp : ManualAuthResponse) (aesKey session : Bytes) : Prop :=
  resp.ecdhkeyLen ≠ 0 ∧
    doEcdh env.crypto env.ecdh t.m_nid resp.ecdhkey t.m_strLocalEcdhPriKey = some aesKey ∧
    resp.sessionLen ≠ 0 ∧ aesNouncompress env.crypto aesKey resp.sessionKey = some session

instance {resp : ManualAuthResponse} {aesKey session : Bytes} :
    Decidable (Carries env t resp aesKey session) := by
  unfold Carries
  infer_instance

/-- The response opens to a message with the code 0 and a session that is not empty. -/
structure LogsIn (s : Session) (m : BaseHeader) (inbuffer : Bytes) (resp : ManualAuthResponse)
    (aesKey session : Bytes) : Prop where
  opens : ∃ u, t.openManualAuth env s m inbuffer = some (u, .ok resp)
  code : resp.code = 0
  carries : Carries env t resp aesKey session
  ne_nil : session ≠ []

/-- `ECDH_compute_key` has agreed on `aesKey` with the server's public key. -/
def Agreed (resp : ManualAuthResponse) (aesKey : Bytes) : Prop :=
  ecdhComputeKey env.crypto env.ecdh t.m_nid resp.ecdhkey t.m_strLocalEcdhPriKey = some aesKey

end

section
variable {env : AuthEnv} {t : ManualAuthCGITask} {a : AuthState} {m : BaseHeader}
  {inbuffer : Bytes} {resp : ManualAuthResponse}

/-- The header is unpacked first, and a response that does not open is an error. -/
theorem openManualAuth_spec {s : Session} {u : HeaderResult}
    {msg : Except Int ManualAuthResponse}
    (h : t.openManualAuth env s m inbuffer = some (u, msg)) :
    manualAuthUnPackHeader s m inbuffer = some u ∧ ∀ code, msg = .error code → code ≠ 0 := by
  obtain ⟨u', hu, h⟩ := Option.bind_eq_some_iff.mp h
  split at h
  · cases h
    refine ⟨hu, ?_⟩
    intro code hc
    cases hc
    decide
  · obtain ⟨text, -, h⟩ := Option.bind_eq_some_iff.mp h
    split at h <;> cases h
    · refine ⟨hu, ?_⟩
      intro code hc
      cases hc
      decide
    · exact ⟨hu, nofun⟩

/-- A refused login is an error, which leaves the session and the account. -/
theorem loginRefused_spec {res res' : LoginResult} {code : Int} {a' : AuthState}
    (h : t.loginRefused env resp a res = some (code, a', res')) :
    code ≠ 0 ∧ a'.session = a.session ∧ a'.account = a.account := by
  obtain ⟨res₁, -, h⟩ := Option.bind_eq_some_iff.mp h
  split at h
  · split at h
    · obtain ⟨szUrl, -, h⟩ := Option.bind_eq_some_iff.mp h
      cases h
      exact ⟨by decide, rfl, rfl⟩
    · cases h
      exact ⟨by decide, rfl, rfl⟩
  · split at h <;> cases h <;> exact ⟨by decide, rfl, rfl⟩

/-- The session of a response with the code 0, if it is not empty. -/
theorem sessionOf_iff {session : Bytes} (hne : session ≠ []) :
    t.sessionOf env resp = some session ↔ ∃ aesKey, Carries env t resp aesKey session := by
  have hempty {o : Option Bytes} (ho : o = some []) : o ≠ some session := by
    rintro rfl
    exact hne (Option.some_inj.mp ho)
  rw [sessionOf]
  split
  · rename_i hz
    exact ⟨fun h => absurd h (hempty rfl), fun ⟨_, h, _⟩ => absurd hz h⟩
  · rename_i hz
    rw [Option.bind_eq_bind, Option.bind_eq_some_iff]
    refine exists_congr ?_
    intro aesKey
    split
    · rename_i hl
      exact ⟨fun h => absurd h.2 (hempty rfl), fun h => absurd hl h.2.2.1⟩
    · rename_i hl
      exact ⟨fun h => ⟨hz, h.1, hl, h.2⟩, fun h => ⟨h.2.1, h.2.2.2⟩⟩

/-- A response with the code 0 ends in an error that changes nothing, or its session is stored. -/
theorem loginAccepted_spec {res res' : LoginResult} {code : Int} {a' : AuthState}
    (h : t.loginAccepted env resp a res = some (code, a', res')) :
    (t.sessionOf env resp = some [] ∧ code ≠ 0 ∧ a' = a) ∨
      ∃ session, session ≠ [] ∧ t.sessionOf env resp = some session ∧ code = 0 ∧
        a' = t.saveLogin session resp.wxid a := by
  obtain ⟨session, hsession, h⟩ := Option.bind_eq_some_iff.mp h
  by_cases he : session = []
  · subst he
    cases h
    exact .inl ⟨hsession, by decide, rfl⟩
  · rw [if_neg (by simpa using he)] at h
    obtain ⟨szWxid, -, h⟩ := Option.bind_eq_some_iff.mp h
    cases h
    exact .inr ⟨session, he, hsession, rfl, rfl⟩

/-- The ways in which the function ends. -/
inductive LoginOutcome (env : AuthEnv) (t : ManualAuthCGITask) (a : AuthState) (m : BaseHeader)
    (inbuffer : Bytes) (r : LoginResponse) : Prop where
  | loggedIn {u : HeaderResult} {resp : ManualAuthResponse} {aesKey session : Bytes}
      (h : t.LogsIn env a.session m inbuffer resp aesKey session)
      (hu : manualAuthUnPackHeader a.session m inbuffer = some u) (hcode : r.errorCode = 0)
      (hstate : r.state = t.saveLogin session resp.wxid { a with session := u.session })
  | refused {u : HeaderResult}
      (h : ∀ resp aesKey session, ¬ t.LogsIn env a.session m inbuffer resp aesKey session)
      (hu : manualAuthUnPackHeader a.session m inbuffer = some u) (hcode : r.errorCode ≠ 0)
      (hsession : r.state.session = u.session) (haccount : r.state.account = a.account)

/-- **What the function can do**: log in, or end in an error. -/
theorem buf2Resp_outcome {r : LoginResponse} (h : t.buf2Resp env a m inbuffer = some r) :
    LoginOutcome env t a m inbuffer r := by
  obtain ⟨⟨u, msg⟩, hopen, h⟩ := Option.bind_eq_some_iff.mp h
  obtain ⟨hu, herr⟩ := openManualAuth_spec hopen
  cases msg with
  | error code =>
      cases h
      refine .refused (fun resp aesKey session hlog => ?_) hu (herr code rfl) rfl rfl
      obtain ⟨u', hopen'⟩ := hlog.opens
      cases hopen.symm.trans hopen'
  | ok resp =>
      have hresp {resp' : ManualAuthResponse} {aesKey session : Bytes}
          (hlog : t.LogsIn env a.session m inbuffer resp' aesKey session) : resp' = resp := by
        obtain ⟨u', hopen'⟩ := hlog.opens
        cases hopen.symm.trans hopen'
        rfl
      obtain ⟨szMsg, -, h⟩ := Option.bind_eq_some_iff.mp h
      obtain ⟨⟨code, a', res'⟩, hlogin, rfl⟩ := Option.map_eq_some_iff.mp h
      by_cases hc : resp.code.toInt = 0
      · rw [if_pos hc] at hlogin
        obtain ⟨hempty, hcode, rfl⟩ | ⟨session, hne, hsession, hcode, rfl⟩ :=
          loginAccepted_spec hlogin
        · refine .refused (fun resp' aesKey session hlog => ?_) hu hcode rfl rfl
          cases hresp hlog
          have hsession := (sessionOf_iff hlog.ne_nil).mpr ⟨aesKey, hlog.carries⟩
          exact hlog.ne_nil (Option.some_inj.mp (hsession.symm.trans hempty))
        · obtain ⟨aesKey, hcarries⟩ := (sessionOf_iff hne).mp hsession
          exact .loggedIn ⟨⟨u, hopen⟩, Int32.toInt_inj.mp hc, hcarries, hne⟩ hu hcode rfl
      · rw [if_neg hc] at hlogin
        obtain ⟨hcode, hs, ha⟩ := loginRefused_spec hlogin
        refine .refused (fun resp' aesKey session hlog => ?_) hu hcode hs ha
        cases hresp hlog
        exact hc (by rw [hlog.code]; rfl)

/-- A response logs in in one way. -/
theorem LogsIn.unique {s : Session} {resp' : ManualAuthResponse}
    {aesKey aesKey' session session' : Bytes}
    (h : t.LogsIn env s m inbuffer resp aesKey session)
    (h' : t.LogsIn env s m inbuffer resp' aesKey' session') :
    resp' = resp ∧ aesKey' = aesKey ∧ session' = session := by
  obtain ⟨u, ho⟩ := h.opens
  obtain ⟨u', ho'⟩ := h'.opens
  cases ho.symm.trans ho'
  obtain ⟨-, hkey, -, hsession⟩ := h.carries
  obtain ⟨-, hkey', -, hsession'⟩ := h'.carries
  cases hkey.symm.trans hkey'
  exact ⟨rfl, rfl, Option.some_inj.mp (hsession'.symm.trans hsession)⟩

/-- A response that logs in does. -/
theorem LogsIn.loggedIn {r : LoginResponse} {aesKey session : Bytes}
    (h : t.LogsIn env a.session m inbuffer resp aesKey session)
    (hr : t.buf2Resp env a m inbuffer = some r) :
    r.errorCode = cgiCodeLoginSucc ∧ r.state.session.authInfo.m_Session = cstr session := by
  cases buf2Resp_outcome hr with
  | loggedIn h' hu hcode hstate =>
      obtain ⟨rfl, rfl, rfl⟩ := h.unique h'
      exact ⟨hcode, by rw [hstate]; rfl⟩
  | refused hno => exact absurd h (hno _ _ _)

end

/-! ### Three responses -/

/-- The AES key a login task has sent. -/
def taskKey : Bytes := ascii "0123456789abcdef"

/-- The generator of `secp224r1`, compressed, and the private key 1 in DER. -/
def generator : Bytes :=
  [0x02, 0xb7, 0x0e, 0x0c, 0xbd, 0x6b, 0xb4, 0xbf, 0x7f, 0x32, 0x13, 0x90, 0xb9, 0x4a, 0x03, 0xc1,
    0xd3, 0x56, 0xc2, 0x11, 0x22, 0x34, 0x32, 0x80, 0xd6, 0x11, 0x5c, 0x1d, 0x21]

def privateKey : Bytes :=
  [0x30, 0x2a, 0x02, 0x01, 0x01, 0x04, 0x1c] ++ List.replicate 27 0 ++
    [0x01, 0xa0, 0x07, 0x06, 0x05, 0x2b, 0x81, 0x04, 0x00, 0x21]

/-- The MD5 digest of the generator's first coordinate. -/
def agreedKey : Bytes :=
  [0x81, 0x17, 0x91, 0xb2, 0xea, 0x3c, 0x9e, 0x68, 0x0b, 0xa1, 0x24, 0x0e, 0x1d, 0x4a, 0xcf, 0x9e]

/-- The bytes of a response with the code 0, the server's key, the session field and the wxid
`w`. -/
def loginText (ecdhkey sessionKey : Bytes) : Bytes :=
  let n := UInt8.ofNat ecdhkey.length
  [0x0a, 0x02, 0x08, 0x00, 0x1a, n + 33, 0x12, n + 9, 0x08, 0xc9, 0x05, 0x12, n + 4, 0x08, n, 0x12,
    n] ++ ecdhkey ++ [0x1a, 0x14, 0x08, 0x10, 0x12, 0x10] ++ sessionKey ++
    [0x22, 0x03, 0x0a, 0x01, 0x77]

def loginMessage (ecdhkey sessionKey : Bytes) : ManualAuthResponse where
  code := 0
  msg := []
  ecdhkeyLen := .ofNat ecdhkey.length
  ecdhkey
  sessionLen := 16
  sessionKey
  l := []
  wxid := ascii "w"

/-- A login with what AES gives for its two encrypted fields, before the padding is taken off. -/
structure LoginSample where
  body : Bytes
  text : Bytes
  resp : ManualAuthResponse
  aesKey : Bytes
  session : Bytes
  length_text : text.length = body.length
  length_session : session.length = resp.sessionKey.length

namespace LoginSample

/-- The libraries on a sample; a double free goes unnoticed. -/
def env (x : LoginSample) : AuthEnv where
  crypto :=
    { plainCrypto with
      cbcDecrypt := fun key iv s =>
        if key = taskKey ∧ iv = taskKey ∧ s = x.body then x.text
        else if key = x.aesKey ∧ iv = x.aesKey ∧ s = x.resp.sessionKey then x.session
        else s
      md5 := fun _ => agreedKey
      length_cbcDecrypt := fun key iv s => by
        split
        · rename_i h
          rw [h.2.2, x.length_text]
        · split
          · rename_i h
            rw [h.2.2, x.length_session]
          · rfl
      length_md5 := fun _ => rfl }
  ecdh :=
    { newByCurveName := fun _ _ => true
      o2iECPublicKey := fun _ _ => true
      d2iECPrivateKey := fun _ _ => true
      secret := fun _ pub pri =>
        if pub = generator ∧ pri = privateKey then some (generator.drop 1) else none
      freesTwice := true }
  platform := asciiPlatform
  manualAuthResponse s :=
    if s = loginText x.resp.ecdhkey x.resp.sessionKey then some x.resp else none

def packet (x : LoginSample) : Bytes :=
  [0xbf, 0x7a, 0x5f, 0, 0, 0, 0, 0, 0, 0, 7] ++ List.replicate 15 1 ++
    [0xbd, 0x05, UInt8.ofNat x.text.length, UInt8.ofNat x.text.length] ++ x.body

/-- The session `k` under the key agreed on. -/
def intact : LoginSample :=
  let sessionKey : Bytes :=
    [0x54, 0x09, 0x73, 0xef, 0x4b, 0xf7, 0x53, 0x93, 0x5d, 0x7b, 0x2d, 0xe6, 0xd7, 0x88, 0x19, 0x0b]
  { body :=
      [0xcf, 0xfa, 0x81, 0xf9, 0x0d, 0xa0, 0x77, 0x79, 0x98, 0xf1, 0xaf, 0xb5, 0x1b, 0x45, 0xbe,
        0xda, 0xcb, 0x20, 0xe1, 0xbd, 0x53, 0x06, 0xb8, 0x32, 0x57, 0xa5, 0xc8, 0x13, 0xa0, 0x5e,
        0x1f, 0x9a, 0xe5, 0x02, 0xa3, 0x75, 0xb7, 0x2d, 0x89, 0xd1, 0xfe, 0x6c, 0x5c, 0x0f, 0x61,
        0xb2, 0xb4, 0xb5, 0xdf, 0x17, 0x21, 0xa9, 0x91, 0xe4, 0xdb, 0xf7, 0xea, 0xa6, 0xc1, 0x81,
        0x6b, 0x82, 0xea, 0x30, 0x19, 0x1e, 0x3c, 0x24, 0x19, 0x84, 0x2c, 0x6d, 0x6b, 0x75, 0x01,
        0x41, 0xe2, 0x0c, 0xe6, 0x3a]
    text := loginText generator sessionKey ++ List.replicate 7 7
    resp := loginMessage generator sessionKey
    aesKey := agreedKey
    session := ascii "k" ++ List.replicate 15 15
    length_text := rfl
    length_session := rfl }

/-- The session `k`, NUL, `k` under the key agreed on. -/
def withNul : LoginSample :=
  let sessionKey : Bytes :=
    [0x1c, 0xff, 0x41, 0x26, 0x39, 0x21, 0x5b, 0x37, 0xe9, 0x8f, 0xb2, 0xde, 0xbb, 0xa1, 0x9e, 0x80]
  { body :=
      [0xcf, 0xfa, 0x81, 0xf9, 0x0d, 0xa0, 0x77, 0x79, 0x98, 0xf1, 0xaf, 0xb5, 0x1b, 0x45, 0xbe,
        0xda, 0xcb, 0x20, 0xe1, 0xbd, 0x53, 0x06, 0xb8, 0x32, 0x57, 0xa5, 0xc8, 0x13, 0xa0, 0x5e,
        0x1f, 0x9a, 0xe5, 0x02, 0xa3, 0x75, 0xb7, 0x2d, 0x89, 0xd1, 0xfe, 0x6c, 0x5c, 0x0f, 0x61,
        0xb2, 0xb4, 0xb5, 0x49, 0x7e, 0x6e, 0x8d, 0x9c, 0x54, 0xd3, 0x1a, 0x8e, 0xdc, 0xe9, 0x98,
        0xe3, 0xd7, 0x5e, 0x57, 0xbf, 0x28, 0xb7, 0xbb, 0x3b, 0x5b, 0x6b, 0xc7, 0xa7, 0x4a, 0x75,
        0x86, 0x2f, 0xa7, 0x23, 0x89]
    text := loginText generator sessionKey ++ List.replicate 7 7
    resp := loginMessage generator sessionKey
    aesKey := agreedKey
    session := [0x6b, 0, 0x6b] ++ List.replicate 13 13
    length_text := rfl
    length_session := rfl }

/-- The point at infinity for a key of the server, and the session `k` under sixteen zeros. -/
def infinity : LoginSample :=
  let sessionKey : Bytes :=
    [0x46, 0x08, 0x78, 0xa4, 0x8a, 0xd2, 0x7f, 0x5d, 0x5f, 0x13, 0xa0, 0xc6, 0x85, 0xc7, 0x33, 0xc6]
  { body :=
      [0xde, 0xfc, 0xc4, 0x61, 0x67, 0x05, 0x98, 0x20, 0xcc, 0xe2, 0x13, 0xa0, 0xc1, 0x09, 0x91,
        0xe4, 0x09, 0x03, 0x1b, 0xb4, 0x33, 0x2f, 0x3c, 0xf0, 0x6e, 0x8a, 0x42, 0x7d, 0xb9, 0xc5,
        0x8c, 0x06, 0x38, 0x2e, 0x9d, 0x7a, 0x10, 0xc1, 0xf8, 0x6f, 0x73, 0x34, 0x16, 0xc8, 0x55,
        0x99, 0xc0, 0x68]
    text := loginText [0] sessionKey ++ List.replicate 3 3
    resp := loginMessage [0] sessionKey
    aesKey := List.replicate 16 0
    session := ascii "k" ++ List.replicate 15 15
    length_text := rfl
    length_session := rfl }

end LoginSample

/-- The task the samples answer. -/
def sampleTask : ManualAuthCGITask :=
  { login [] [] with m_strAesKey := taskKey, m_strLocalEcdhPriKey := privateKey }

section
variable {env : AuthEnv} {t : ManualAuthCGITask} {s : Session} {m : BaseHeader}
  {inbuffer : Bytes} {resp : ManualAuthResponse}

/-- A response that opens, by its message. -/
theorem openManualAuth_of_msg
    (h : (t.openManualAuth env s m inbuffer).map (fun p => p.2.toOption) = some (some resp)) :
    ∃ u, t.openManualAuth env s m inbuffer = some (u, .ok resp) := by
  obtain ⟨⟨u, msg⟩, ho, hmsg⟩ := Option.map_eq_some_iff.mp h
  cases msg with
  | error code => cases hmsg
  | ok resp' =>
      cases hmsg
      exact ⟨u, ho⟩

theorem LogsIn.of_open {aesKey session : Bytes}
    (h : (t.openManualAuth env s m inbuffer).map (fun p => p.2.toOption) = some (some resp))
    (hcode : resp.code = 0) (hcarries : Carries env t resp aesKey session) (hne : session ≠ []) :
    t.LogsIn env s m inbuffer resp aesKey session :=
  ⟨openManualAuth_of_msg h, hcode, hcarries, hne⟩

end

theorem logsIn_intact : sampleTask.LogsIn LoginSample.intact.env {} {} LoginSample.intact.packet
    LoginSample.intact.resp agreedKey (ascii "k") :=
  .of_open (by decide +kernel) rfl (by decide +kernel) (by decide)

theorem returns_intact : ∃ r,
    sampleTask.buf2Resp LoginSample.intact.env {} {} LoginSample.intact.packet = some r :=
  Option.isSome_iff_exists.mp (by decide +kernel)

theorem logsIn_withNul : sampleTask.LogsIn LoginSample.withNul.env {} {}
    LoginSample.withNul.packet LoginSample.withNul.resp agreedKey [0x6b, 0, 0x6b] :=
  .of_open (by decide +kernel) rfl (by decide +kernel) (by decide)

theorem returns_withNul : ∃ r,
    sampleTask.buf2Resp LoginSample.withNul.env {} {} LoginSample.withNul.packet = some r ∧
      r.state.session.authInfo.m_Session = ascii "k" :=
  Option.map_eq_some_iff.mp (by decide +kernel)

theorem logsIn_infinity : sampleTask.LogsIn LoginSample.infinity.env {} {}
    LoginSample.infinity.packet LoginSample.infinity.resp (List.replicate 16 0) (ascii "k") :=
  .of_open (by decide +kernel) rfl (by decide +kernel) (by decide)

theorem returns_infinity : ∃ r,
    sampleTask.buf2Resp LoginSample.infinity.env {} {} LoginSample.infinity.packet = some r :=
  Option.isSome_iff_exists.mp (by decide +kernel)

/-! ### The session key -/

/-- **Which session keys are stored.**  A response that carries the session `k` logs in, and `k` is
what is stored just if there is no NUL in it. -/
theorem m_Session_iff {env : AuthEnv} {t : ManualAuthCGITask} {a : AuthState} {m : BaseHeader}
    {inbuffer aesKey k : Bytes} {resp : ManualAuthResponse} {r : LoginResponse}
    (h : t.LogsIn env a.session m inbuffer resp aesKey k)
    (hr : t.buf2Resp env a m inbuffer = some r) :
    r.errorCode = cgiCodeLoginSucc ∧
      (r.state.session.authInfo.m_Session = k ↔ (0 : UInt8) ∉ k) := by
  obtain ⟨hcode, hsession⟩ := h.loggedIn hr
  rw [hsession]
  exact ⟨hcode, cstr_eq_self_iff⟩

/-- The session `k`. -/
theorem m_Session_intact :
    ∃ r, sampleTask.buf2Resp LoginSample.intact.env {} {} LoginSample.intact.packet = some r ∧
      r.errorCode = cgiCodeLoginSucc ∧
      (r.state.session.authInfo.m_Session = ascii "k" ↔ (0 : UInt8) ∉ ascii "k") := by
  obtain ⟨r, hr⟩ := returns_intact
  exact ⟨r, hr, m_Session_iff logsIn_intact hr⟩

/-- The session `k`, NUL, `k` is stored as `k`. -/
theorem not_m_Session : ¬ ∀ (env : AuthEnv) (t : ManualAuthCGITask) (a : AuthState)
    (m : BaseHeader) (inbuffer aesKey k : Bytes) (resp : ManualAuthResponse) (r : LoginResponse),
    t.LogsIn env a.session m inbuffer resp aesKey k → t.buf2Resp env a m inbuffer = some r →
    r.errorCode = cgiCodeLoginSucc → r.state.session.authInfo.m_Session = k := by
  intro h
  obtain ⟨r, hr, hk⟩ := returns_withNul
  have := h _ _ _ _ _ _ _ _ r logsIn_withNul hr (logsIn_withNul.loggedIn hr).1
  rw [hk] at this
  exact absurd this (by decide)

/-! ### The key agreed on -/

/-- After a success the server's key was agreed on and what is stored is the session decrypted
under it; after an error `CAuthInfo` is as it was. -/
def AgreedLogin (env : AuthEnv) (t : ManualAuthCGITask) (a : AuthState) (m : BaseHeader)
    (inbuffer : Bytes) (r : LoginResponse) : Prop :=
  (r.errorCode = cgiCodeLoginSucc → ∃ u resp aesKey session,
    t.openManualAuth env a.session m inbuffer = some (u, .ok resp) ∧ t.Agreed env resp aesKey ∧
    aesKey.length = 16 ∧ aesNouncompress env.crypto aesKey resp.sessionKey = some session ∧
    r.state.session.authInfo.m_Session = session) ∧
  (r.errorCode ≠ cgiCodeLoginSucc →
    r.state.session.authInfo.m_Session = a.session.authInfo.m_Session ∧
    r.state.session.authInfo.m_uin = a.session.authInfo.m_uin ∧ r.state.account = a.account)

/-- **When a login is an agreed one.**  A call that returns has logged in under a key agreed on and
stored the whole session, or has left everything, exactly if `ECDH_compute_key` succeeds on the
server's key of a response that would log in and its session holds no NUL. -/
theorem agreedLogin_iff {env : AuthEnv} {t : ManualAuthCGITask} {a : AuthState} {m : BaseHeader}
    {inbuffer : Bytes} {r : LoginResponse} (hr : t.buf2Resp env a m inbuffer = some r) :
    AgreedLogin env t a m inbuffer r ↔
      ∀ resp aesKey session, t.LogsIn env a.session m inbuffer resp aesKey session →
        t.Agreed env resp aesKey ∧ (0 : UInt8) ∉ session := by
  constructor
  · rintro ⟨hsucc, -⟩ resp aesKey session h
    obtain ⟨hcode, hstored⟩ := h.loggedIn hr
    obtain ⟨u, resp', aesKey', session', hopen, hagreed, -, hdec, hsession⟩ := hsucc hcode
    obtain ⟨u', hopen'⟩ := h.opens
    cases hopen.symm.trans hopen'
    obtain ⟨-, hkey, -, hdec'⟩ := h.carries
    have hagreed' : t.Agreed env resp aesKey := by
      rcases doEcdh_cases hkey with rfl | hkey | hkey
      · rw [aesNouncompress_nil_key, Option.some_inj] at hdec'
        exact absurd hdec'.symm h.ne_nil
      · exact hkey
      · cases hkey.symm.trans hagreed
    cases hagreed.symm.trans hagreed'
    cases hdec.symm.trans hdec'
    exact ⟨hagreed, cstr_eq_self_iff.mp (hstored.symm.trans hsession)⟩
  · intro hall
    cases buf2Resp_outcome hr with
    | @loggedIn u resp aesKey session h hu hcode hstate =>
        obtain ⟨hagreed, hzero⟩ := hall resp aesKey session h
        obtain ⟨u', hopen⟩ := h.opens
        refine ⟨fun _ => ⟨u', resp, aesKey, session, hopen, hagreed,
          length_ecdhComputeKey hagreed, h.carries.2.2.2, ?_⟩, fun hne => absurd hcode hne⟩
        rw [(h.loggedIn hr).2]
        exact cstr_eq_self hzero
    | refused hno hu hcode hsession haccount =>
        obtain ⟨hs, huin⟩ := login_unPackHeaderWith hu
        refine ⟨fun hc => absurd hc hcode, ?_⟩
        intro _
        rw [hsession]
        exact ⟨hs, huin, haccount⟩

/-- The session `k` under the key agreed on. -/
theorem agreedLogin_intact :
    ∃ r, sampleTask.buf2Resp LoginSample.intact.env {} {} LoginSample.intact.packet = some r ∧
      AgreedLogin LoginSample.intact.env sampleTask {} {} LoginSample.intact.packet r := by
  obtain ⟨r, hr⟩ := returns_intact
  refine ⟨r, hr, (agreedLogin_iff hr).mpr ?_⟩
  intro resp aesKey session h
  obtain ⟨rfl, rfl, rfl⟩ := logsIn_intact.unique h
  exact ⟨show ecdhComputeKey .. = _ by decide +kernel, by decide⟩

/-- A session that is cut at its NUL, and one under zeros where the agreement failed. -/
theorem not_agreedLogin :
    (¬ ∀ r, sampleTask.buf2Resp LoginSample.withNul.env {} {} LoginSample.withNul.packet = some r →
      AgreedLogin LoginSample.withNul.env sampleTask {} {} LoginSample.withNul.packet r) ∧
    (¬ ∀ r, sampleTask.buf2Resp LoginSample.infinity.env {} {} LoginSample.infinity.packet =
        some r →
      AgreedLogin LoginSample.infinity.env sampleTask {} {} LoginSample.infinity.packet r) := by
  constructor
  · intro h
    obtain ⟨r, hr, hk⟩ := returns_withNul
    obtain ⟨u, resp, aesKey, session, hopen, hagreed, -, hdec, hsession⟩ :=
      (h r hr).1 (logsIn_withNul.loggedIn hr).1
    obtain ⟨u', hopen'⟩ := logsIn_withNul.opens
    cases hopen.symm.trans hopen'
    have hkey : aesKey = agreedKey := Option.some_inj.mp (hagreed.symm.trans (by decide +kernel))
    subst hkey
    rw [← hsession, hk] at hdec
    exact absurd hdec (by decide +kernel)
  · intro h
    obtain ⟨r, hr⟩ := returns_infinity
    obtain ⟨u, resp, aesKey, session, hopen, hagreed, -⟩ :=
      (h r hr).1 (logsIn_infinity.loggedIn hr).1
    obtain ⟨u', hopen'⟩ := logsIn_infinity.opens
    cases hopen.symm.trans hopen'
    have hnone : ecdhComputeKey LoginSample.infinity.env.crypto LoginSample.infinity.env.ecdh
        sampleTask.m_nid LoginSample.infinity.resp.ecdhkey sampleTask.m_strLocalEcdhPriKey =
          none := by decide +kernel
    cases hnone.symm.trans hagreed

end ManualAuthCGITask

end MicroChat
