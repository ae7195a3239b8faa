import MicroChat.Business.AesPadding
import MicroChat.Business.Items
import MicroChat.Business.Tasks

/-!
# Business — Decoding

What the classes report of a response, against what it decodes to.

* `Decoding`, `CGITask.decoding`: how each of the seven classes decodes its responses.
* `Decrypts`, `FullyDecoded`: a response with a plaintext, and one whose plaintext parses.
* `decrypts_of_zero`: what a task has found if it reports success.
* `fullyDecoded_iff`: after which responses a reported success is one.
* `aesNouncompress_accepts`: what a decryptor accepts, and what the tasks make of the rest.
-/

namespace MicroChat
open Support Support.Cbc

/-! ### How responses are decoded -/

/-- How a task decodes its response: the header parser, the task's header, the key of the body, and
whether a plaintext parses. -/
structure Decoding where
  reader : HeaderReader
  header : BaseHeader
  key : Session → Bytes
  parses : Bytes → Bool

/-- The classes that decode a response. -/
def CGITask.decoding (env : CgiEnv) : CGITask → Option Decoding
  | .manualAuth t m =>
      some ⟨.manualAuth, m, fun _ => t.m_strAesKey, fun s => (env.manualAuthResponse s).isSome⟩
  | .newInit m => some ⟨.base, m, sessionKey, fun s => (env.proto.newInitResponse s).isSome⟩
  | .newSync m => some ⟨.base, m, sessionKey, fun s => (env.proto.newSyncResp s).isSome⟩
  | .searchContact m =>
      some ⟨.base, m, sessionKey, fun s => (env.replies.searchContactResponse s).isSome⟩
  | .getContact m =>
      some ⟨.base, m, sessionKey, fun s => (env.replies.getContactResponse s).isSome⟩
  | .verifyUser _ m =>
      some ⟨.base, m, sessionKey, fun s => (env.replies.verifyUserResponse s).isSome⟩
  | .bind t m =>
      some ⟨.bind, m, fun _ => t.m_strAesKey, fun s => (env.replies.bindResponse s).isSome⟩
  | .newSend _ | .reportSyncKV => none

/-- The header leaves a body that is not empty, and `text` is what it decrypts to, and uncompresses
to if the header says so. -/
def Decrypts (C : Crypto) (D : Decoding) (s : Session) (inbuffer text : Bytes) : Prop :=
  ∃ u, unPackHeaderWith D.reader s D.header inbuffer = some u ∧ u.body ≠ [] ∧
    decryptUnder C (D.key u.session) u = some text

/-- The plaintext is not empty, and it parses. -/
def FullyDecoded (C : Crypto) (D : Decoding) (s : Session) (inbuffer : Bytes) : Prop :=
  ∃ text, Decrypts C D s inbuffer text ∧ text ≠ [] ∧ D.parses text = true

/-- The plaintext, computed. -/
theorem decrypts_iff {C : Crypto} {D : Decoding} {s : Session} {inbuffer text : Bytes} :
    Decrypts C D s inbuffer text ↔
      ((unPackHeaderWith D.reader s D.header inbuffer).bind fun u =>
        if u.body = [] then none else decryptUnder C (D.key u.session) u) = some text := by
  rw [Option.bind_eq_some_iff]
  refine exists_congr ?_
  intro u
  refine and_congr_right ?_
  intro _
  by_cases hb : u.body = [] <;> simp [hb]

theorem Decrypts.unique {C : Crypto} {D : Decoding} {s : Session} {inbuffer text text' : Bytes}
    (h : Decrypts C D s inbuffer text) (h' : Decrypts C D s inbuffer text') : text' = text := by
  obtain ⟨u, hu, -, ht⟩ := h
  obtain ⟨u', hu', -, ht'⟩ := h'
  cases hu.symm.trans hu'
  exact Option.some_inj.mp (ht'.symm.trans ht)

theorem Plaintext.decrypts {C : Crypto} {D : Decoding} {s : Session} {inbuffer text : Bytes}
    (h : Plaintext C D.reader D.key s D.header inbuffer text) : Decrypts C D s inbuffer text := by
  obtain ⟨u, hu, hb, -, ht⟩ := h
  exact ⟨u, hu, hb, ht⟩

/-- A message of no bytes has every field at its default, the length of the server's key at 0. -/
def CgiEnv.EmptyIsDefault (env : CgiEnv) : Prop :=
  ∀ resp, env.manualAuthResponse [] = some resp → resp.ecdhkeyLen = 0

/-! ### What success means -/

theorem cgiErrUnknown_ne_zero : cgiErrUnknown ≠ 0 := by decide

theorem cgiCodeLoginFail_ne_zero : cgiCodeLoginFail ≠ 0 := by decide

section
variable {env : Env} {H : SyncHandler} {s : Session} {m : BaseHeader} {db : Sql3}
  {inbuffer : Bytes}

/-- Success of a `NewSync` or `NewInit`: there is a plaintext, which parses unless the handler
takes one that does not for a success. -/
theorem plaintext_of_buf2RespWith {r : SyncResponse}
    (h : buf2RespWith env H s m db inbuffer = some r) (hinit : H.initial ≠ 0)
    (hzero : r.errorCode = 0) :
    ∃ text, Plaintext env.crypto .base sessionKey s m inbuffer text ∧ text ≠ [] ∧
      (H.parse text = none → H.onParseErr = 0) := by
  obtain ⟨⟨u, text⟩, ho, hr⟩ := Option.bind_eq_some_iff.mp h
  rcases openResponse_cases ho with ⟨htext, -⟩ | ⟨htext, -⟩ | ⟨t, htext, hne, ht⟩
  · rcases htext with rfl | rfl
    · cases hr
      exact absurd (show cgiCodeUnpackErr = 0 from hzero) (by decide)
    · cases hr
      exact absurd (show cgiCodeDecryptErr = 0 from hzero) (by decide)
  · subst htext
    cases hr
    exact absurd hzero hinit
  · subst htext
    refine ⟨t, ht, hne, ?_⟩
    intro hp
    dsimp only at hr
    rw [hp] at hr
    cases hr
    exact hzero

end

/-- Success of the tasks that bring back one message. -/
theorem plaintext_of_replyWith {μ ρ : Type} {C : Crypto} {H : ReplyHandler μ ρ} {s : Session}
    {m : BaseHeader} {inbuffer : Bytes} {r : TaskReply ρ}
    (h : replyWith C H s m inbuffer = some r) (hinit : H.initial ≠ 0) (hzero : r.errorCode = 0) :
    ∃ text, Plaintext C H.reader H.key s m inbuffer text ∧ text ≠ [] ∧
      (H.parse text).isSome = true := by
  cases (replyWith_outcome h).2 with
  | closed _ hcode =>
      rcases hcode with hcode | hcode <;> (rw [hcode] at hzero; exact absurd hzero (by decide))
  | unparsed _ _ hcode =>
      rw [hcode] at hzero
      exact absurd hzero (by decide)
  | @filled text resp ht hp _ hcode =>
      refine ⟨text, ht, ?_, by rw [hp, Option.isSome_some]⟩
      rintro rfl
      rw [if_neg (not_not.mpr rfl)] at hcode
      exact hinit (hcode.symm.trans hzero)

/-- Success of a login. -/
theorem decrypts_of_logsIn {env : CgiEnv} {t : ManualAuthCGITask} {s : Session} {m : BaseHeader}
    {inbuffer : Bytes} {resp : ManualAuthResponse} {aesKey session : Bytes}
    (hdefault : env.EmptyIsDefault) (h : t.LogsIn env.auth s m inbuffer resp aesKey session) :
    ∃ u text, manualAuthUnPackHeader s m inbuffer = some u ∧ u.body ≠ [] ∧
      decryptUnder env.crypto t.m_strAesKey u = some text ∧ text ≠ [] ∧
      (env.manualAuthResponse text).isSome = true := by
  obtain ⟨u', hopen⟩ := h.opens
  obtain ⟨u, hu, hopen⟩ := Option.bind_eq_some_iff.mp hopen
  split at hopen
  · cases hopen
  · rename_i hbody
    obtain ⟨text, ht, hopen⟩ := Option.bind_eq_some_iff.mp hopen
    split at hopen
    · cases hopen
    · rename_i resp' hresp
      cases hopen
      refine ⟨_, text, hu, fun he => hbody (by rw [he]; rfl), ht, ?_, ?_⟩
      · -- a message of no bytes carries no key of the server
        rintro rfl
        exact h.carries.1 (hdefault _ hresp)
      · exact Option.isSome_iff_exists.mpr ⟨_, hresp⟩

section
variable {env : CgiEnv} {task : CGITask} {D : Decoding} {x : CgiState} {i : CgiInput} {r : CgiEnd}

/-- **What a task has found if it reports success**: a plaintext that is not empty, and that
parses, unless the task is a `NewInit`. -/
theorem decrypts_of_zero (hdefault : env.EmptyIsDefault) (hD : task.decoding env = some D)
    (h : task.buf2Resp env x i = some r) (hzero : r.errorCode = 0) :
    ∃ text, Decrypts env.crypto D x.auth.session i.inbuffer text ∧ text ≠ [] ∧
      (D.parses text = true ∨ ∃ m, task = .newInit m) := by
  cases task with
  | manualAuth t m =>
      cases hD
      obtain ⟨r, hr, rfl⟩ := Option.map_eq_some_iff.mp h
      cases ManualAuthCGITask.buf2Resp_outcome hr with
      | loggedIn hlog _ _ _ =>
          obtain ⟨u, text, hu, hbody, ht, hne, hparse⟩ := decrypts_of_logsIn hdefault hlog
          exact ⟨text, ⟨u, hu, hbody, ht⟩, hne, .inl hparse⟩
      | refused _ _ hcode _ _ => exact absurd hzero hcode
  | newInit m =>
      cases hD
      obtain ⟨r, hr, rfl⟩ := Option.map_eq_some_iff.mp h
      obtain ⟨text, ht, hne, -⟩ := plaintext_of_buf2RespWith hr cgiCodeLoginFail_ne_zero hzero
      exact ⟨text, Plaintext.decrypts ht, hne, .inr ⟨m, rfl⟩⟩
  | newSync m =>
      cases hD
      obtain ⟨r, hr, rfl⟩ := Option.map_eq_some_iff.mp h
      obtain ⟨text, ht, hne, hparse⟩ := plaintext_of_buf2RespWith hr cgiErrUnknown_ne_zero hzero
      refine ⟨text, Plaintext.decrypts ht, hne, .inl (Option.isSome_iff_ne_none.mpr ?_)⟩
      intro hp
      have hcode := hparse (show Option.map _ (env.proto.newSyncResp text) = none by rw [hp]; rfl)
      exact absurd (show cgiCodeParseProtobufErr = 0 from hcode) (by decide)
  | searchContact m | getContact m | verifyUser t m =>
      cases hD
      obtain ⟨r, hr, rfl⟩ := Option.map_eq_some_iff.mp h
      obtain ⟨text, ht, hne, hparse⟩ := plaintext_of_replyWith hr cgiErrUnknown_ne_zero hzero
      exact ⟨text, Plaintext.decrypts ht, hne, .inl hparse⟩
  | bind t m =>
      cases hD
      obtain ⟨r, hr, rfl⟩ := Option.map_eq_some_iff.mp h
      obtain ⟨text, ht, hne, hparse⟩ := plaintext_of_replyWith hr cgiCodeLoginFail_ne_zero hzero
      exact ⟨text, Plaintext.decrypts ht, hne, .inl hparse⟩
  | newSend t | reportSyncKV => cases hD

/-- The task is a `NewInit`, and the plaintext, not empty, does not parse. -/
def UnparsedInit (env : CgiEnv) (s : Session) (inbuffer : Bytes) (task : CGITask) : Prop :=
  ∃ m text, task = .newInit m ∧ Plaintext env.crypto .base sessionKey s m inbuffer text ∧
    text ≠ [] ∧ env.proto.newInitResponse text = none

/-- `NewInit` takes a plaintext that does not parse for a success. -/
theorem errorCode_of_unparsedInit (hun : UnparsedInit env x.auth.session i.inbuffer task)
    (h : task.buf2Resp env x i = some r) : r.errorCode = 0 := by
  obtain ⟨m, text, rfl, ht, hne, hp⟩ := hun
  obtain ⟨r, hr, rfl⟩ := Option.map_eq_some_iff.mp h
  obtain ⟨⟨u, text'⟩, ho, hr⟩ := Option.bind_eq_some_iff.mp hr
  rcases openResponse_cases ho with ⟨-, hno⟩ | ⟨-, hempty⟩ | ⟨t, rfl, -, ht'⟩
  · exact absurd ht (hno text)
  · exact absurd (hempty.unique ht) hne
  · cases ht'.unique ht
    have hparse : (newInitHandler env.toEnv).parse text = none := by
      change Option.map _ (env.proto.newInitResponse text) = none
      rw [hp]
      rfl
    dsimp only at hr
    rw [hparse] at hr
    cases hr
    rfl

/-- **When success means a fully decoded response**: always, but for a `NewInit` whose plaintext
does not parse. -/
theorem fullyDecoded_iff (hdefault : env.EmptyIsDefault) (hD : task.decoding env = some D)
    (h : task.buf2Resp env x i = some r) :
    (r.errorCode = 0 → FullyDecoded env.crypto D x.auth.session i.inbuffer) ↔
      ¬ UnparsedInit env x.auth.session i.inbuffer task := by
  constructor
  · intro hfull hun
    obtain ⟨text, ht, -, hparse⟩ := hfull (errorCode_of_unparsedInit hun h)
    obtain ⟨m, text', rfl, ht', -, hp⟩ := hun
    cases hD
    cases ht.unique (Plaintext.decrypts ht')
    have hsome : (env.proto.newInitResponse text).isSome = true := hparse
    rw [hp] at hsome
    cases hsome
  · intro hun hzero
    obtain ⟨text, ht, hne, hparse⟩ := decrypts_of_zero hdefault hD h hzero
    refine ⟨text, ht, hne, ?_⟩
    rcases hparse with hparse | ⟨m, rfl⟩
    · exact hparse
    · cases hD
      by_contra hp
      have hnone : env.proto.newInitResponse text = none := by simpa using hp
      obtain ⟨r, hr, rfl⟩ := Option.map_eq_some_iff.mp h
      obtain ⟨text', ht', -, -⟩ := plaintext_of_buf2RespWith hr cgiCodeLoginFail_ne_zero hzero
      cases ht.unique (Plaintext.decrypts ht')
      exact hun ⟨m, text, rfl, ht', hne, hnone⟩

end

/-- The libraries on the response with three items; a login response of no bytes parses. -/
def itemsCgiEnv : CgiEnv where
  __ := itemsEnv
  ecdh := plainCgiEnv.ecdh
  manualAuthResponse s := if s = [] then some ⟨0, [], 0, [], 0, [], [], []⟩ else none
  replies := plainCgiEnv.replies

/-- A client that is logged in. -/
def loggedIn : CgiState where
  auth := { session := { authInfo := { m_Session := brokenKey } } }
  db := ⟨none, 0⟩

theorem emptyIsDefault_itemsCgiEnv : itemsCgiEnv.EmptyIsDefault := by
  intro resp h
  cases h
  rfl

/-- A `NewSync` response with three items. -/
theorem fullyDecoded_items : ∃ r,
    (CGITask.newSync {}).buf2Resp itemsCgiEnv loggedIn ⟨0, responseOf 53 itemsBody, 0⟩ = some r ∧
      ((r.errorCode = 0 → FullyDecoded itemsCgiEnv.crypto
          ⟨.base, {}, sessionKey, fun s => (itemsCgiEnv.proto.newSyncResp s).isSome⟩
          loggedIn.auth.session (responseOf 53 itemsBody)) ↔
        ¬ UnparsedInit itemsCgiEnv loggedIn.auth.session (responseOf 53 itemsBody)
          (.newSync {})) := by
  have hcode : ((CGITask.newSync {}).buf2Resp itemsCgiEnv loggedIn
      ⟨0, responseOf 53 itemsBody, 0⟩).map (·.errorCode) = some 0 := by decide +kernel
  obtain ⟨r, hr, -⟩ := Option.map_eq_some_iff.mp hcode
  exact ⟨r, hr, fullyDecoded_iff emptyIsDefault_itemsCgiEnv rfl hr⟩

/-- A field of five bytes that is cut off, and its padding under AES-128-CBC. -/
def cutBody : Bytes :=
  [0x43, 0xa7, 0x5b, 0xfc, 0x24, 0x82, 0x45, 0x0f, 0x66, 0xe0, 0xa1, 0x37, 0x01, 0x71, 0x2d, 0x44]

/-- The libraries on a response with this body. -/
def cutEnv : CgiEnv where
  __ := itemsCgiEnv
  crypto := decrypting cutBody ([0x12, 0x05] ++ List.replicate 14 0x0e) rfl

/-- A `NewInit` response that does not parse is reported as a success. -/
theorem not_fullyDecoded : ¬ ∀ (env : CgiEnv) (task : CGITask) (D : Decoding) (x : CgiState)
    (i : CgiInput) (r : CgiEnd), env.EmptyIsDefault → task.decoding env = some D →
    task.buf2Resp env x i = some r → r.errorCode = 0 →
      FullyDecoded env.crypto D x.auth.session i.inbuffer := by
  intro h
  have hcode : ((CGITask.newInit {}).buf2Resp cutEnv loggedIn
      ⟨0, responseOf 2 cutBody, 0⟩).map (·.errorCode) = some 0 := by decide +kernel
  obtain ⟨r, hr, hzero⟩ := Option.map_eq_some_iff.mp hcode
  obtain ⟨text, ht, -, hparse⟩ := h cutEnv _ _ _ _ r emptyIsDefault_itemsCgiEnv rfl hr hzero
  have htext : Decrypts cutEnv.crypto
      ⟨.base, {}, sessionKey, fun s => (cutEnv.proto.newInitResponse s).isSome⟩
      loggedIn.auth.session (responseOf 2 cutBody) [0x12, 0x05] :=
    decrypts_iff.mpr (by decide +kernel)
  cases htext.unique ht
  exact absurd hparse (by decide +kernel)

/-! ### What a decryptor accepts -/

/-- **What is accepted under a key of one block, and what becomes of the rest.**  A text that is
returned is followed by as many bytes as the last of them says, and is encrypted to the same
ciphertext just if that is whole blocks and these bytes are a padding.  Where the empty string is
returned a task ends in an error. -/
theorem aesNouncompress_accepts {C : Crypto} {B : Bytes → BlockCipher 16} {key c : Bytes}
    (hkey : key.length = 16) (hc : c ≠ []) :
    (∀ m, m ≠ [] → aesNouncompress (C.withCipher B) key c = some m →
      ∃ tail, decrypt (B key) key c = m ++ tail ∧
        tail.length = uiPaddingLen (C.withCipher B) key c ∧ tail.length ≤ 16 ∧
        (nocompressAes (C.withCipher B) key m = c ↔
          16 ∣ c.length ∧ tail ≠ [] ∧ ∀ b ∈ tail, b = UInt8.ofNat tail.length)) ∧
    (16 < uiPaddingLen (C.withCipher B) key c ∨
        uiPaddingLen (C.withCipher B) key c = c.length →
      aesNouncompress (C.withCipher B) key c = some []) ∧
    ∀ (env : CgiEnv) (task : CGITask) (D : Decoding) (x : CgiState) (i : CgiInput) (r : CgiEnd)
      (u : HeaderResult), env.EmptyIsDefault → env.crypto = C.withCipher B →
      task.decoding env = some D →
      unPackHeaderWith D.reader x.auth.session D.header i.inbuffer = some u → u.body = c →
      D.key u.session = key → u.header.m_bCompressed = false →
      aesNouncompress (C.withCipher B) key c = some [] → task.buf2Resp env x i = some r →
      r.errorCode ≠ 0 := by
  have hok : aesKeyOk key = true := by simp [aesKeyOk, hkey]
  refine ⟨?_, ?_, ?_⟩
  · intro m hm h
    obtain ⟨tail, hdec, hpad, hle⟩ := (aesNouncompress_eq_some_iff hok hc hm).mp h
    rw [hkey] at hle
    exact ⟨tail, hdec, hpad, hle, nocompressAes_accepted_iff hkey hdec hle⟩
  · intro h
    rw [← hkey] at h
    exact aesNouncompress_eq_nil hok hc h
  · rintro env task D x i r u hdefault hcrypto hD hu rfl rfl hflag hnil h hzero
    have ht : Decrypts env.crypto D x.auth.session i.inbuffer [] := by
      refine ⟨u, hu, hc, ?_⟩
      rw [hcrypto, decryptUnder, hflag]
      exact hnil
    obtain ⟨text, ht', hne, -⟩ := decrypts_of_zero hdefault hD h hzero
    exact hne (ht.unique ht')

/-- AES-128 under `0123456789abcdef` on the block of `m` and its padding, and on one that ends in
the same byte behind other ones. -/
def aes128OfPaddings : BlockCipher 16 :=
  .comp (.swap
    [0x5d, 0x31, 0x32, 0x33, 0x34, 0x35, 0x36, 0x37, 0x38, 0x39, 0x61, 0x62, 0x63, 0x64, 0x65, 0x69]
    [0x0c, 0x73, 0x1b, 0xac, 0xb8, 0xa4, 0x99, 0x28, 0x38, 0x77, 0xfc, 0x54, 0xfc, 0x99, 0xfb, 0x15]
    rfl rfl) aes128OfM

/-- The ciphertext of `m`. -/
def cipherOfM : Bytes :=
  [0x66, 0x00, 0x95, 0x99, 0x15, 0x48, 0x16, 0x4d, 0xbc, 0x67, 0x7e, 0x63, 0xa6, 0xb6, 0x25, 0x12]

/-- What is accepted as `m` is its ciphertext just if it is padded right. -/
theorem aesNouncompress_accepts_m : ∃ tail,
    decrypt aes128OfPaddings (ascii "0123456789abcdef") cipherOfM = ascii "m" ++ tail ∧
      tail.length = uiPaddingLen (plainCrypto.withCipher fun _ => aes128OfPaddings)
        (ascii "0123456789abcdef") cipherOfM ∧ tail.length ≤ 16 ∧
      (nocompressAes (plainCrypto.withCipher fun _ => aes128OfPaddings)
          (ascii "0123456789abcdef") (ascii "m") = cipherOfM ↔
        16 ∣ cipherOfM.length ∧ tail ≠ [] ∧ ∀ b ∈ tail, b = UInt8.ofNat tail.length) :=
  (@aesNouncompress_accepts plainCrypto (fun _ => aes128OfPaddings) (ascii "0123456789abcdef")
    cipherOfM (by decide) (by decide)).1 (ascii "m") (by decide) (by decide +kernel)

/-- `m`, fourteen zeros and the byte 15, encrypted: that is accepted as `m`. -/
theorem not_aesNouncompress_accepts : ¬ ∀ (C : Crypto) (B : Bytes → BlockCipher 16)
    (key c m : Bytes), key.length = 16 → c ≠ [] →
    aesNouncompress (C.withCipher B) key c = some m → m ≠ [] →
      nocompressAes (C.withCipher B) key m = c := by
  intro h
  have hback := h plainCrypto (fun _ => aes128OfPaddings) (ascii "0123456789abcdef")
    [0x0c, 0x73, 0x1b, 0xac, 0xb8, 0xa4, 0x99, 0x28, 0x38, 0x77, 0xfc, 0x54, 0xfc, 0x99, 0xfb, 0x15]
    (ascii "m") (by decide) (by decide) (by decide +kernel) (by decide)
  revert hback
  decide +kernel

end MicroChat
