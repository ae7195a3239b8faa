import MicroChat.Business.LoginResponse
import MicroChat.Business.SyncKey

/-!
# Business — LoginReason

The reason that `ManualAuthCGITask::Buf2Resp` takes out of the text of a refused login: it looks
for `]></Content>` and leaves out the character before it, where the text is to end with
`]]></Content>`.

* `contentOf_eq`: the reason by the two places that are found.
* `between_contentOf_iff`: when it is what stands between the markers.
* `exactReason_iff`: the same for a response.
-/

namespace MicroChat.ManualAuthCGITask
open Support

/-! ### The markers -/

/-- What a reason begins and ends with. -/
def contentStart : Bytes := ascii "<Content><![CDATA["
def contentEnd : Bytes := ascii "]]></Content>"

/-- What the function looks for instead of `contentEnd`. -/
def contentTail : Bytes := ascii "]></Content>"

theorem contentEnd_eq : contentEnd = 0x5d :: contentTail := by decide

/-- The length that is passed to `substr`. -/
def reasonLen (strXml : Bytes) : Option Int := do
  let nStart := (← find strXml contentStart 0) + contentStart.length
  let nEnd ← find strXml contentTail nStart
  return (nEnd : Int) - nStart - 1

section
variable {strXml reason : Bytes} {i nEnd : Nat}

/-- The reason, by the two places. -/
theorem contentOf_eq (hstart : FirstAt contentStart strXml 0 i)
    (hend : FirstAt contentTail strXml (i + contentStart.length) nEnd) :
    contentOf strXml = some ((strXml.drop (i + contentStart.length)).take
      (if nEnd = i + contentStart.length then strXml.length
        else nEnd - (i + contentStart.length) - 1)) ∧
      reasonLen strXml = some ((nEnd : Int) - (i + contentStart.length : Nat) - 1) := by
  have hfind : find strXml contentStart 0 = some i := find_eq_some_iff.mpr hstart
  have htail : find strXml contentTail (i + contentStart.length) = some nEnd :=
    find_eq_some_iff.mpr hend
  have hle := hstart.add_length_le (by decide)
  constructor
  · rw [contentOf]
    change (find strXml contentStart 0).bind (fun i =>
      (find strXml contentTail (i + contentStart.length)).bind fun nEnd =>
        substr strXml (i + contentStart.length) (if nEnd = i + contentStart.length then
          strXml.length else nEnd - (i + contentStart.length) - 1)) = _
    rw [hfind, Option.bind_some, htail, Option.bind_some, substr_of_le hle]
  · rw [reasonLen, hfind]
    simp only [Option.bind_eq_bind, Option.bind_some, htail]
    rfl

/-- A text with a reason has the two places. -/
theorem firstAt_of_contentOf (h : contentOf strXml = some reason) :
    ∃ i nEnd, FirstAt contentStart strXml 0 i ∧
      FirstAt contentTail strXml (i + contentStart.length) nEnd := by
  obtain ⟨i, hi, h⟩ := Option.bind_eq_some_iff.mp h
  obtain ⟨nEnd, hend, -⟩ := Option.bind_eq_some_iff.mp h
  exact ⟨i, nEnd, find_eq_some_iff.mp hi, find_eq_some_iff.mp hend⟩

/-- In a whole marker the part that is looked for stands one character on. -/
theorem contentTail_stands {j : Nat} (h : contentEnd <+: strXml.drop j) :
    contentTail <+: strXml.drop (j + 1) := by
  rw [contentEnd_eq] at h
  rw [← List.drop_drop]
  simpa using h.drop 1

/-- The place that is found is the end of the reason, but for the bracket before it. -/
theorem firstAt_contentEnd (hlt : i < nEnd) (hend : FirstAt contentTail strXml i nEnd)
    (hb : strXml[nEnd - 1]? = some 0x5d) : FirstAt contentEnd strXml i (nEnd - 1) := by
  obtain ⟨-, hpre, hbefore⟩ := hend
  have hbound : nEnd - 1 < strXml.length := (List.getElem?_eq_some_iff.mp hb).1
  have hdrop : strXml.drop (nEnd - 1) = 0x5d :: strXml.drop nEnd := by
    rw [List.drop_eq_getElem_cons hbound, (List.getElem?_eq_some_iff.mp hb).2,
      Nat.sub_add_cancel (by omega)]
  refine ⟨by omega, ?_, ?_⟩
  · rw [contentEnd_eq, hdrop]
    exact List.cons_prefix_cons.mpr ⟨rfl, hpre⟩
  · intro j hj hjlt hat
    -- a whole marker before would have the part that is looked for one character on
    exact hbefore (j + 1) (by omega) (by omega) (contentTail_stands hat)

/-- **When the reason is what stands between the markers**: just if the part that is found is that
of a whole marker. -/
theorem between_contentOf_iff (hstart : FirstAt contentStart strXml 0 i)
    (hend : FirstAt contentTail strXml (i + contentStart.length) nEnd)
    (h : contentOf strXml = some reason) :
    Between contentStart contentEnd strXml reason ↔
      i + contentStart.length < nEnd ∧ strXml[nEnd - 1]? = some 0x5d := by
  have hreason := (contentOf_eq hstart hend).1
  rw [h, Option.some_inj] at hreason
  constructor
  · rintro ⟨i', j, hi', hj, hbetween⟩
    cases hstart.unique hi'
    have hbound := hj.add_length_le (by decide)
    have hpos : 0 < contentEnd.length := by decide
    have hle : nEnd ≤ j + 1 := by
      by_contra hlt
      exact hend.2.2 (j + 1) (by have := hj.1; omega) (by omega) (contentTail_stands hj.2.1)
    -- the two texts have the same length only if the two ends are the same
    have hlen := congrArg List.length (hreason.symm.trans hbetween)
    rw [List.length_take, List.length_take, List.length_drop] at hlen
    have hjle := hj.1
    have hele := hend.1
    have hne : nEnd ≠ i + contentStart.length := by
      -- the reason would run on to the end of the text, past the whole marker
      intro he
      rw [if_pos he] at hlen
      omega
    rw [if_neg hne] at hlen
    have he : j = nEnd - 1 := by omega
    subst he
    refine ⟨by omega, ?_⟩
    have hat := hj.2.1
    rw [contentEnd_eq, List.drop_eq_getElem_cons (by omega), List.cons_prefix_cons] at hat
    rw [List.getElem?_eq_getElem (by omega), hat.1]
  · rintro ⟨hlt, hb⟩
    refine ⟨i, nEnd - 1, hstart, firstAt_contentEnd hlt hend hb, ?_⟩
    rw [hreason, if_neg (by omega)]
    congr 1
    omega

end

/-! ### Refused logins -/

/-- The first `]></Content>` behind the first `<Content><![CDATA[` comes behind another `]`. -/
def WholeMarker (strXml : Bytes) : Prop :=
  ∀ i nEnd, FirstAt contentStart strXml 0 i →
    FirstAt contentTail strXml (i + contentStart.length) nEnd →
    i + contentStart.length < nEnd ∧ strXml[nEnd - 1]? = some 0x5d

/-- `szMsg` has been replaced by this reason. -/
def ReplacedBy (P : Platform) (resp : ManualAuthResponse) (res : LoginResult) (reason : Bytes) :
    Prop :=
  contentOf resp.msg = some reason ∧ res.szMsg = utf82CStringA P reason

/-- A reason that replaces `szMsg` is what stands between the markers, and no negative length is
passed to `substr`. -/
def ExactReason (P : Platform) (resp : ManualAuthResponse) (res : LoginResult) : Prop :=
  ∀ reason, ReplacedBy P resp res reason →
    Between contentStart contentEnd resp.msg reason ∧ ∀ n ∈ reasonLen resp.msg, 0 ≤ n

section
variable {env : AuthEnv} {t : ManualAuthCGITask} {a : AuthState} {m : BaseHeader}
  {inbuffer : Bytes} {resp : ManualAuthResponse} {u : HeaderResult} {r : LoginResponse}

/-- What a refused login leaves in `szMsg`: the reason, or else the whole text. -/
theorem szMsg_of_refused (ho : t.openManualAuth env a.session m inbuffer = some (u, .ok resp))
    (hcode : resp.code ≠ 0) (h : t.buf2Resp env a m inbuffer = some r) :
    r.res.szMsg = match contentOf resp.msg with
      | some reason => utf82CStringA env.platform reason
      | none => cstr resp.msg := by
  have hne : resp.code.toInt ≠ 0 := fun he => hcode (Int32.toInt_inj.mp he)
  obtain ⟨⟨u', msg⟩, ho', h⟩ := Option.bind_eq_some_iff.mp h
  cases ho.symm.trans ho'
  obtain ⟨szMsg, hmsg, h⟩ := Option.bind_eq_some_iff.mp h
  obtain ⟨⟨code, a', res⟩, hlogin, rfl⟩ := Option.map_eq_some_iff.mp h
  rw [if_neg hne] at hlogin
  obtain ⟨res₁, hres, hlogin⟩ := Option.bind_eq_some_iff.mp hlogin
  -- what comes behind the reason fills `szUrl` and the session only
  have hkeeps : res.szMsg = res₁.szMsg := by
    split at hlogin
    · split at hlogin
      · obtain ⟨szUrl, -, hlogin⟩ := Option.bind_eq_some_iff.mp hlogin
        cases hlogin
        rfl
      · cases hlogin
        rfl
    · split at hlogin <;> cases hlogin <;> rfl
  dsimp only
  rw [hkeeps]
  rw [refusedResult] at hres
  cases hc : contentOf resp.msg with
  | none =>
      rw [hc] at hres
      cases hres
      exact (cstr_of_strcpyS hmsg).symm
  | some reason =>
      rw [hc] at hres
      obtain ⟨szMsg', hcopy, rfl⟩ := Option.map_eq_some_iff.mp hres
      dsimp only
      rw [← cstr_of_strcpyS hcopy]
      exact cstr_eq_self (zero_notMem_cstr _)

/-- **Which refused logins have the reason exactly**: those whose text has a whole marker where the
function finds its end, or no reason. -/
theorem exactReason_iff
    (ho : t.openManualAuth env a.session m inbuffer = some (u, .ok resp)) (hcode : resp.code ≠ 0)
    (h : t.buf2Resp env a m inbuffer = some r) :
    ExactReason env.platform resp r.res ↔ WholeMarker resp.msg := by
  constructor
  · intro hexact i nEnd hstart hend
    have hc := (contentOf_eq hstart hend).1
    have hmsg := szMsg_of_refused ho hcode h
    rw [hc] at hmsg
    exact (between_contentOf_iff hstart hend hc).mp (hexact _ ⟨hc, hmsg⟩).1
  · rintro hwhole reason ⟨hc, -⟩
    obtain ⟨i, nEnd, hstart, hend⟩ := firstAt_of_contentOf hc
    have hmarker := hwhole i nEnd hstart hend
    refine ⟨(between_contentOf_iff hstart hend hc).mpr hmarker, ?_⟩
    intro n hn
    rw [Option.mem_def, (contentOf_eq hstart hend).2, Option.some_inj] at hn
    have := hmarker.1
    omega

end

/-! ### A refusal with a reason, and one without -/

/-- A response with the code -3 and this text, and its bytes. -/
def refusal (msg : Bytes) : ManualAuthResponse := ⟨-3, msg, 0, [], 0, [], [], []⟩

def refusalText (msg : Bytes) : Bytes :=
  let n := UInt8.ofNat msg.length
  [0x0a, n + 15, 0x08, 0xfd, 0xff, 0xff, 0xff, 0xff, 0xff, 0xff, 0xff, 0xff, 0x01, 0x12, n + 2,
    0x0a, n] ++ msg

/-- The libraries on a response with the body, which is `refusalText msg` and its padding under
AES-128-CBC. -/
def refusalEnv (body msg padding : Bytes)
    (h : (refusalText msg ++ padding).length = body.length) : AuthEnv :=
  { LoginSample.intact.env with
    crypto := decrypting body (refusalText msg ++ padding) h
    manualAuthResponse := fun s => if s = refusalText msg then some (refusal msg) else none }

def refusalPacket (body : Bytes) (len : UInt8) : Bytes :=
  [0xbf, 0x7a, 0x5f, 0, 0, 0, 0, 0, 0, 0, 7] ++ List.replicate 15 1 ++
    [0xbd, 0x05, len, len] ++ body

/-- The reason `no`. -/
def noText : Bytes := ascii "<Content><![CDATA[no]]></Content>"

def noBody : Bytes :=
  [0xa9, 0xd3, 0x7f, 0xac, 0x27, 0x05, 0x55, 0x4f, 0x07, 0x9a, 0x2e, 0x15, 0xfe, 0x1c, 0xb9, 0xdb,
    0xd7, 0xac, 0x01, 0x5a, 0xb5, 0xeb, 0xd9, 0x33, 0xa7, 0xda, 0xe0, 0x52, 0x1e, 0xe2, 0xea, 0x3e,
    0x13, 0x58, 0x5d, 0x6d, 0xf5, 0x79, 0x06, 0x36, 0xa3, 0x3c, 0xae, 0xa6, 0x2e, 0x4b, 0x90, 0x4b,
    0x1f, 0xc5, 0xe8, 0x9b, 0x67, 0x7d, 0x0e, 0xa0, 0xc7, 0x26, 0x3f, 0x1a, 0xc0, 0x43, 0xbe, 0xf1]

/-- The opening marker with one bracket of the closing one. -/
def cutText : Bytes := ascii "<Content><![CDATA[]></Content>"

def cutBody : Bytes :=
  [0xc7, 0x70, 0x29, 0x19, 0xf7, 0xd2, 0x79, 0x93, 0x47, 0x59, 0xd9, 0xc4, 0x4b, 0x79, 0x14, 0xc3,
    0xc4, 0x54, 0xf2, 0x78, 0x52, 0xc3, 0x19, 0x56, 0x57, 0x65, 0x73, 0x61, 0x7d, 0x9e, 0xa6, 0xfd,
    0xed, 0xce, 0xaf, 0x27, 0x81, 0xac, 0x4b, 0xa8, 0x84, 0x8e, 0xc3, 0xe7, 0x28, 0x4a, 0xe0, 0x47]

def noEnv : AuthEnv := refusalEnv noBody noText (List.replicate 14 14) rfl
def cutEnv : AuthEnv := refusalEnv cutBody cutText [1] rfl

/-- The reason `no` is what stands between the markers. -/
theorem exactReason_no : ∃ r,
    sampleTask.buf2Resp noEnv {} {} (refusalPacket noBody 50) = some r ∧
      r.res.szMsg = ascii "no" ∧
      (ExactReason noEnv.platform (refusal noText) r.res ↔ WholeMarker (refusal noText).msg) := by
  obtain ⟨u, ho⟩ : ∃ u, sampleTask.openManualAuth noEnv {} {} (refusalPacket noBody 50) =
    some (u, .ok (refusal noText)) := openManualAuth_of_msg (by decide +kernel)
  obtain ⟨r, hr⟩ := Option.isSome_iff_exists.mp (show
    (sampleTask.buf2Resp noEnv {} {} (refusalPacket noBody 50)).isSome = true by decide +kernel)
  refine ⟨r, hr, ?_, exactReason_iff ho (by decide) hr⟩
  have hc : contentOf noText = some (ascii "no") := by decide +kernel
  have hmsg := szMsg_of_refused ho (by decide) hr
  change r.res.szMsg = match contentOf noText with
    | some reason => utf82CStringA noEnv.platform reason
    | none => cstr noText at hmsg
  rw [hmsg, hc]
  decide

/-- A reason that runs on to the end of the text, closing marker and all. -/
theorem not_exactReason : ¬ ∀ (env : AuthEnv) (t : ManualAuthCGITask) (a : AuthState)
    (m : BaseHeader) (inbuffer : Bytes) (u : HeaderResult) (resp : ManualAuthResponse)
    (r : LoginResponse), t.openManualAuth env a.session m inbuffer = some (u, .ok resp) →
    resp.code ≠ 0 → t.buf2Resp env a m inbuffer = some r → ExactReason env.platform resp r.res := by
  intro h
  obtain ⟨u, ho⟩ : ∃ u, sampleTask.openManualAuth cutEnv {} {} (refusalPacket cutBody 47) =
    some (u, .ok (refusal cutText)) := openManualAuth_of_msg (by decide +kernel)
  obtain ⟨r, hr, hmsg⟩ := Option.map_eq_some_iff.mp (show
    (sampleTask.buf2Resp cutEnv {} {} (refusalPacket cutBody 47)).map (·.res.szMsg) =
      some (ascii "]></Content>") by decide +kernel)
  have hstart : FirstAt contentStart cutText 0 0 := find_eq_some_iff.mp (by decide)
  have hend : FirstAt contentTail cutText (0 + contentStart.length) 18 :=
    find_eq_some_iff.mp (by decide)
  have hc : contentOf cutText = some (ascii "]></Content>") := by decide +kernel
  have hexact := h cutEnv sampleTask {} {} _ u (refusal cutText) r ho (by decide) hr
  have hbetween := (hexact _ ⟨hc, hmsg.trans (by decide)⟩).1
  exact absurd ((between_contentOf_iff hstart hend hc).mp hbetween).1 (by decide)

end MicroChat.ManualAuthCGITask
