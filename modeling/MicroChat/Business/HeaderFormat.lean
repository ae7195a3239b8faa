import MicroChat.Business.Header
import MicroChat.Business.VarintCode

/-!
# Business — HeaderFormat

What the functions of `Header.lean` mean for the packet format.

* `Describes`, `describes_buildHeader_iff`: a header whose length field and cookie length are
  right.
* `sessionAfter`, `sessionAfter_headersDescribe_iff`: after which responses the three request
  headers are.
* `Response`: a response as the format has it, `Response.bytes` its packet.
* `parsers_agree_iff`: which responses all three parsers read as what was written.
* `unPackHeader_total`: no packet takes a parser out of its bounds.
-/

namespace MicroChat
open Support

/-! ### Request headers -/

/-- The length field of `h` is its length, the cookie length is the one of `cookie`, and `cookie`
is what is written behind the fixed fields. -/
def Describes (h : Bytes) (marker : Bool) (cookie : Bytes) : Prop :=
  (∃ b, h[marker.toNat]? = some b ∧ (b >>> 2).toNat = h.length) ∧
  (∃ b, h[marker.toNat + 1]? = some b ∧ (b &&& 0xF).toNat = cookie.length) ∧
  (h.drop (marker.toNat + 10)).take cookie.length = cookie

section Writing
variable {p : HeaderParts}

theorem length_htonl (n : UInt32) : (htonl n).length = 4 := length_be 4 _

theorem length_buildHeader : (buildHeader p).length + p.cookieLen = p.nCur + p.cookie.length := by
  cases hm : p.marker <;>
    simp only [buildHeader, hm, HeaderParts.nCur, Bool.toNat_true, Bool.toNat_false, if_true,
      Bool.false_eq_true, if_false, List.length_append, List.length_cons, List.length_nil,
      length_htonl] <;> omega

/-- The first bytes: the optional marker, then the two bytes of flags. -/
theorem getElem?_buildHeader :
    (buildHeader p)[p.marker.toNat]? = some (p.secondByte + UInt8.ofNat (p.nCur <<< 2)) ∧
    (buildHeader p)[p.marker.toNat + 1]? = some p.thirdByte := by
  cases hm : p.marker <;> exact ⟨by simp [buildHeader, hm], by simp [buildHeader, hm]⟩

theorem cookie_buildHeader :
    ((buildHeader p).drop (p.marker.toNat + 10)).take p.cookie.length = p.cookie := by
  have hlen : ((if p.marker then ([0xbf] : Bytes) else []) ++
      [p.secondByte + UInt8.ofNat (p.nCur <<< 2), p.thirdByte] ++ htonl clientVersion ++
      htonl p.uin).length = p.marker.toNat + 10 := by
    cases p.marker <;> simp [length_htonl]
  rw [← hlen]
  have hsplit : buildHeader p = ((if p.marker then ([0xbf] : Bytes) else []) ++
      [p.secondByte + UInt8.ofNat (p.nCur <<< 2), p.thirdByte] ++ htonl clientVersion ++
      htonl p.uin) ++ (p.cookie ++ (dword2String p.cgiType ++ (dword2String p.nLenProtobuf ++
      (dword2String p.nLenCompressed ++ p.tail)))) := by
    simp only [buildHeader, List.append_assoc, List.cons_append, List.nil_append]
  rw [hsplit, List.drop_left, List.take_left]

/-- The count, shifted into the upper six bits, comes back out if it fits there. -/
theorem toNat_lengthField (hs : p.secondByte.toNat < 4) (hc : p.nCur < 64) :
    ((p.secondByte + UInt8.ofNat (p.nCur <<< 2)) >>> 2).toNat = p.nCur := by
  rw [toNat_shr_2, UInt8.toNat_add, UInt8.toNat_ofNat', Nat.shiftLeft_eq]
  omega

/-- **Which headers describe themselves**: those that count as many cookie bytes as they write,
and announce as many. -/
theorem describes_buildHeader_iff (hs : p.secondByte.toNat < 4) (hc : p.nCur < 64) :
    Describes (buildHeader p) p.marker p.cookie ↔
      p.cookie.length = p.cookieLen ∧ (p.thirdByte &&& 0xF).toNat = p.cookie.length := by
  obtain ⟨h₁, h₂⟩ := getElem?_buildHeader (p := p)
  have hlen := length_buildHeader (p := p)
  constructor
  · rintro ⟨⟨b, hb, hl⟩, ⟨c, hc', hcl⟩, -⟩
    rw [h₁] at hb
    rw [h₂] at hc'
    cases hb
    cases hc'
    rw [toNat_lengthField hs hc] at hl
    exact ⟨by omega, hcl⟩
  · rintro ⟨he, ht⟩
    exact ⟨⟨_, h₁, by rw [toNat_lengthField hs hc]; omega⟩, ⟨_, h₂, ht⟩, cookie_buildHeader⟩

/-- The three variable-length fields of a header take at most 15 bytes. -/
theorem nCur_le (p : HeaderParts) :
    p.nCur ≤ p.marker.toNat + 10 + p.cookieLen + 15 + p.tail.length := by
  have h₁ := length_dword2String_le_five p.cgiType
  have h₂ := length_dword2String_le_five p.nLenProtobuf
  have h₃ := length_dword2String_le_five p.nLenCompressed
  unfold HeaderParts.nCur
  omega

end Writing

theorem describes_makeHeader_iff {authInfo : CAuthInfo} {cgiType nLenProtobuf nLenCompressed} :
    Describes (makeHeader authInfo cgiType nLenProtobuf nLenCompressed) true authInfo.m_cookie ↔
      authInfo.m_cookie.length = 15 := by
  have hthird : (((0x5 : UInt8) <<< 4) + 0xf &&& 0xF).toNat = 15 := by decide
  refine (describes_buildHeader_iff ?_ ((nCur_le _).trans_lt (by simp))).trans ?_
  · dsimp only
    split <;> decide
  · dsimp only
    rw [hthird]
    omega

theorem describes_manualAuthMakeHeader (cgiType nLenProtobuf nLenCompressed : UInt32) :
    Describes (manualAuthMakeHeader cgiType nLenProtobuf nLenCompressed) false
      (List.replicate 15 0) := by
  refine (describes_buildHeader_iff ?_ ((nCur_le _).trans_lt (by simp))).mpr ⟨?_, ?_⟩ <;>
    dsimp only <;> decide

theorem describes_bindMakeHeader (cgiType nLenProtobuf nLenCompressed nLenRsa : UInt32) :
    Describes (bindMakeHeader cgiType nLenProtobuf nLenCompressed nLenRsa) true [] := by
  refine (describes_buildHeader_iff ?_ ((nCur_le _).trans_lt (by simp))).mpr ⟨?_, ?_⟩ <;>
    dsimp only <;> decide

/-! ### What a parser finds in a packet -/

section Reading
variable {R : HeaderReader} {s : Session} {m : BaseHeader} {pack : Bytes}

/-- The fields up to the uin of a packet of at least 32 bytes. -/
def fixedFields (R : HeaderReader) (s : Session) (m : BaseHeader) (pack : Bytes) : FixedFields :=
  let i := if pack.getD 0 0 = 0xbf then 1 else 0
  { nCur := i + 10
    nHeadLen := (pack.getD i 0 >>> 2).toNat
    nCookieLen := (pack.getD (i + 1) 0 &&& 0xF).toNat
    header := { m with
      m_bCompressed := pack.getD i 0 &&& 0x3 == 1
      m_nDecryptType := (pack.getD (i + 1) 0 >>> 4).toNat }
    session :=
      if R.savesUin then { s with s_dwUin := .ofNat (fromBe ((pack.drop (i + 6)).take 4)) }
      else s }

/-- The session once the cookie has been kept. -/
def cookieSession (R : HeaderReader) (f : FixedFields) (pack : Bytes) : Session :=
  if f.nCookieLen ≠ 0 ∧ R.savesCookie then
    let cookie := (pack.drop f.nCur).take f.nCookieLen
    { f.session with
      s_cookie := cookie
      authInfo := { f.session.authInfo with m_cookie := cookie } }
  else f.session

/-- Where the parser goes on behind the cookie. -/
def cookieEnd (R : HeaderReader) (f : FixedFields) : Nat :=
  if f.nCookieLen ≠ 0 then f.nCur + R.cookieStep f.nCookieLen else f.nCur

theorem fixedFields_nCur_le : (fixedFields R s m pack).nCur ≤ 11 := by
  change (if _ then 1 else 0) + 10 ≤ 11
  split <;> decide

theorem fixedFields_nCookieLen_le : (fixedFields R s m pack).nCookieLen ≤ 15 := by
  change (_ &&& 0xF : UInt8).toNat ≤ 15
  rw [toNat_and_15]
  omega

theorem authInfo_fixedFields : (fixedFields R s m pack).session.authInfo = s.authInfo := by
  simp only [fixedFields]
  split <;> rfl

theorem readFixed_eq (h : 0x20 ≤ pack.length) :
    readFixed R s m pack = some (fixedFields R s m pack) := by
  have get (i : Nat) (hi : i < 32) : ∃ b, pack[i]? = some b :=
    ⟨_, List.getElem?_eq_getElem (by omega)⟩
  have uin (i : Nat) (hi : i < 8) : slice pack i 4 = some ((pack.drop i).take 4) :=
    slice_of_le (by omega)
  obtain ⟨b₀, h₀⟩ := get 0 (by omega)
  obtain ⟨b₁, h₁⟩ := get 1 (by omega)
  obtain ⟨b₂, h₂⟩ := get 2 (by omega)
  by_cases hm : b₀ = 0xbf <;> by_cases hu : R.savesUin <;>
    simp [readFixed, fixedFields, List.getD_eq_getElem?_getD, h₀, h₁, h₂, uin, hm, hu]

theorem readCookie_eq {f : FixedFields} (h : f.nCur ≤ pack.length) :
    readCookie R f pack = some (cookieEnd R f, cookieSession R f pack) := by
  by_cases hc : f.nCookieLen ≠ 0
  · by_cases hs : R.savesCookie <;>
      simp [readCookie, cookieEnd, cookieSession, hc, hs, substr_of_le h]
  · simp [readCookie, cookieEnd, cookieSession, hc]

/-- **A parser, all but the lengths.** -/
theorem unPackHeaderWith_eq (h : 0x20 ≤ pack.length) :
    unPackHeaderWith R s m pack =
      let f := fixedFields R s m pack
      (readLengths pack (cookieEnd R f)).map fun l =>
        ⟨pack.drop f.nHeadLen,
          { f.header with m_nLenRespProtobuf := l.1, m_nLenRespCompressed := l.2 },
          cookieSession R f pack⟩ := by
  have hk := @fixedFields_nCookieLen_le R s m pack
  have hc := @fixedFields_nCur_le R s m pack
  have hcookie := @readCookie_eq R pack _ (hc.trans (by omega))
  rw [unPackHeaderWith, if_neg (by omega), readFixed_eq h]
  simp only [Option.bind_eq_bind, Option.bind_some, if_neg (Nat.not_lt_of_le hk), hcookie]
  cases hl : readLengths pack (cookieEnd R (fixedFields R s m pack)) with
  | none => rfl
  | some l =>
      simp only [Option.bind_some, Option.map_some]
      by_cases hh : (fixedFields R s m pack).nHeadLen < pack.length
      · rw [if_pos hh, substr_of_le (Nat.le_of_lt hh), List.take_of_length_le (by simp)]
        rfl
      · rw [if_neg hh, List.drop_of_length_le (Nat.le_of_not_lt hh)]
        rfl

/-- The session a parser leaves. -/
theorem session_unPackHeaderWith {u : HeaderResult}
    (h : unPackHeaderWith R s m pack = some u) :
    u.session =
      if 0x20 ≤ pack.length then cookieSession R (fixedFields R s m pack) pack else s := by
  by_cases hlen : 0x20 ≤ pack.length
  · rw [unPackHeaderWith_eq hlen] at h
    obtain ⟨l, -, rfl⟩ := Option.map_eq_some_iff.mp h
    rw [if_pos hlen]
  · rw [unPackHeaderWith, if_pos (by omega)] at h
    cases h
    rw [if_neg hlen]

/-- A parser leaves what only a login sets. -/
theorem login_unPackHeaderWith {u : HeaderResult} (h : unPackHeaderWith R s m pack = some u) :
    u.session.authInfo.m_Session = s.authInfo.m_Session ∧
      u.session.authInfo.m_uin = s.authInfo.m_uin := by
  rw [session_unPackHeaderWith h, cookieSession, authInfo_fixedFields]
  split
  · split
    · exact ⟨rfl, rfl⟩
    · rw [authInfo_fixedFields]
      exact ⟨rfl, rfl⟩
  · exact ⟨rfl, rfl⟩

end Reading

/-! ### Sessions -/

/-- The three classes with an `UnPackHeader` of their own. -/
inductive HeaderClass where
  | base
  | manualAuth
  | bind
  deriving DecidableEq, Repr

def HeaderClass.reader : HeaderClass → HeaderReader
  | .base => .base
  | .manualAuth => .manualAuth
  | .bind => .bind

/-- What changes a session: a response is unpacked by some task, or a login sets the rest of
`CAuthInfo`. -/
inductive SessionEvent where
  | response (c : HeaderClass) (m : BaseHeader) (pack : Bytes)
  | login (m_uin : UInt32) (m_Session : Bytes)

/-- The session after an event; `none` where the parser leaves the packet. -/
def SessionEvent.apply (s : Session) : SessionEvent → Option Session
  | .response c m pack => (unPackHeaderWith c.reader s m pack).map (·.session)
  | .login m_uin m_Session => some { s with authInfo := { s.authInfo with m_uin, m_Session } }

/-- The session after a list of events. -/
def sessionAfter (s : Session) : List SessionEvent → Option Session
  | [] => some s
  | e :: es => (e.apply s).bind fun s => sessionAfter s es

/-- How many bytes of cookie a response makes the client keep: what the low bits of the byte behind
the header length say, unless the packet is too short, they are 0, or the class keeps no cookie. -/
def SessionEvent.storedCookie : SessionEvent → Option Nat
  | .response c _ pack =>
      let third := pack.getD ((if pack.getD 0 0 = 0xbf then 1 else 0) + 1) 0
      if 0x20 ≤ pack.length ∧ c ≠ .bind ∧ third &&& 0xF ≠ 0 then some (third &&& 0xF).toNat
      else none
  | .login _ _ => none

/-- **One event**: the cookie held has the length the event stored, or stays. -/
theorem SessionEvent.apply_cookie {e : SessionEvent} {s s' : Session} (h : e.apply s = some s') :
    s'.authInfo.m_cookie.length = e.storedCookie.getD s.authInfo.m_cookie.length := by
  cases e with
  | login m_uin m_Session =>
      cases h
      rfl
  | response c m pack =>
      obtain ⟨u, hu, rfl⟩ := Option.map_eq_some_iff.mp h
      by_cases hlen : 0x20 ≤ pack.length
      · have hk := @fixedFields_nCookieLen_le c.reader s m pack
        have hc := @fixedFields_nCur_le c.reader s m pack
        rw [unPackHeaderWith_eq hlen] at hu
        obtain ⟨l, -, rfl⟩ := Option.map_eq_some_iff.mp hu
        have hsession : (fixedFields c.reader s m pack).session.authInfo = s.authInfo :=
          authInfo_fixedFields
        have hsaves : c.reader.savesCookie = true ↔ c ≠ .bind := by cases c <;> decide
        have hzero : (fixedFields c.reader s m pack).nCookieLen ≠ 0 ↔
            pack.getD ((if pack.getD 0 0 = 0xbf then 1 else 0) + 1) 0 &&& 0xF ≠ 0 := by
          rw [Ne, Ne, ← UInt8.toNat_inj]
          rfl
        by_cases hcond : (fixedFields c.reader s m pack).nCookieLen ≠ 0 ∧ c.reader.savesCookie
        · have hst : SessionEvent.storedCookie (.response c m pack) =
              some (fixedFields c.reader s m pack).nCookieLen :=
            if_pos ⟨hlen, hsaves.mp hcond.2, hzero.mp hcond.1⟩
          rw [hst, Option.getD_some, cookieSession, if_pos hcond]
          dsimp only
          rw [List.length_take, List.length_drop]
          omega
        · have hst : SessionEvent.storedCookie (.response c m pack) = none :=
            if_neg fun h => hcond ⟨hzero.mpr h.2.2, hsaves.mpr h.2.1⟩
          rw [hst, Option.getD_none, cookieSession, if_neg hcond, authInfo_fixedFields]
      · rw [unPackHeaderWith, if_pos (by omega)] at hu
        cases hu
        have hst : SessionEvent.storedCookie (.response c m pack) = none :=
          if_neg fun h => hlen h.1
        rw [hst, Option.getD_none]

/-- **A run of events**: the cookie held has the length stored last. -/
theorem sessionAfter_cookie {es : List SessionEvent} {s s' : Session}
    (h : sessionAfter s es = some s') : s'.authInfo.m_cookie.length =
      (es.filterMap SessionEvent.storedCookie).getLast?.getD s.authInfo.m_cookie.length := by
  induction es generalizing s with
  | nil =>
      cases h
      rfl
  | cons e es ih =>
      obtain ⟨s₁, h₁, h₂⟩ := Option.bind_eq_some_iff.mp h
      rw [ih h₂, SessionEvent.apply_cookie h₁]
      cases he : e.storedCookie with
      | none => rw [List.filterMap_cons_none he, Option.getD_none]
      | some k =>
          rw [List.filterMap_cons_some he, Option.getD_some, List.getLast?_cons]
          cases (es.filterMap SessionEvent.storedCookie).getLast? <;> rfl

/-- All three request headers of a session describe themselves, whatever they are for. -/
def HeadersDescribe (s : Session) : Prop :=
  ∀ cgiType nLenProtobuf nLenCompressed nLenRsa : UInt32,
    Describes (makeHeader s.authInfo cgiType nLenProtobuf nLenCompressed) true
      s.authInfo.m_cookie ∧
    Describes (manualAuthMakeHeader cgiType nLenProtobuf nLenCompressed) false
      (List.replicate 15 0) ∧
    Describes (bindMakeHeader cgiType nLenProtobuf nLenCompressed nLenRsa) true []

theorem headersDescribe_iff {s : Session} :
    HeadersDescribe s ↔ s.authInfo.m_cookie.length = 15 :=
  ⟨fun h => describes_makeHeader_iff.mp (h 0 0 0 0).1, fun h _ _ _ _ =>
    ⟨describes_makeHeader_iff.mpr h, describes_manualAuthMakeHeader _ _ _,
      describes_bindMakeHeader _ _ _ _⟩⟩

/-- **When request headers describe themselves.**  In the session reached by any events, they do
exactly when the last cookie stored has 15 bytes. -/
theorem sessionAfter_headersDescribe_iff {es : List SessionEvent} {s : Session}
    (h : sessionAfter {} es = some s) :
    HeadersDescribe s ↔ (es.filterMap SessionEvent.storedCookie).getLast? = some 15 := by
  rw [headersDescribe_iff, sessionAfter_cookie h]
  change Option.getD _ 0 = 15 ↔ _
  cases (es.filterMap SessionEvent.storedCookie).getLast? with
  | none => exact ⟨fun h => absurd h (by decide), fun h => by cases h⟩
  | some k => rw [Option.getD_some, Option.some_inj]

/-- A session in which the last response brought 15 bytes of cookie. -/
theorem headersDescribe_after_response : HeadersDescribe
    { s_cookie := [1, 2, 3, 4, 5, 6, 7, 8, 9, 10, 11, 12, 13, 14, 15]
      authInfo := { m_cookie := [1, 2, 3, 4, 5, 6, 7, 8, 9, 10, 11, 12, 13, 14, 15] } } :=
  (@sessionAfter_headersDescribe_iff [.response .base {} [0xbf, 0x76, 0x5f, 0, 0, 0, 0,
    0, 0, 0, 0, 1, 2, 3, 4, 5, 6, 7, 8, 9, 10, 11, 12, 13, 14, 15, 10, 3, 3, 1, 2, 3]]
    _ (by decide)).mpr (by decide)

/-- Before the first response there is no cookie, and the header announces 15 bytes of it. -/
theorem not_headersDescribe_initial : ¬ ∀ (es : List SessionEvent) (s : Session),
    sessionAfter {} es = some s → HeadersDescribe s := fun h =>
  absurd (headersDescribe_iff.mp (h [] {} rfl)) (by decide)

/-! ### Responses of the format -/

/-- The fields of a response packet. -/
structure ResponseFields where
  marker : Bool
  flag : Fin 4
  cipher : Fin 16
  version : UInt32
  uin : UInt32
  cookie : Bytes
  cgi : Nat
  raw : Nat
  compressed : Nat
  padding : Bytes
  body : Bytes

namespace ResponseFields

/-- The three lengths and numbers behind the cookie. -/
def numbers (r : ResponseFields) : Bytes :=
  Varint.encode r.cgi ++ (Varint.encode r.raw ++ Varint.encode r.compressed)

/-- The header length. -/
def headLen (r : ResponseFields) : Nat :=
  r.marker.toNat + 10 + r.cookie.length + r.numbers.length + r.padding.length

/-- `header length << 2 | flag`. -/
def second (r : ResponseFields) : UInt8 := UInt8.ofNat (r.headLen * 4 + r.flag)

/-- `cipher << 4 | cookie length`. -/
def third (r : ResponseFields) : UInt8 := UInt8.ofNat (r.cipher * 16 + r.cookie.length)

def bytes (r : ResponseFields) : Bytes :=
  (if r.marker then [0xbf] else []) ++ r.second :: r.third :: (htonl r.version ++ (htonl r.uin ++
    (r.cookie ++ (r.numbers ++ (r.padding ++ r.body)))))

end ResponseFields

/-- A well-formed response: every field fits in its place, the body is not empty, and a packet
without the marker does not start with the marker's byte. -/
structure Response extends ResponseFields where
  cookie_le : cookie.length ≤ 15
  cgi_lt : cgi < 2 ^ 31
  raw_lt : raw < 2 ^ 31
  compressed_lt : compressed < 2 ^ 31
  headLen_lt : toResponseFields.headLen < 64
  body_ne : body ≠ []
  long : 0x20 ≤ toResponseFields.bytes.length
  unmarked : marker = false → toResponseFields.second ≠ 0xbf

/-- What a parser is to make of the response. -/
def Response.header (r : Response) : BaseHeader where
  m_nLenRespCompressed := .ofNat r.compressed
  m_nLenRespProtobuf := .ofNat r.raw
  m_nDecryptType := r.cipher
  m_bCompressed := r.flag == 1

/-- The parser returns the body and sets the four members to what the header says. -/
def ReadsAs (R : HeaderReader) (r : Response) : Prop :=
  ∀ (s : Session) (m : BaseHeader), ∃ s',
    unPackHeaderWith R s m r.bytes = some ⟨r.body, r.header, s'⟩

/-- The two lengths as they stand from a cursor on, behind another number. -/
def lengthsFrom (pack : Bytes) (nCur : Nat) : Nat × Nat :=
  let s := (Varint.read 5 (pack.drop nCur)).2
  ((Varint.read 5 s).1, (Varint.read 5 (Varint.read 5 s).2).1)

/-- With 6 bytes left the three numbers are read, the last one perhaps out of no bytes. -/
theorem readLengths_eq {pack : Bytes} {nCur : Nat} (h : nCur + 6 ≤ pack.length) :
    readLengths pack nCur =
      some (UInt32.ofNat (lengthsFrom pack nCur).1, UInt32.ofNat (lengthsFrom pack nCur).2) := by
  have h₁ := Varint.span_le_cap 5 (pack.drop nCur)
  have hd₁ : pack.drop (nCur + Varint.span 5 (pack.drop nCur)) =
      (Varint.read 5 (pack.drop nCur)).2 := by rw [Varint.read, List.drop_drop]
  have h₂ := Varint.span_le_length 5 (Varint.read 5 (pack.drop nCur)).2
  rw [← hd₁, List.length_drop] at h₂
  have hd₂ : pack.drop (nCur + Varint.span 5 (pack.drop nCur) +
      Varint.span 5 (Varint.read 5 (pack.drop nCur)).2) =
      (Varint.read 5 (Varint.read 5 (pack.drop nCur)).2).2 := by
    conv_rhs => rw [Varint.read]
    rw [← List.drop_drop, hd₁]
  rw [readLengths, readDword_read (by omega)]
  simp only [Option.bind_eq_bind, Option.bind_some]
  rw [readDword_read (by omega), hd₁]
  simp only [Option.bind_some]
  rw [hd₁] at h₂
  rcases Nat.lt_or_ge (nCur + Varint.span 5 (pack.drop nCur) +
      Varint.span 5 (Varint.read 5 (pack.drop nCur)).2) pack.length with hlt | hge
  · rw [readDword_read hlt, hd₂]
    rfl
  · have hnil : (Varint.read 5 (Varint.read 5 (pack.drop nCur)).2).2 = [] := by
      rw [← hd₂]
      exact List.drop_of_length_le hge
    rw [readDword_eq (by omega), hd₂, hnil, List.take_nil, string2Dword_nil]
    simp only [Option.bind_some]
    rw [lengthsFrom, hnil, Varint.read_nil]
    rfl

section Format
variable (r : Response)

theorem Response.drop_cookie :
    r.bytes.drop (r.marker.toNat + 10) = r.cookie ++ (r.numbers ++ (r.padding ++ r.body)) := by
  have hlen : ((if r.marker then ([0xbf] : Bytes) else []) ++ [r.second, r.third] ++
      htonl r.version ++ htonl r.uin).length = r.marker.toNat + 10 := by
    cases r.marker <;> simp [length_htonl]
  have hsplit : r.bytes = ((if r.marker then ([0xbf] : Bytes) else []) ++ [r.second, r.third] ++
      htonl r.version ++ htonl r.uin) ++ (r.cookie ++ (r.numbers ++ (r.padding ++ r.body))) := by
    simp only [ResponseFields.bytes, List.append_assoc, List.cons_append, List.nil_append]
  rw [hsplit, ← hlen, List.drop_left]

theorem Response.drop_numbers :
    r.bytes.drop (r.marker.toNat + 10 + r.cookie.length) = r.numbers ++ (r.padding ++ r.body) := by
  rw [← List.drop_drop, r.drop_cookie, List.drop_left]

theorem Response.drop_body : r.bytes.drop r.headLen = r.body := by
  rw [ResponseFields.headLen, ← List.drop_drop, ← List.drop_drop, r.drop_numbers, List.drop_left,
    List.drop_left]

/-- The fixed fields are read as they were written. -/
theorem Response.fixed (R : HeaderReader) (s : Session) (m : BaseHeader) :
    let f := fixedFields R s m r.bytes
    f.nCur = r.marker.toNat + 10 ∧ f.nHeadLen = r.headLen ∧ f.nCookieLen = r.cookie.length ∧
      f.header = { m with m_bCompressed := r.flag == 1, m_nDecryptType := r.cipher } := by
  have hi : (if r.bytes.getD 0 0 = 0xbf then 1 else 0) = r.marker.toNat := by
    cases hm : r.marker
    · have : r.bytes.getD 0 0 = r.second := by simp [ResponseFields.bytes, hm]
      rw [this, if_neg (r.unmarked hm)]
      rfl
    · have : r.bytes.getD 0 0 = 0xbf := by simp [ResponseFields.bytes, hm]
      rw [if_pos this]
      rfl
  have h₁ : r.bytes.getD r.marker.toNat 0 = r.second := by
    cases hm : r.marker <;> simp [ResponseFields.bytes, hm]
  have h₂ : r.bytes.getD (r.marker.toNat + 1) 0 = r.third := by
    cases hm : r.marker <;> simp [ResponseFields.bytes, hm]
  have hhead := r.headLen_lt
  have hcookie := r.cookie_le
  have hflag := r.flag.isLt
  have hcipher := r.cipher.isLt
  have hsecond : r.second.toNat = r.headLen * 4 + r.flag := toNat_ofNat_byte (by omega)
  have hthird : r.third.toNat = r.cipher * 16 + r.cookie.length := toNat_ofNat_byte (by omega)
  simp only [fixedFields, hi, h₁, h₂]
  refine ⟨trivial, ?_, ?_, ?_⟩
  · rw [toNat_shr_2, hsecond]
    omega
  · rw [toNat_and_15, hthird]
    omega
  · have hc : (r.second &&& 0x3 == 1) = (r.flag == 1) := by
      rw [Bool.eq_iff_iff, beq_iff_eq, beq_iff_eq, ← UInt8.toNat_inj, toNat_and_3, hsecond,
        Fin.ext_iff]
      change _ = 1 ↔ r.flag.val = 1
      omega
    have hd : (r.third >>> 4).toNat = r.cipher := by
      rw [toNat_shr_4, hthird]
      omega
    rw [hc, hd]

/-- From the right place the lengths are read as they were written. -/
theorem Response.lengthsFrom_numbers :
    lengthsFrom r.bytes (r.marker.toNat + 10 + r.cookie.length) = (r.raw, r.compressed) := by
  have five {n : Nat} (h : n < 2 ^ 31) : (Varint.encode n).length ≤ 5 :=
    Varint.length_encode_le_iff.mpr (by omega)
  rw [lengthsFrom, r.drop_numbers, ResponseFields.numbers, List.append_assoc, List.append_assoc,
    Varint.read_encode_append _ _ (five r.cgi_lt), Varint.read_encode_append _ _ (five r.raw_lt),
    Varint.read_encode_append _ _ (five r.compressed_lt)]

/-- **One parser on a response.**  It reads the response as what was written exactly when the
lengths it goes on to read are the written ones. -/
theorem readsAs_iff {R : HeaderReader} (h : R.cookieStep r.cookie.length ≤ 15) :
    ReadsAs R r ↔
      let nCur := r.marker.toNat + 10 +
        (if r.cookie = [] then 0 else R.cookieStep r.cookie.length)
      (lengthsFrom r.bytes nCur).1 % 2 ^ 32 = r.raw ∧
        (lengthsFrom r.bytes nCur).2 % 2 ^ 32 = r.compressed := by
  have hlong := r.long
  have hm := r.marker.toNat_le
  have hend (s : Session) (m : BaseHeader) : cookieEnd R (fixedFields R s m r.bytes) =
      r.marker.toNat + 10 + (if r.cookie = [] then 0 else R.cookieStep r.cookie.length) := by
    obtain ⟨h₁, -, h₃, -⟩ := r.fixed R s m
    rw [cookieEnd, h₁, h₃]
    by_cases hc : r.cookie = []
    · rw [if_neg (by simp [hc]), if_pos hc]
    · rw [if_pos (by simpa using hc), if_neg hc]
  have hle : (if r.cookie = [] then 0 else R.cookieStep r.cookie.length) ≤ 15 := by
    split <;> omega
  have hraw := r.raw_lt
  have hcomp := r.compressed_lt
  have ofNat_eq {a b : Nat} (hb : b < 2 ^ 31) :
      UInt32.ofNat a = UInt32.ofNat b ↔ a % 2 ^ 32 = b := by
    rw [← UInt32.toNat_inj, UInt32.toNat_ofNat', UInt32.toNat_ofNat']
    omega
  have hresult (s : Session) (m : BaseHeader) : unPackHeaderWith R s m r.bytes = some
      ⟨r.body, { r.header with
        m_nLenRespProtobuf := .ofNat (lengthsFrom r.bytes (r.marker.toNat + 10 +
          (if r.cookie = [] then 0 else R.cookieStep r.cookie.length))).1
        m_nLenRespCompressed := .ofNat (lengthsFrom r.bytes (r.marker.toNat + 10 +
          (if r.cookie = [] then 0 else R.cookieStep r.cookie.length))).2 },
        cookieSession R (fixedFields R s m r.bytes) r.bytes⟩ := by
    obtain ⟨-, h₂, -, h₄⟩ := r.fixed R s m
    rw [unPackHeaderWith_eq hlong]
    dsimp only
    rw [hend, readLengths_eq (by omega), h₂, h₄, r.drop_body]
    rfl
  dsimp only
  rw [← ofNat_eq hraw, ← ofNat_eq hcomp]
  constructor
  · intro h
    obtain ⟨s', hs⟩ := h {} {}
    rw [hresult, Option.some_inj, HeaderResult.mk.injEq] at hs
    have := hs.2.1
    simp only [Response.header, BaseHeader.mk.injEq] at this
    exact ⟨this.2.1, this.1⟩
  · rintro ⟨h₁, h₂⟩ s m
    refine ⟨cookieSession R (fixedFields R s m r.bytes) r.bytes, ?_⟩
    rw [hresult, h₁, h₂]
    rfl

/-- A parser that steps over the cookie's own length reads every response. -/
theorem readsAs_of_step {R : HeaderReader} (h : ∀ n, R.cookieStep n = n) : ReadsAs R r := by
  have hn := r.lengthsFrom_numbers
  have hraw := r.raw_lt
  have hcomp := r.compressed_lt
  rw [readsAs_iff r (by rw [h]; exact r.cookie_le)]
  have hif : (if r.cookie = [] then 0 else R.cookieStep r.cookie.length) = r.cookie.length := by
    rw [h]
    split
    · rename_i hc
      rw [hc]
      rfl
    · rfl
  rw [hif]
  dsimp only
  rw [hn]
  dsimp only
  omega

/-- The lengths as they stand 15 bytes behind the start of the cookie are the written ones. -/
def Response.LengthsBehind15 (r : Response) : Prop :=
  (lengthsFrom r.bytes (r.marker.toNat + 10 + 15)).1 % 2 ^ 32 = r.raw ∧
    (lengthsFrom r.bytes (r.marker.toNat + 10 + 15)).2 % 2 ^ 32 = r.compressed

/-- So they do if the cookie has 15 bytes. -/
theorem Response.lengthsBehind15 (h : r.cookie.length = 15) : r.LengthsBehind15 := by
  have hn := r.lengthsFrom_numbers
  have hraw := r.raw_lt
  have hcomp := r.compressed_lt
  rw [h] at hn
  rw [Response.LengthsBehind15, hn]
  dsimp only
  omega

/-- **Which responses the three parsers agree on.**  All of them read a response as what was
written exactly when it has no cookie, or 15 bytes behind the start of the cookie there stand the
same lengths as behind its end. -/
theorem parsers_agree_iff :
    ReadsAs .base r ∧ ReadsAs .manualAuth r ∧ ReadsAs .bind r ↔
      r.cookie = [] ∨ r.LengthsBehind15 := by
  have hm : ReadsAs .manualAuth r := readsAs_of_step r fun _ => rfl
  have hb : ReadsAs .bind r := readsAs_of_step r fun _ => rfl
  by_cases hc : r.cookie = []
  · have hn := r.lengthsFrom_numbers
    have hraw := r.raw_lt
    have hcomp := r.compressed_lt
    refine ⟨fun _ => .inl hc, fun _ => ⟨(readsAs_iff r (Nat.le_refl 15)).mpr ?_, hm, hb⟩⟩
    rw [hc, List.length_nil] at hn
    rw [if_pos hc]
    dsimp only
    rw [hn]
    dsimp only
    omega
  · have hbase : ReadsAs .base r ↔ r.LengthsBehind15 := by
      rw [readsAs_iff r (Nat.le_refl 15), if_neg hc]
      rfl
    rw [hbase]
    exact ⟨fun h => .inr h.1, fun h => ⟨h.resolve_left hc, hm, hb⟩⟩

end Format

/-- A response with one byte of cookie, the lengths 3 and 3, and a body of 20 bytes. -/
def oneByteCookie : Response where
  marker := true
  flag := 2
  cipher := 5
  version := 0
  uin := 0
  cookie := [7]
  cgi := 138
  raw := 3
  compressed := 3
  padding := []
  body := List.replicate 20 1
  cookie_le := by decide
  cgi_lt := by decide
  raw_lt := by decide
  compressed_lt := by decide
  headLen_lt := by decide
  body_ne := by decide
  long := by decide
  unmarked := by decide

/-- `BaseHeader::UnPackHeader` takes its lengths out of the body. -/
theorem not_readsAs_oneByteCookie :
    ¬ ∀ r : Response, ReadsAs .base r ∧ ReadsAs .manualAuth r ∧ ReadsAs .bind r := fun h =>
  absurd ((readsAs_iff oneByteCookie (by decide)).mp (h oneByteCookie).1) (by decide)

/-! ### Hostile packets -/

section Hostile
variable {R : HeaderReader} {s : Session} {m : BaseHeader} {pack : Bytes}

/-- The marker, ten bytes of fixed fields and at most 15 of cookie lie before the lengths. -/
theorem cookieEnd_fixedFields_le (hR : ∀ n ≤ 15, R.cookieStep n ≤ 15) :
    cookieEnd R (fixedFields R s m pack) ≤ 26 := by
  have hcur := @fixedFields_nCur_le R s m pack
  have hstep := hR _ (@fixedFields_nCookieLen_le R s m pack)
  rw [cookieEnd]
  split <;> omega

/-- **A parser never leaves a packet.**  The 32 bytes asked for at the start leave 6 behind the
cookie: the first number takes at most 5 of them, the second one what is left at most, and the
third may be read out of no byte at all. -/
theorem exists_unPackHeaderWith (hR : ∀ n ≤ 15, R.cookieStep n ≤ 15) :
    ∃ u, unPackHeaderWith R s m pack = some u := by
  rcases Nat.lt_or_ge pack.length 0x20 with hlen | hlen
  · -- too short a packet is not read
    exact ⟨_, by rw [unPackHeaderWith, if_pos hlen]⟩
  · have hend := @cookieEnd_fixedFields_le R s m pack hR
    rw [unPackHeaderWith_eq hlen]
    dsimp only
    rw [readLengths_eq (by omega), Option.map_some]
    exact ⟨_, rfl⟩

end Hostile

/-- The three parsers stay inside of any packet. -/
theorem unPackHeader_total (s : Session) (m : BaseHeader) (pack : Bytes) :
    (∃ u, unPackHeader s m pack = some u) ∧ (∃ u, manualAuthUnPackHeader s m pack = some u) ∧
      ∃ u, bindUnPackHeader s m pack = some u := by
  refine ⟨?_, ?_, ?_⟩
  · exact exists_unPackHeaderWith fun _ _ => Nat.le_refl 15
  · exact exists_unPackHeaderWith fun _ hn => hn
  · exact exists_unPackHeaderWith fun _ hn => hn

end MicroChat
