import MicroChat.Business.Fun

/-!
# Business — Header

The packet headers: `BaseHeader` (`MakeHeader.cpp`) and the copies of its two functions in
`ManualAuthCGITask.cpp` and `bindCGITask.cpp`.

* `Session`: what the functions share, the `CAuthInfo` instance and the statics of `BaseHeader`.
* `buildHeader`, `unPackHeaderWith`: the two functions up to where the copies differ.
* `makeHeader`, `manualAuthMakeHeader`, `bindMakeHeader` and `HeaderReader.base`, `.manualAuth`,
  `.bind`: the copies.

A parser is in `Option`: `none` where it would index, copy or call `substr` outside of the packet.
-/

namespace MicroChat
open Support

/-- `CLIENT_VERSION`, which `BaseHeader::s_dwVersion` holds. -/
def clientVersion : UInt32 := 637927472

/-- `LOGIN_RSA_VER`. -/
def loginRsaVer : UInt8 := 158

/-- The members of `CAuthInfo` that packets carry or are encrypted with. -/
structure CAuthInfo where
  m_uin : UInt32 := 0
  m_Session : Bytes := []
  m_cookie : Bytes := []
  deriving DecidableEq, Repr

/-- The `CAuthInfo` instance and the static members of `BaseHeader`. -/
structure Session where
  authInfo : CAuthInfo := {}
  s_dwUin : UInt32 := 0
  s_cookie : Bytes := []
  deriving DecidableEq, Repr

/-! ### Writing -/

/-- The bytes `htonl` and a copy of the number make. -/
def htonl (n : UInt32) : Bytes := be 4 n.toNat

/-- What a `MakeHeader` writes where the copies differ.  `cookieLen` is what it adds to `nCur` for
the cookie. -/
structure HeaderParts where
  marker : Bool
  secondByte : UInt8
  thirdByte : UInt8
  uin : UInt32
  cookie : Bytes
  cookieLen : Nat
  cgiType : UInt32
  nLenProtobuf : UInt32
  nLenCompressed : UInt32
  tail : Bytes

/-- The count of a `MakeHeader`. -/
def HeaderParts.nCur (p : HeaderParts) : Nat :=
  p.marker.toNat + 1 + 1 + 4 + 4 + p.cookieLen + (dword2String p.cgiType).length +
    (dword2String p.nLenProtobuf).length + (dword2String p.nLenCompressed).length + p.tail.length

/-- A `MakeHeader`: the count goes into the upper six bits of the second byte. -/
def buildHeader (p : HeaderParts) : Bytes :=
  (if p.marker then ([0xbf] : Bytes) else []) ++
    (p.secondByte + UInt8.ofNat (p.nCur <<< 2)) :: p.thirdByte ::
      (htonl clientVersion ++ htonl p.uin ++ p.cookie ++ dword2String p.cgiType ++
        dword2String p.nLenProtobuf ++ dword2String p.nLenCompressed ++ p.tail)

/-- `string BaseHeader::MakeHeader(string cookie, int cgiType, int nLenProtobuf, int
nLenCompressed)`; the parameter `cookie` is not used. -/
def makeHeader (authInfo : CAuthInfo) (cgiType nLenProtobuf nLenCompressed : UInt32) : Bytes :=
  buildHeader
    { marker := true
      secondByte := if nLenProtobuf = nLenCompressed then 0x2 else 0x1
      thirdByte := ((0x5 : UInt8) <<< 4) + 0xf
      uin := authInfo.m_uin
      cookie := authInfo.m_cookie
      cookieLen := 0xf
      cgiType, nLenProtobuf, nLenCompressed
      tail := List.replicate 15 0 }

/-- `string ManualAuthCGITask::MakeHeader(int cgiType, int nLenProtobuf, int nLenCompressed)`. -/
def manualAuthMakeHeader (cgiType nLenProtobuf nLenCompressed : UInt32) : Bytes :=
  buildHeader
    { marker := false
      secondByte := 0x2
      thirdByte := ((0x7 : UInt8) <<< 4) + 0xf
      uin := 0
      cookie := List.replicate 15 0
      cookieLen := 15
      cgiType, nLenProtobuf, nLenCompressed
      tail := [loginRsaVer, 0x01, 0x02] }

/-- `string BindCGITask::MakeHeader(int cgiType, int nLenProtobuf, int nLenCompressed, int
nLenRsa)`; the `short` of the length lies in memory low byte first. -/
def bindMakeHeader (cgiType nLenProtobuf nLenCompressed nLenRsa : UInt32) : Bytes :=
  buildHeader
    { marker := true
      secondByte := 0x1
      thirdByte := ((0x1 : UInt8) <<< 4) + 0x0
      uin := 0
      cookie := []
      cookieLen := 0
      cgiType, nLenProtobuf, nLenCompressed
      tail := [loginRsaVer, 0x01, 0x02, nLenRsa.toUInt8, (nLenRsa >>> 8).toUInt8] ++
        List.replicate 5 0 }

/-! ### Reading -/

/-- The members of `BaseHeader` an `UnPackHeader` sets. -/
structure BaseHeader where
  m_nLenRespCompressed : UInt32 := 0
  m_nLenRespProtobuf : UInt32 := 0
  m_nDecryptType : Nat := 5
  m_bCompressed : Bool := false
  deriving DecidableEq, Repr

/-- Where the copies of `UnPackHeader` differ. -/
structure HeaderReader where
  savesUin : Bool
  savesCookie : Bool
  /-- what is added to `nCur` for a cookie of `nCookieLen` bytes -/
  cookieStep : Nat → Nat

def HeaderReader.base : HeaderReader := ⟨false, true, fun _ => 0xf⟩
def HeaderReader.manualAuth : HeaderReader := ⟨true, true, id⟩
def HeaderReader.bind : HeaderReader := ⟨false, false, id⟩

/-- Behind the fixed fields: the cursor, the two lengths read, and the state. -/
structure FixedFields where
  nCur : Nat
  nHeadLen : Nat
  nCookieLen : Nat
  header : BaseHeader
  session : Session

/-- The marker, the second and the third byte, version and uin. -/
def readFixed (R : HeaderReader) (s : Session) (m : BaseHeader) (pack : Bytes) :
    Option FixedFields := do
  let first ← pack[0]?
  let nCur := if first = 0xbf then 1 else 0
  let second ← pack[nCur]?
  let nHeadLen := (second >>> 2).toNat
  let m := { m with m_bCompressed := second &&& 0x3 == 1 }
  let nCur := nCur + 1
  let third ← pack[nCur]?
  let m := { m with m_nDecryptType := (third >>> 4).toNat }
  let nCookieLen := (third &&& 0xF).toNat
  let nCur := nCur + 1
  let nCur := nCur + 4
  let s ←
    if R.savesUin then
      (slice pack nCur 4).map fun dwUin => { s with s_dwUin := .ofNat (fromBe dwUin) }
    else some s
  return ⟨nCur + 4, nHeadLen, nCookieLen, m, s⟩

/-- The cookie: the cursor and the state behind it. -/
def readCookie (R : HeaderReader) (f : FixedFields) (pack : Bytes) : Option (Nat × Session) :=
  if f.nCookieLen ≠ 0 then
    if R.savesCookie then
      (substr pack f.nCur f.nCookieLen).map fun cookie =>
        (f.nCur + R.cookieStep f.nCookieLen,
          { f.session with
            s_cookie := cookie
            authInfo := { f.session.authInfo with m_cookie := cookie } })
    else some (f.nCur + R.cookieStep f.nCookieLen, f.session)
  else some (f.nCur, f.session)

/-- The cgi type and the two lengths, of which the lengths are kept. -/
def readLengths (pack : Bytes) (nCur : Nat) : Option (UInt32 × UInt32) := do
  let (_, nCur, dwLen) ← readDword pack nCur 0
  let (nLenRespProtobuf, nCur, dwLen) ← readDword pack nCur dwLen
  let (nLenRespCompressed, _, _) ← readDword pack nCur dwLen
  return (nLenRespProtobuf, nLenRespCompressed)

/-- What an `UnPackHeader` returns and leaves behind. -/
structure HeaderResult where
  body : Bytes
  header : BaseHeader
  session : Session
  deriving DecidableEq, Repr

/-- An `UnPackHeader`. -/
def unPackHeaderWith (R : HeaderReader) (s : Session) (m : BaseHeader) (pack : Bytes) :
    Option HeaderResult :=
  if pack.length < 0x20 then some ⟨[], m, s⟩
  else do
    let f ← readFixed R s m pack
    if f.nCookieLen > 0xf then return ⟨[], f.header, f.session⟩
    let (nCur, s) ← readCookie R f pack
    let (nLenRespProtobuf, nLenRespCompressed) ← readLengths pack nCur
    let body ← if f.nHeadLen < pack.length then substr pack f.nHeadLen pack.length else some []
    return ⟨body, { f.header with
      m_nLenRespProtobuf := nLenRespProtobuf
      m_nLenRespCompressed := nLenRespCompressed }, s⟩

/-- `string BaseHeader::UnPackHeader(string pack)`. -/
def unPackHeader := unPackHeaderWith .base

/-- `string ManualAuthCGITask::UnPackHeader(string pack)`. -/
def manualAuthUnPackHeader := unPackHeaderWith .manualAuth

/-- `string BindCGITask::UnPackHeader(string pack)`. -/
def bindUnPackHeader := unPackHeaderWith .bind

end MicroChat
