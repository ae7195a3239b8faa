import MicroChat.Business.Fun

/-!
# Business — Crypto

`MicroChatSDK/Business/crypto/mmCryptInterface.cpp`: the client's use of OpenSSL and zlib.

* `Crypto`, `RsaKey`: what the two libraries compute, with the lengths of their results.
* `compressAes`, `nocompressAes`, `aesUncompress`, `aesNouncompress`: bodies under a session key.
* `compressRsa`, `nocompressRsa`: login data under the server's RSA key, block by block.
* `getMd5`, `getMd5_32`: the digest and its hex text.
* `genEcdh`, `doEcdh`: the client's key pair, and the key it agrees on with the server.

A result is in `Option` where the code can write outside of a buffer or resize a string to a
wrapped-around length; `none` is that.
-/

namespace MicroChat
open Support

/-- An RSA key that `BN_hex2bn` has read; `encrypt i` is `RSA_public_encrypt` with the padding of
the `i`th call. -/
structure RsaKey where
  size : Nat
  encrypt : Nat → Bytes → Option Bytes
  size_gt : 12 < size
  length_encrypt : ∀ {i s c}, encrypt i s = some c → c.length = size

/-- OpenSSL and zlib. -/
structure Crypto where
  /-- `compress`, `none` for an error code -/
  compress : Bytes → Option Bytes
  /-- `uncompress` into a buffer of the given length -/
  uncompress : Bytes → Nat → Option Bytes
  /-- `AES_cbc_encrypt(…, AES_ENCRYPT)` of data under a key and an initial vector -/
  cbcEncrypt : Bytes → Bytes → Bytes → Bytes
  /-- `AES_cbc_encrypt(…, AES_DECRYPT)` -/
  cbcDecrypt : Bytes → Bytes → Bytes → Bytes
  md5 : Bytes → Bytes
  /-- the key of two hex texts, `none` where `BN_hex2bn` reads nothing -/
  rsa : Bytes → Bytes → Option RsaKey
  length_cbcEncrypt : ∀ key iv s, (cbcEncrypt key iv s).length = (s.length + 15) / 16 * 16
  length_cbcDecrypt : ∀ key iv s, (cbcDecrypt key iv s).length = s.length
  length_md5 : ∀ s, (md5 s).length = 16

/-- zlib's `compressBound`. -/
def compressBound (n : Nat) : Nat := n + n / 4096 + n / 16384 + n / 33554432 + 13

section
variable (C : Crypto)

/-! ### AES -/

/-- The key lengths `AES_set_encrypt_key` and `AES_set_decrypt_key` accept. -/
def aesKeyOk (key : Bytes) : Bool := key.length = 16 || key.length = 24 || key.length = 32

/-- `string nocompress_aes(string key, string in)`; the key is the initial vector as well. -/
def nocompressAes (key strIn : Bytes) : Bytes :=
  if aesKeyOk key then
    let uiPaddingLen := key.length - strIn.length % key.length
    let pData := strIn ++ List.replicate uiPaddingLen (UInt8.ofNat uiPaddingLen)
    (C.cbcEncrypt key key pData).take pData.length
  else []

/-- `string compress_aes(string key, string in, DWORD &dwLenCompressed)`: the result, and
`dwLenCompressed` afterwards. -/
def compressAes (key strIn : Bytes) : Bytes × Nat :=
  match C.compress strIn with
  | none => ([], compressBound strIn.length)
  | some strCompressed => (nocompressAes C key strCompressed, strCompressed.length)

/-- A `char` as an `unsigned int`: sign-extended. -/
def charToUInt (c : UInt8) : Nat := if c.toNat < 128 then c.toNat else c.toNat + (2 ^ 32 - 256)

/-- What the two decryptors begin with: the decrypted text without its padding, `some none` where
they return the empty string, and `none` where `resize` gets a wrapped-around length. -/
def aesUnpad (key strIn : Bytes) : Option (Option Bytes) :=
  if strIn.length = 0 then some none
  else if !aesKeyOk key then some none
  else
    let strCompressed := C.cbcDecrypt key key strIn
    let uiPaddingLen := charToUInt (strCompressed.getLastD 0)
    if uiPaddingLen > key.length then some none
    else if uiPaddingLen > strIn.length then none
    else some (some (strCompressed.take (strIn.length - uiPaddingLen)))

/-- `string aes_nouncompress(string key, string in)`. -/
def aesNouncompress (key strIn : Bytes) : Option Bytes := (aesUnpad C key strIn).map (·.getD [])

theorem aesNouncompress_nil_key (strIn : Bytes) : aesNouncompress C [] strIn = some [] := by
  rw [aesNouncompress, aesUnpad]
  split
  · rfl
  · rfl

/-- `string aes_uncompress(string key, string in, DWORD dwLenOut)`. -/
def aesUncompress (key strIn : Bytes) (dwLenOut : UInt32) : Option Bytes :=
  (aesUnpad C key strIn).map fun
    | none => []
    | some strCompressed =>
        match C.uncompress strCompressed dwLenOut.toNat with
        | none => []
        | some strOut => if strOut.length ≠ dwLenOut.toNat then [] else strOut

/-! ### RSA -/

/-- `data` written over `buf` from offset `pos`; `none` where it would leave `buf`. -/
def writeAt (buf : Bytes) (pos : Nat) (data : Bytes) : Option Bytes :=
  if pos + data.length ≤ buf.length then
    some (buf.take pos ++ data ++ buf.drop (pos + data.length))
  else none

/-- The loop over the blocks, from block `i` on, `n` of them left. -/
def rsaBlocks (rsa : RsaKey) (strCompressed : Bytes) (blockCnt : Nat) :
    Nat → Nat → Bytes → Option Bytes
  | 0, _, strOut => some strOut
  | n + 1, i, strOut => do
      let blockSize :=
        if i = blockCnt - 1 then strCompressed.length - i * (rsa.size - 12) else rsa.size - 12
      let block ← slice strCompressed (i * (rsa.size - 12)) blockSize
      let strOut ←
        match rsa.encrypt i block with
        | some c => writeAt strOut (i * rsa.size) c
        | none => some []
      rsaBlocks rsa strCompressed blockCnt n (i + 1) strOut

/-- `string nocompress_rsa(string keye, string keyn, string in)`. -/
def nocompressRsa (keye keyn strIn : Bytes) : Option Bytes :=
  match C.rsa keye keyn with
  | none => some []
  | some rsa =>
      if strIn.length ≥ rsa.size - 12 then
        let blockCnt := strIn.length / (rsa.size - 12) +
          (if strIn.length % (rsa.size - 12) = 0 then 0 else 1)
        rsaBlocks rsa strIn blockCnt blockCnt 0 (List.replicate (blockCnt * rsa.size) 0)
      else
        match rsa.encrypt 0 strIn with
        | some c => writeAt (List.replicate rsa.size 0) 0 c
        | none => some []

/-- `string compress_rsa(string keye, string keyn, string in, DWORD &dwLenCompressed)`: the result,
and `dwLenCompressed` afterwards. -/
def compressRsa (keye keyn strIn : Bytes) : Option Bytes × Nat :=
  match C.compress strIn with
  | none => (some [], compressBound strIn.length)
  | some strCompressed => (nocompressRsa C keye keyn strCompressed, strCompressed.length)

/-! ### MD5 -/

/-- `string GetMd5(string in)`. -/
def getMd5 (strIn : Bytes) : Bytes := if strIn.length = 0 then [] else C.md5 strIn

/-- `string GetMd5_32(string in)`: `"%02x"` of every byte. -/
def getMd5_32 (strIn : Bytes) : Bytes := (getMd5 C strIn).flatMap fun b => (hexByte b).take 2

end

/-- Libraries that leave every text as it is, filled up with zeros where a length asks for it. -/
def plainCrypto : Crypto where
  compress := some
  uncompress s _ := some s
  cbcEncrypt _ _ s := s ++ List.replicate ((s.length + 15) / 16 * 16 - s.length) 0
  cbcDecrypt _ _ s := s
  md5 _ := List.replicate 16 0
  rsa _ _ := none
  length_cbcEncrypt _ _ s := by
    rw [List.length_append, List.length_replicate]
    omega
  length_cbcDecrypt _ _ _ := rfl
  length_md5 _ := rfl

/-! ### ECDH -/

/-- A generated key and what `i2o_ECPublicKey` and `i2d_ECPrivateKey` give for it: the length on
the first call, the bytes on the second. -/
structure EcKey where
  lenPub : Nat
  pub : Option Bytes
  lenPri : Nat
  pri : Option Bytes

/-- `string::resize`. -/
def resize (s : Bytes) (n : Nat) : Bytes := s.take n ++ List.replicate (n - s.length) 0

/-- `bool GenEcdh(int nid, string &strPubKey, string &strPriKey)`, `none` where no key can be made:
the result and both strings afterwards. -/
def genEcdh (ecKey : Option EcKey) (strPubKey strPriKey : Bytes) : Bool × Bytes × Bytes :=
  match ecKey with
  | none => (false, strPubKey, strPriKey)
  | some k =>
      match k.pub with
      | none => (false, resize strPubKey k.lenPub, strPriKey)
      | some pub =>
          match k.pri with
          | none => (false, pub, resize strPriKey k.lenPri)
          | some pri => (true, pub, pri)

/-- The functions of OpenSSL that `DoEcdh` calls. -/
structure EcdhLib where
  /-- whether the `i`th call of `EC_KEY_new_by_curve_name` makes a key of the curve -/
  newByCurveName : Nat → Nat → Bool
  /-- whether `o2i_ECPublicKey` and `d2i_ECPrivateKey` read the bytes as a key of the curve -/
  o2iECPublicKey : Nat → Bytes → Bool
  d2iECPrivateKey : Nat → Bytes → Bool
  /-- the secret of the two keys that `ECDH_compute_key` gives its `KDF`, `none` where it fails
  before -/
  secret : Nat → Bytes → Bytes → Option Bytes
  /-- whether a second `EC_KEY_free` of the same key goes unnoticed -/
  freesTwice : Bool

section
variable (C : Crypto) (E : EcdhLib)

/-- `KDF_MD5` into a buffer of 16 bytes, `none` for `NULL`. -/
def kdfMd5 (strIn : Bytes) : Option Bytes :=
  if (getMd5 C strIn).length = 16 then some (getMd5 C strIn) else none

/-- `ECDH_compute_key` of the two keys with `KDF_MD5`. -/
def ecdhComputeKey (nid : Nat) (strServerPubKey strLocalPriKey : Bytes) : Option Bytes :=
  (E.secret nid strServerPubKey strLocalPriKey).bind (kdfMd5 C)

/-- `string DoEcdh(int nid, string &strServerPubKey, string &strLocalPriKey)`.  Where the agreement
fails the result is the buffer it was to be written into, and both keys are freed twice. -/
def doEcdh (nid : Nat) (strServerPubKey strLocalPriKey : Bytes) : Option Bytes :=
  if !E.newByCurveName 0 nid then some []
  else if !E.o2iECPublicKey nid strServerPubKey then some []
  else if !E.newByCurveName 1 nid then some []
  else if !E.d2iECPrivateKey nid strLocalPriKey then some []
  else
    match ecdhComputeKey C E nid strServerPubKey strLocalPriKey with
    | some strEcdh => some strEcdh
    | none => if E.freesTwice then some (List.replicate 16 0) else none

variable {C E} {nid : Nat} {strServerPubKey strLocalPriKey strEcdh : Bytes}

/-- What `DoEcdh` gives: nothing, the key agreed on, or zeros if the agreement fails. -/
theorem doEcdh_cases (h : doEcdh C E nid strServerPubKey strLocalPriKey = some strEcdh) :
    strEcdh = [] ∨ ecdhComputeKey C E nid strServerPubKey strLocalPriKey = some strEcdh ∨
      ecdhComputeKey C E nid strServerPubKey strLocalPriKey = none := by
  rw [doEcdh] at h
  split at h
  · exact .inl (Option.some_inj.mp h).symm
  split at h
  · exact .inl (Option.some_inj.mp h).symm
  split at h
  · exact .inl (Option.some_inj.mp h).symm
  split at h
  · exact .inl (Option.some_inj.mp h).symm
  split at h
  · rename_i hkey
    exact .inr (.inl (hkey.trans h))
  · rename_i hkey
    exact .inr (.inr hkey)

theorem length_ecdhComputeKey
    (h : ecdhComputeKey C E nid strServerPubKey strLocalPriKey = some strEcdh) :
    strEcdh.length = 16 := by
  obtain ⟨secret, -, h⟩ := Option.bind_eq_some_iff.mp h
  rw [kdfMd5] at h
  split at h
  · cases h
    assumption
  · cases h

end

end MicroChat
