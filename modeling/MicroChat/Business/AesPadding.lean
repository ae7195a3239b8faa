import MicroChat.Business.AesCodec

/-!
# Business — AesPadding

What the two decryptors make of the last byte decrypted, for bodies of any length.

* `uiPaddingLen`: the padding length they take from it; `aesUnpad_eq`: what they do with it.
* `unpadsSafely_iff`: for which keys and bodies the length left is never negative.
* `aesNouncompress_eq_some_iff`: what is accepted under a key of one block.
* `nocompressAes_accepted_iff`: which of that the encryptor produces.
-/

namespace MicroChat
open Support Support.Cbc

/-- `uiPaddingLen` of the two decryptors. -/
def uiPaddingLen (C : Crypto) (key strIn : Bytes) : Nat :=
  charToUInt ((C.cbcDecrypt key key strIn).getLastD 0)

section
variable {C : Crypto} {key strIn : Bytes}

/-- **The unpadding** of a body that is not empty, under a key OpenSSL accepts. -/
theorem aesUnpad_eq (hkey : aesKeyOk key = true) (hin : strIn ≠ []) :
    aesUnpad C key strIn =
      if uiPaddingLen C key strIn > key.length then some none
      else if uiPaddingLen C key strIn > strIn.length then none
      else some (some
        ((C.cbcDecrypt key key strIn).take (strIn.length - uiPaddingLen C key strIn))) := by
  rw [aesUnpad, if_neg (by simpa using hin), if_neg (by simp [hkey])]
  rfl

/-- `resize` gets a length that has wrapped around just for a padding that the key allows and the
body has no room for. -/
theorem aesUnpad_eq_none_iff (hkey : aesKeyOk key = true) (hin : strIn ≠ []) :
    aesUnpad C key strIn = none ↔
      uiPaddingLen C key strIn ≤ key.length ∧ strIn.length < uiPaddingLen C key strIn := by
  rw [aesUnpad_eq hkey hin]
  split
  · rename_i h
    exact ⟨nofun, fun h' => by omega⟩
  · rename_i h
    split
    · rename_i h'
      exact ⟨fun _ => ⟨Nat.le_of_not_lt h, h'⟩, fun _ => rfl⟩
    · rename_i h'
      exact ⟨nofun, fun h'' => absurd h''.2 h'⟩

end

/-- Whatever `AES_cbc_encrypt` makes of the body, the padding length is rejected or at most the
length of the body, and both decryptors get past the unpadding.  `strOut.resize(dwLenOut)` in
`aes_uncompress`, which comes after it, may still throw. -/
def UnpadsSafely (key strIn : Bytes) : Prop :=
  ∀ C : Crypto,
    (key.length < uiPaddingLen C key strIn ∨ uiPaddingLen C key strIn ≤ strIn.length) ∧
    (∃ strOut, aesNouncompress C key strIn = some strOut) ∧
    ∀ dwLenOut, ∃ strOut, aesUncompress C key strIn dwLenOut = some strOut

/-- Libraries whose decryption fills the text with one byte. -/
def fillingCrypto (b : UInt8) : Crypto where
  __ := plainCrypto
  cbcDecrypt _ _ s := List.replicate s.length b
  length_cbcDecrypt _ _ _ := List.length_replicate ..

theorem uiPaddingLen_fillingCrypto {b : UInt8} {key strIn : Bytes} (hin : strIn ≠ [])
    (hb : b.toNat < 128) : uiPaddingLen (fillingCrypto b) key strIn = b.toNat := by
  obtain ⟨k, hk⟩ := Nat.exists_eq_succ_of_ne_zero
    (mt List.length_eq_zero_iff.mp hin)
  have hlast : ((fillingCrypto b).cbcDecrypt key key strIn).getLastD 0 = b := by
    change (List.replicate strIn.length b).getLastD 0 = b
    rw [hk, List.replicate_succ', List.getLastD_concat]
  rw [uiPaddingLen, hlast, charToUInt, if_pos hb]

/-- **Which bodies are unpadded safely**: those that are not shorter than the key. -/
theorem unpadsSafely_iff {key strIn : Bytes} (hkey : aesKeyOk key = true) (hin : strIn ≠ []) :
    UnpadsSafely key strIn ↔ key.length ≤ strIn.length := by
  constructor
  · intro h
    by_contra hlt
    -- one byte more than the body has is a padding that the key allows
    have hlen := length_of_aesKeyOk hkey
    have hb : (UInt8.ofNat (strIn.length + 1)).toNat = strIn.length + 1 :=
      toNat_ofNat_byte (by omega)
    have hpad := @uiPaddingLen_fillingCrypto _ key _ hin (by omega : (UInt8.ofNat
      (strIn.length + 1)).toNat < 128)
    obtain ⟨hsafe, -⟩ := h (fillingCrypto (UInt8.ofNat (strIn.length + 1)))
    omega
  · intro hle C
    obtain ⟨o, ho⟩ := exists_aesUnpad_eq_some (C := C) hle
    refine ⟨by omega, ⟨o.getD [], ?_⟩, ?_⟩
    · rw [aesNouncompress, ho, Option.map_some]
    · intro dwLenOut
      rw [aesUncompress, ho, Option.map_some]
      exact ⟨_, rfl⟩

/-- A body of one block under a key of one. -/
theorem unpadsSafely_block :
    UnpadsSafely (ascii "0123456789abcdef") (List.replicate 16 0) :=
  (unpadsSafely_iff (by decide) (by decide)).mpr (by decide)

/-- A body of one byte under a key of 16: a decrypted byte 2 makes `resize` throw. -/
theorem not_unpadsSafely : ¬ ∀ key strIn : Bytes, aesKeyOk key = true → strIn ≠ [] →
    UnpadsSafely key strIn := by
  intro h
  obtain ⟨-, ⟨strOut, hret⟩, -⟩ :=
    h (ascii "0123456789abcdef") [2] (by decide) (by decide) plainCrypto
  have hnone : aesNouncompress plainCrypto (ascii "0123456789abcdef") [2] = none := by
    decide +kernel
  rw [hnone] at hret
  cases hret

/-! ### What is accepted -/

section
variable {C : Crypto} {key c m : Bytes}

/-- **What a decryptor accepts**: a text that decrypts to `m` and as many more bytes as the last
of them says.  Nothing is asked of the others. -/
theorem aesNouncompress_eq_some_iff (hkey : aesKeyOk key = true) (hc : c ≠ []) (hm : m ≠ []) :
    aesNouncompress C key c = some m ↔
      ∃ tail, C.cbcDecrypt key key c = m ++ tail ∧ tail.length = uiPaddingLen C key c ∧
        tail.length ≤ key.length := by
  have hlen := C.length_cbcDecrypt key key c
  rw [aesNouncompress, aesUnpad_eq hkey hc]
  constructor
  · intro h
    split at h
    · exact absurd (Option.some_inj.mp h).symm hm
    · rename_i hkeep
      split at h
      · cases h
      · rename_i hroom
        cases h
        refine ⟨(C.cbcDecrypt key key c).drop (c.length - uiPaddingLen C key c),
          (List.take_append_drop _ _).symm, ?_, ?_⟩ <;> rw [List.length_drop] <;> omega
  · rintro ⟨tail, hdec, hpad, hle⟩
    have hsum := congrArg List.length hdec
    rw [List.length_append, hlen] at hsum
    have hcut : c.length - tail.length = m.length := by omega
    rw [← hpad, if_neg (by omega), if_neg (by omega), hdec, hcut, List.take_left]
    rfl

/-- A padding longer than the key, or as long as the body, leaves nothing. -/
theorem aesNouncompress_eq_nil (hkey : aesKeyOk key = true) (hc : c ≠ [])
    (h : key.length < uiPaddingLen C key c ∨ uiPaddingLen C key c = c.length) :
    aesNouncompress C key c = some [] := by
  rw [aesNouncompress, aesUnpad_eq hkey hc]
  split
  · rfl
  · rename_i hkeep
    have hall : uiPaddingLen C key c = c.length := h.resolve_left hkeep
    rw [if_neg (by omega), hall, Nat.sub_self]
    rfl

variable {B : Bytes → BlockCipher 16} {tail : Bytes}

/-- **Which accepted texts the encryptor produces**: whole blocks that decrypt to a text and a
padding all of whose bytes say how long it is. -/
theorem nocompressAes_accepted_iff (hkey : key.length = 16)
    (hdec : decrypt (B key) key c = m ++ tail) (hle : tail.length ≤ 16) :
    nocompressAes (C.withCipher B) key m = c ↔
      16 ∣ c.length ∧ tail ≠ [] ∧ ∀ b ∈ tail, b = UInt8.ofNat tail.length := by
  have hok : aesKeyOk key = true := by simp [aesKeyOk, hkey]
  have hlen := length_decrypt (B := B key) (by decide) key c
  rw [hdec, List.length_append] at hlen
  obtain ⟨k, hk⟩ : 16 ∣ (padded key m).length := (dvd_length_padded_iff hok).mpr (.inl (by omega))
  have hwhole : nocompressAes (C.withCipher B) key m = encrypt (B key) key (padded key m) := by
    rw [nocompressAes_eq hok, List.take_of_length_le]
    rw [length_encrypt, blockCount]
    omega
  rw [hwhole]
  constructor
  · rintro rfl
    obtain ⟨hpos, -, -⟩ := @paddingLen_bounds key m hok
    have hsize := length_padded key m
    -- the ciphertext decrypts to the padded text, so `tail` is the padding
    have hback : decrypt (B key) key (encrypt (B key) key (padded key m)) = padded key m := by
      obtain ⟨k, rfl⟩ := Nat.exists_eq_succ_of_ne_zero (n := k) (by rintro rfl; omega)
      exact decrypt_encrypt (k := k) (by decide) (by omega)
    have htail : tail = List.replicate (paddingLen key m) (UInt8.ofNat (paddingLen key m)) :=
      List.append_cancel_left (hdec.symm.trans hback)
    have hcount : tail.length = paddingLen key m := by rw [htail, List.length_replicate]
    refine ⟨?_, ?_, ?_⟩
    · rw [length_encrypt]
      exact Nat.dvd_mul_left ..
    · rintro rfl
      exact absurd hcount (by rw [List.length_nil]; omega)
    · intro b hb
      rw [htail] at hb
      rw [hcount]
      exact List.eq_of_mem_replicate hb
  · rintro ⟨⟨j, hj⟩, hne, hall⟩
    have hpos : 0 < tail.length := List.length_pos_iff.mpr hne
    have hpad : paddingLen key m = tail.length := by
      rw [paddingLen, hkey]
      omega
    have htext : padded key m = decrypt (B key) key c := by
      rw [hdec, padded, hpad, ← List.eq_replicate_iff.mpr ⟨rfl, hall⟩]
    rw [htext]
    exact encrypt_decrypt (k := j) (by decide) (by omega)

end

end MicroChat
