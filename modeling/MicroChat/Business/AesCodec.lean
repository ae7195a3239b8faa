import MicroChat.Business.Crypto
import MicroChat.Support.Cbc

/-!
# Business — AesCodec

Bodies under a session key, encrypted and decrypted again.  The padding fills up to a multiple of
the length of the key, and the ciphertext is cut to the length of the padded text; with a key of
24 bytes the two need not be whole blocks.

* `Crypto.withCipher`: `AES_cbc_encrypt` as chaining over a block cipher.
* `aesUnpad_nocompressAes`: texts whose padded length is a multiple of 16 come back.
* `mixer`, `exists_mixer`: ciphers under which the last byte of others comes out wrong.
* `aes_roundtrip_iff`: which texts come back whatever the cipher is.
-/

namespace MicroChat
open Support Support.Cbc

/-- `AES_cbc_encrypt` over the block cipher that a key gives. -/
def Crypto.withCipher (C : Crypto) (B : Bytes → BlockCipher 16) : Crypto where
  __ := C
  cbcEncrypt key iv s := encrypt (B key) iv s
  cbcDecrypt key iv s := decrypt (B key) iv s
  length_cbcEncrypt key iv s := length_encrypt iv s
  length_cbcDecrypt key iv s := length_decrypt (by decide) iv s

/-- The length of the padding. -/
def paddingLen (key m : Bytes) : Nat := key.length - m.length % key.length

/-- A text with its padding. -/
def padded (key m : Bytes) : Bytes :=
  m ++ List.replicate (paddingLen key m) (UInt8.ofNat (paddingLen key m))

section
variable {C : Crypto} {B : Bytes → BlockCipher 16} {key m : Bytes}

theorem length_of_aesKeyOk (h : aesKeyOk key = true) :
    key.length = 16 ∨ key.length = 24 ∨ key.length = 32 := by
  simpa [aesKeyOk, or_assoc] using h

theorem paddingLen_bounds (h : aesKeyOk key = true) :
    0 < paddingLen key m ∧ paddingLen key m ≤ key.length ∧ paddingLen key m ≤ 32 := by
  have hkey := length_of_aesKeyOk h
  have hlt : m.length % key.length < key.length := Nat.mod_lt _ (by omega)
  rw [paddingLen]
  omega

theorem length_padded (key m : Bytes) : (padded key m).length = m.length + paddingLen key m := by
  rw [padded, List.length_append, List.length_replicate]

/-- The padded length counts in keys. -/
theorem length_padded_eq (h : aesKeyOk key = true) :
    (padded key m).length = key.length * (m.length / key.length + 1) := by
  have hkey := length_of_aesKeyOk h
  have hlt : m.length % key.length < key.length := Nat.mod_lt _ (by omega)
  have hdiv := Nat.div_add_mod m.length key.length
  rw [length_padded, paddingLen, Nat.mul_add, Nat.mul_one]
  omega

theorem nocompressAes_eq (h : aesKeyOk key = true) :
    nocompressAes (C.withCipher B) key m =
      (encrypt (B key) key (padded key m)).take (padded key m).length := by
  rw [nocompressAes, if_pos h]
  rfl

/-- The last byte of a padded text says how long its padding is. -/
theorem charToUInt_paddingLen (h : aesKeyOk key = true) :
    charToUInt (UInt8.ofNat (paddingLen key m)) = paddingLen key m := by
  obtain ⟨-, -, hle⟩ := @paddingLen_bounds key m h
  rw [charToUInt, toNat_ofNat_byte (by omega), if_pos (by omega)]

theorem getLastD_padded (h : aesKeyOk key = true) :
    (padded key m).getLastD 0 = UInt8.ofNat (paddingLen key m) := by
  obtain ⟨hpos, -, -⟩ := @paddingLen_bounds key m h
  obtain ⟨k, hk⟩ := Nat.exists_eq_succ_of_ne_zero hpos.ne'
  rw [padded, hk, List.replicate_succ', ← List.append_assoc, List.getLastD_concat]

/-- **Whole blocks come back**, without their padding. -/
theorem aesUnpad_nocompressAes (h : aesKeyOk key = true) (h16 : 16 ∣ (padded key m).length) :
    aesUnpad (C.withCipher B) key (nocompressAes (C.withCipher B) key m) = some (some m) := by
  obtain ⟨hpos, hle, -⟩ := @paddingLen_bounds key m h
  have hlen := length_padded key m
  obtain ⟨k, hk⟩ := h16
  obtain ⟨k, rfl⟩ := Nat.exists_eq_succ_of_ne_zero (n := k) (by rintro rfl; omega)
  have hwhole : nocompressAes (C.withCipher B) key m = encrypt (B key) key (padded key m) := by
    rw [nocompressAes_eq h, List.take_of_length_le]
    rw [length_encrypt, blockCount]
    omega
  have hout : (nocompressAes (C.withCipher B) key m).length = (padded key m).length := by
    rw [hwhole, length_encrypt, blockCount]
    omega
  have hdec : (C.withCipher B).cbcDecrypt key key (nocompressAes (C.withCipher B) key m) =
      padded key m := by
    rw [hwhole]
    exact decrypt_encrypt (k := k) (by decide) (by omega)
  rw [aesUnpad, if_neg (by omega), if_neg (by simp [h])]
  simp only [hdec, hout, getLastD_padded h, charToUInt_paddingLen h]
  rw [if_neg (by omega), if_neg (by omega), hlen, Nat.add_sub_cancel, padded, List.take_left]

end

/-! ### A cipher that mixes two bytes -/

/-- Bytes 7 and 15 mixed with each other and with `c`. -/
def mixEnc (c : UInt8) (x : Bytes) : Bytes :=
  (x.set 7 (x.getD 15 0 ^^^ c)).set 15 (x.getD 7 0 ^^^ x.getD 15 0 ^^^ c)

def mixDec (c : UInt8) (y : Bytes) : Bytes :=
  (y.set 7 (y.getD 7 0 ^^^ y.getD 15 0)).set 15 (y.getD 7 0 ^^^ c)

/-- Two bytes of a block, set. -/
theorem getD_set_set {x : Bytes} (h : x.length = 16) (a b : UInt8) :
    ((x.set 7 a).set 15 b).getD 7 0 = a ∧ ((x.set 7 a).set 15 b).getD 15 0 = b := by
  simp [List.getD_eq_getElem?_getD, h]

def mixer (c : UInt8) : BlockCipher 16 where
  enc := mixEnc c
  dec := mixDec c
  length_enc b h := by simpa [mixEnc] using h
  length_dec b h := by simpa [mixDec] using h
  dec_enc x h := by
    obtain ⟨h7, h15⟩ := getD_set_set h (x.getD 15 0 ^^^ c) (x.getD 7 0 ^^^ x.getD 15 0 ^^^ c)
    have ha : x.getD 15 0 ^^^ c ^^^ (x.getD 7 0 ^^^ x.getD 15 0 ^^^ c) = x.getD 7 0 := by
      simp only [UInt8.xor_comm, xor_left_comm, xor_xor_cancel, UInt8.xor_self, UInt8.xor_zero]
    have hb : x.getD 15 0 ^^^ c ^^^ c = x.getD 15 0 := by
      rw [UInt8.xor_assoc, UInt8.xor_self, UInt8.xor_zero]
    rw [mixDec, mixEnc, h7, h15, ha, hb]
    refine List.ext_getElem (by simp) ?_
    intro i hi hi'
    simp only [List.getElem_set, List.getD_eq_getElem?_getD]
    split
    · rename_i he
      subst he
      simp [h]
    · split
      · rename_i he
        subst he
        simp [h]
      · simp_all

section
variable {c : UInt8}

theorem getD_mixEnc {x : Bytes} (h : x.length = 16) :
    (mixEnc c x).getD 7 0 = x.getD 15 0 ^^^ c ∧
    (mixEnc c x).getD 15 0 = x.getD 7 0 ^^^ x.getD 15 0 ^^^ c :=
  getD_set_set h _ _

/-- The bytes 7 and 15 of the next block of ciphertext. -/
theorem getD_encryptBlock {iv : Bytes} (h : iv.length = 16) (s : Bytes) :
    (encryptBlock (mixer c) iv s).getD 7 0 = (block 16 s).getD 15 0 ^^^ iv.getD 15 0 ^^^ c ∧
    (encryptBlock (mixer c) iv s).getD 15 0 =
      (block 16 s).getD 7 0 ^^^ iv.getD 7 0 ^^^
        ((block 16 s).getD 15 0 ^^^ iv.getD 15 0) ^^^ c := by
  have hlen : (block 16 s).length = iv.length := by rw [length_block, h]
  obtain ⟨h7, h15⟩ := @getD_mixEnc c (xorBytes (block 16 s) iv)
    (by rw [length_xorBytes hlen, length_block])
  rw [getD_xorBytes hlen, getD_xorBytes hlen] at *
  exact ⟨h7, h15⟩

/-- Two blocks whose bytes 7 and 15 differ by `a` and `b`. -/
def DiffersBy (a b : UInt8) (x y : Bytes) : Prop :=
  x.length = 16 ∧ y.length = 16 ∧ y.getD 7 0 = x.getD 7 0 ^^^ a ∧ y.getD 15 0 = x.getD 15 0 ^^^ b

/-- One block under `mixer 0` and under `mixer c`. -/
theorem DiffersBy.encryptBlock {a b : UInt8} {iv iv' : Bytes} (h : DiffersBy a b iv iv')
    (s : Bytes) : DiffersBy (b ^^^ c) (a ^^^ b ^^^ c) (encryptBlock (mixer 0) iv s)
      (encryptBlock (mixer c) iv' s) := by
  obtain ⟨hlen, hlen', h7, h15⟩ := h
  obtain ⟨e7, e15⟩ := @getD_encryptBlock 0 iv hlen s
  obtain ⟨f7, f15⟩ := @getD_encryptBlock c iv' hlen' s
  refine ⟨length_encryptBlock hlen s, length_encryptBlock hlen' s, ?_, ?_⟩
  · rw [e7, f7, h15, UInt8.xor_zero]
    simp only [UInt8.xor_assoc, UInt8.xor_comm]
  · rw [e15, f15, h7, h15, UInt8.xor_zero]
    simp only [UInt8.xor_assoc, UInt8.xor_comm, xor_left_comm]

/-- Three blocks make the difference go away, and two leave it in byte 15. -/
theorem DiffersBy.chain (t : Nat) {iv iv' : Bytes} (s : Bytes) (h : DiffersBy 0 0 iv iv') :
    DiffersBy 0 c (chain (mixer 0) (3 * t + 2) iv s) (chain (mixer c) (3 * t + 2) iv' s) := by
  induction t generalizing iv iv' s with
  | zero =>
      have h₂ := (h.encryptBlock (c := c) s).encryptBlock (c := c) (s.drop 16)
      simp only [UInt8.zero_xor, UInt8.xor_self] at h₂
      exact h₂
  | succ t ih =>
      have h₃ := ((h.encryptBlock (c := c) s).encryptBlock (c := c) (s.drop 16)).encryptBlock
        (c := c) ((s.drop 16).drop 16)
      simp only [UInt8.zero_xor, UInt8.xor_self] at h₃
      exact ih (((s.drop 16).drop 16).drop 16) h₃

/-- Byte 7 of a block that is decrypted from half of it, from the half that is there. -/
theorem getD_mixDec_half (x : Bytes) :
    (mixDec c (block 16 (x.take 8))).getD 7 0 = x.getD 7 0 := by
  obtain ⟨hdec, -⟩ := getD_set_set (length_block 16 (x.take 8))
    ((block 16 (x.take 8)).getD 7 0 ^^^ (block 16 (x.take 8)).getD 15 0)
    ((block 16 (x.take 8)).getD 7 0 ^^^ c)
  have h7 : (x.take 8).getD 7 0 = x.getD 7 0 := by simp [List.getD_eq_getElem?_getD]
  have h15 : (x.take 8).getD 15 0 = 0 := by simp [List.getD_eq_getElem?_getD]
  rw [mixDec, hdec, getD_block (by decide), getD_block (by decide), h7, h15, UInt8.xor_zero]

theorem getLastD_eq_getD (s : Bytes) : s.getLastD 0 = s.getD (s.length - 1) 0 := by
  rw [List.getLastD_eq_getLast?, List.getLast?_eq_getElem?, List.getD_eq_getElem?_getD]

theorem getD_drop (s : Bytes) (i j : Nat) : (s.drop i).getD j 0 = s.getD (i + j) 0 := by
  rw [List.getD_eq_getElem?_getD, List.getElem?_drop, List.getD_eq_getElem?_getD]

theorem getLastD_append_take {s z : Bytes} {i : Nat} (h : i < z.length) :
    (s ++ z.take (i + 1)).getLastD 0 = z.getD i 0 := by
  have hlen : (s ++ z.take (i + 1)).length - 1 = s.length + i := by
    rw [List.length_append, List.length_take]
    omega
  rw [getLastD_eq_getD, hlen, List.getD_eq_getElem?_getD,
    List.getElem?_append_right (Nat.le_add_right _ _), Nat.add_sub_cancel_left,
    List.getElem?_take_of_lt (Nat.lt_succ_self i), List.getD_eq_getElem?_getD]

/-- The last byte of a text of half a block more than `k` blocks, encrypted, cut to its length and
decrypted: it differs by byte 15 of the last block. -/
theorem getLastD_decrypt {k : Nat} {iv s : Bytes} (h : s.length = k * 16 + 8) :
    (decrypt (mixer c) iv ((encrypt (mixer c) iv s).take s.length)).getLastD 0 =
      s.getLastD 0 ^^^ (chain (mixer c) (k + 1) (block 16 iv) s).getD 15 0 := by
  have hchain := length_chain (B := mixer c) k s (length_block 16 iv)
  rw [decrypt_take_encrypt h (by decide) (by decide), chain_succ]
  generalize Cbc.chain (mixer c) k (block 16 iv) s = v at hchain ⊢
  -- the last block goes over byte 7 of the half that is left
  obtain ⟨hx7, hx15⟩ := getD_encryptBlock (c := c) hchain (s.drop (k * 16))
  generalize encryptBlock (mixer c) v (s.drop (k * 16)) = x at hx7 hx15 ⊢
  have hdec : ((mixer c).dec (block 16 (x.take 8))).length = v.length := by
    rw [hchain, (mixer c).length_dec _ (length_block ..)]
  have hz7 : (xorBytes ((mixer c).dec (block 16 (x.take 8))) v).getD 7 0 =
      x.getD 7 0 ^^^ v.getD 7 0 := by
    rw [getD_xorBytes hdec]
    exact congrArg (· ^^^ v.getD 7 0) (getD_mixDec_half x)
  have hs7 : (s.drop (k * 16)).getD 7 0 = s.getLastD 0 := by
    rw [getD_drop, getLastD_eq_getD, h]
    rfl
  have hs15 : (s.drop (k * 16)).getD 15 0 = 0 := by
    rw [getD_drop, List.getD_eq_getElem?_getD, List.getElem?_eq_none (by omega)]
    rfl
  rw [getD_block (by decide), hs15, UInt8.zero_xor] at hx7
  rw [getD_block (by decide), getD_block (by decide), hs7, hs15, UInt8.zero_xor] at hx15
  rw [getLastD_append_take (by rw [length_xorBytes hdec, hdec, hchain]; decide), hz7, hx7, hx15]
  simp only [UInt8.xor_assoc, xor_xor_cancel]
  rw [UInt8.xor_comm c, xor_left_comm]

end

/-- **Half a block too many**: some cipher gives the last byte any difference. -/
theorem exists_mixer {t : Nat} {s : Bytes} (h : s.length = (3 * t + 1) * 16 + 8) (iv : Bytes)
    (d : UInt8) : ∃ c, (decrypt (mixer c) iv
      ((encrypt (mixer c) iv s).take s.length)).getLastD 0 = s.getLastD 0 ^^^ d := by
  let c := d ^^^ (Cbc.chain (mixer 0) (3 * t + 2) (block 16 iv) s).getD 15 0
  have hiv := length_block 16 iv
  have hsame : DiffersBy 0 0 (block 16 iv) (block 16 iv) :=
    ⟨hiv, hiv, (UInt8.xor_zero ..).symm, (UInt8.xor_zero ..).symm⟩
  obtain ⟨-, -, -, h15⟩ := DiffersBy.chain (c := c) t s hsame
  have hd : (Cbc.chain (mixer c) (3 * t + 1 + 1) (block 16 iv) s).getD 15 0 = d := by
    refine h15.trans ?_
    simp only [c]
    rw [UInt8.xor_comm d, xor_xor_cancel]
  exact ⟨c, by rw [getLastD_decrypt h, hd]⟩

section
variable {C : Crypto} {key m : Bytes}

/-- What is left of the text when the last byte comes out different. -/
theorem exists_aesUnpad (hkey : key.length = 24) (heven : m.length / 24 % 2 = 0) (d : UInt8) :
    ∃ (B : Bytes → BlockCipher 16) (s : Bytes), s.length = (padded key m).length ∧
      aesUnpad (C.withCipher B) key (nocompressAes (C.withCipher B) key m) =
        let uiPaddingLen := charToUInt (UInt8.ofNat (paddingLen key m) ^^^ d)
        if uiPaddingLen > 24 then some none
        else some (some (s.take ((padded key m).length - uiPaddingLen))) := by
  have hok : aesKeyOk key = true := by simp [aesKeyOk, hkey]
  have hlen := length_padded_eq (m := m) hok
  rw [hkey] at hlen
  obtain ⟨c, hc⟩ := exists_mixer (t := m.length / 24 / 2) (s := padded key m) (by omega) key d
  refine ⟨fun _ => mixer c, decrypt (mixer c) key
    ((encrypt (mixer c) key (padded key m)).take (padded key m).length), ?_, ?_⟩
  · rw [length_decrypt (by decide), List.length_take, length_encrypt]
    have := le_blockCount (n := 16) (by decide) (padded key m)
    omega
  · have hcut : (nocompressAes (C.withCipher fun _ => mixer c) key m).length =
        (padded key m).length := by
      rw [nocompressAes_eq hok, List.length_take, length_encrypt]
      have := le_blockCount (n := 16) (by decide) (padded key m)
      omega
    have hdec : (C.withCipher fun _ => mixer c).cbcDecrypt key key
        (nocompressAes (C.withCipher fun _ => mixer c) key m) =
        decrypt (mixer c) key ((encrypt (mixer c) key (padded key m)).take
          (padded key m).length) := by
      rw [nocompressAes_eq hok]
      rfl
    rw [aesUnpad, if_neg (by omega), if_neg (by simp [hok])]
    simp only [hdec, hcut, hc, getLastD_padded hok, hkey]
    split
    · rfl
    · rw [if_neg (by omega)]

/-- Some cipher makes the padding look too long. -/
theorem exists_aesUnpad_none (hkey : key.length = 24) (heven : m.length / 24 % 2 = 0) :
    ∃ B, aesUnpad (C.withCipher B) key (nocompressAes (C.withCipher B) key m) = some none := by
  obtain ⟨B, s, -, h⟩ := exists_aesUnpad (C := C) hkey heven 0x80
  have hok : aesKeyOk key = true := by simp [aesKeyOk, hkey]
  obtain ⟨-, hle, -⟩ := @paddingLen_bounds key m hok
  have hbig : ∀ n ≤ 24, charToUInt (UInt8.ofNat n ^^^ 0x80) > 24 := by decide
  refine ⟨B, ?_⟩
  rw [h]
  exact if_pos (hbig _ (hkey ▸ hle))

end

/-! ### The round trip -/

/-- A text that is not shorter than the key can be unpadded. -/
theorem exists_aesUnpad_eq_some {C : Crypto} {key s : Bytes} (h : key.length ≤ s.length) :
    ∃ o, aesUnpad C key s = some o := by
  rw [aesUnpad]
  split
  · exact ⟨_, rfl⟩
  · split
    · exact ⟨_, rfl⟩
    · dsimp only
      split
      · exact ⟨_, rfl⟩
      · rw [if_neg (by omega)]
        exact ⟨_, rfl⟩

theorem dvd_length_padded_iff {key m : Bytes} (h : aesKeyOk key = true) :
    16 ∣ (padded key m).length ↔ key.length ≠ 24 ∨ m.length / 24 % 2 = 1 := by
  have hlen := length_padded_eq (m := m) h
  rcases length_of_aesKeyOk h with hkey | hkey | hkey <;> rw [hkey] at hlen <;> omega

section
variable {C : Crypto} {key m : Bytes}

/-- **Which texts come back**, whatever the block cipher is: those that are padded to whole
blocks. -/
theorem aesNouncompress_nocompressAes_iff (hkey : aesKeyOk key = true) :
    (∀ B, aesNouncompress (C.withCipher B) key (nocompressAes (C.withCipher B) key m) = some m) ↔
      key.length ≠ 24 ∨ m.length / 24 % 2 = 1 := by
  constructor
  · intro h
    by_contra hnot
    obtain ⟨h24, heven⟩ : key.length = 24 ∧ m.length / 24 % 2 = 0 := by omega
    by_cases hm : m = []
    · -- the padding of 24 bytes comes out as one of 16
      subst hm
      obtain ⟨B, s, hs, hB⟩ := exists_aesUnpad (C := C) (m := []) h24 rfl 8
      have hpad : paddingLen key [] = 24 := by simp [paddingLen, h24]
      have hchar : charToUInt (UInt8.ofNat 24 ^^^ 8) = 16 := by decide
      have hlen := length_padded key []
      rw [hpad] at hB hlen
      simp only [hchar] at hB
      have hback := h B
      rw [aesNouncompress, hB, if_neg (by decide), Option.map_some, Option.getD_some,
        Option.some_inj] at hback
      have := congrArg List.length hback
      rw [List.length_take, hs, hlen, List.length_nil] at this
      omega
    · obtain ⟨B, hB⟩ := exists_aesUnpad_none (C := C) h24 heven
      have hback := h B
      rw [aesNouncompress, hB, Option.map_some, Option.some_inj] at hback
      exact hm hback.symm
  · intro h B
    rw [aesNouncompress, aesUnpad_nocompressAes hkey ((dvd_length_padded_iff hkey).mpr h)]
    rfl

/-- A text that was compressed before, for a `compress` that `uncompress` undoes. -/
theorem aesUncompress_compressAes_iff (hkey : aesKeyOk key = true) {z : Bytes}
    (hz : C.compress m = some z) (hinv : C.uncompress z m.length = some m)
    (hm : m.length < 2 ^ 32) :
    (∀ B, aesUncompress (C.withCipher B) key (compressAes (C.withCipher B) key m).1
      (.ofNat m.length) = some m) ↔
      key.length ≠ 24 ∨ z.length / 24 % 2 = 1 ∨ m = [] := by
  have hcomp (B : Bytes → BlockCipher 16) :
      (compressAes (C.withCipher B) key m).1 = nocompressAes (C.withCipher B) key z := by
    have hz' : (C.withCipher B).compress m = some z := hz
    rw [compressAes, hz']
  have hnat : (UInt32.ofNat m.length).toNat = m.length := by
    rw [UInt32.toNat_ofNat']
    omega
  have hwhole (B : Bytes → BlockCipher 16) (h16 : 16 ∣ (padded key z).length) :
      aesUncompress (C.withCipher B) key (compressAes (C.withCipher B) key m).1
        (.ofNat m.length) = some m := by
    have hinv' : (C.withCipher B).uncompress z m.length = some m := hinv
    rw [aesUncompress, hcomp, aesUnpad_nocompressAes hkey h16, Option.map_some, hnat]
    simp [hinv']
  constructor
  · intro h
    by_contra hnot
    obtain ⟨h24, heven, hne⟩ : key.length = 24 ∧ z.length / 24 % 2 = 0 ∧ m ≠ [] := by
      simp only [not_or, not_not] at hnot
      exact ⟨hnot.1, by omega, hnot.2.2⟩
    obtain ⟨B, hB⟩ := exists_aesUnpad_none (C := C) h24 heven
    have hback := h B
    rw [aesUncompress, hcomp, hB, Option.map_some, Option.some_inj] at hback
    exact hne hback.symm
  · rintro h B
    by_cases h16 : 16 ∣ (padded key z).length
    · exact hwhole B h16
    · have hm0 : m = [] := by
        rw [dvd_length_padded_iff hkey] at h16
        tauto
      -- whatever comes of it, an empty text comes back empty
      subst hm0
      have hle : key.length ≤ (nocompressAes (C.withCipher B) key z).length := by
        have hpad := length_padded_eq (m := z) hkey
        have hblocks := le_blockCount (n := 16) (by decide) (padded key z)
        rw [nocompressAes_eq hkey, List.length_take, length_encrypt, Nat.min_eq_left hblocks, hpad]
        exact Nat.le_mul_of_pos_right _ (Nat.succ_pos _)
      obtain ⟨o, ho⟩ := exists_aesUnpad_eq_some (C := C.withCipher B) hle
      rw [aesUncompress, hcomp, ho, Option.map_some, hnat]
      cases o with
      | none => rfl
      | some s =>
          dsimp only
          split
          · rfl
          · split
            · rfl
            · rename_i hzero
              rw [List.eq_nil_of_length_eq_zero (not_not.mp hzero)]

end

/-- **The round trip of a body.**  Under a key of a length that OpenSSL accepts, and for a zlib
whose `uncompress` undoes its `compress`, a text comes back whatever the block cipher is exactly
if the key has not 24 bytes or the text, compressed or not, fills an odd number of keys; an empty
text that was compressed always does. -/
theorem aes_roundtrip_iff {C : Crypto}
    (hzlib : ∀ s, ∃ z, C.compress s = some z ∧ C.uncompress z s.length = some s) {key m : Bytes}
    (hkey : aesKeyOk key = true) :
    ((∀ B, aesNouncompress (C.withCipher B) key (nocompressAes (C.withCipher B) key m) =
        some m) ↔ key.length ≠ 24 ∨ m.length / 24 % 2 = 1) ∧
    (m.length < 2 ^ 32 →
      ((∀ B, aesUncompress (C.withCipher B) key (compressAes (C.withCipher B) key m).1
          (.ofNat m.length) = some m) ↔
        key.length ≠ 24 ∨ (compressAes C key m).2 / 24 % 2 = 1 ∨ m = [])) := by
  obtain ⟨z, hz, hinv⟩ := hzlib m
  have hlen : (compressAes C key m).2 = z.length := by rw [compressAes, hz]
  rw [hlen]
  exact ⟨aesNouncompress_nocompressAes_iff hkey, aesUncompress_compressAes_iff hkey hz hinv⟩

/-- zlib on the text `m`, and on others none. -/
def zlibOfM : Crypto where
  __ := plainCrypto
  compress s := some (if s = ascii "m" then [0x78, 0x9c, 0xcb, 0x05, 0, 0, 0x6e, 0, 0x6e] else s)
  uncompress z n :=
    some (if z = [0x78, 0x9c, 0xcb, 0x05, 0, 0, 0x6e, 0, 0x6e] ∧ n = 1 then ascii "m" else z)

theorem zlibOfM_inv (s : Bytes) :
    ∃ z, zlibOfM.compress s = some z ∧ zlibOfM.uncompress z s.length = some s := by
  refine ⟨_, rfl, congrArg some ?_⟩
  by_cases hs : s = ascii "m"
  · subst hs
    rfl
  · rw [if_neg hs, if_neg]
    rintro ⟨rfl, h⟩
    exact absurd h (by decide)

/-- AES-128 under `0123456789abcdef` on the one block there is. -/
def aes128OfM : BlockCipher 16 := .swap
  [0x5d, 0x3e, 0x3d, 0x3c, 0x3b, 0x3a, 0x39, 0x38, 0x37, 0x36, 0x6e, 0x6d, 0x6c, 0x6b, 0x6a, 0x69]
  [0x66, 0x00, 0x95, 0x99, 0x15, 0x48, 0x16, 0x4d, 0xbc, 0x67, 0x7e, 0x63, 0xa6, 0xb6, 0x25, 0x12]
  rfl rfl

/-- A text of one byte, under a key of 16. -/
theorem aes_roundtrip_m :
    aesNouncompress (zlibOfM.withCipher fun _ => aes128OfM) (ascii "0123456789abcdef")
      (nocompressAes (zlibOfM.withCipher fun _ => aes128OfM) (ascii "0123456789abcdef")
        (ascii "m")) = some (ascii "m") :=
  (aes_roundtrip_iff zlibOfM_inv (by decide)).1.mpr (.inl (by decide)) _

/-- AES-192 under `0123456789abcdefghijklmn` on the blocks encrypted, and on the last one as it is
left. -/
def aes192OfM : BlockCipher 16 :=
  .comp (.swap
    [0x5d, 0x26, 0x25, 0x24, 0x23, 0x22, 0x21, 0x20, 0x2f, 0x2e, 0x76, 0x75, 0x74, 0x73, 0x72, 0x71]
    [0xf3, 0xcc, 0x79, 0xcd, 0xad, 0x3e, 0xc3, 0xcb, 0xb0, 0xf7, 0xc4, 0x02, 0x62, 0x52, 0x70, 0x45]
    rfl rfl) <|
  .comp (.swap
    [0xe4, 0xdb, 0x6e, 0xda, 0xba, 0x29, 0xd4, 0xdc, 0xb0, 0xf7, 0xc4, 0x02, 0x62, 0x52, 0x70, 0x45]
    [0xc6, 0x97, 0x58, 0xee, 0xc2, 0x10, 0x57, 0x66, 0xc6, 0xf4, 0x07, 0xa3, 0x84, 0x06, 0xb0, 0x10]
    rfl rfl) <|
  .swap
    [0xb6, 0x2e, 0x08, 0x73, 0x84, 0xff, 0xfc, 0x77, 0x3a, 0xa8, 0x36, 0xa5, 0x1c, 0x55, 0x05, 0x2c]
    [0xc6, 0x97, 0x58, 0xee, 0xc2, 0x10, 0x57, 0x66, 0x00, 0x00, 0x00, 0x00, 0x00, 0x00, 0x00, 0x00]
    rfl rfl

/-- The same text under a key of 24 bytes: its padding is lost, and nothing comes back. -/
theorem not_aes_roundtrip : ¬ ∀ (C : Crypto) (B : Bytes → BlockCipher 16) (key m : Bytes),
    (∀ s, ∃ z, C.compress s = some z ∧ C.uncompress z s.length = some s) → aesKeyOk key = true →
    aesNouncompress (C.withCipher B) key (nocompressAes (C.withCipher B) key m) = some m := by
  intro h
  have hback := h zlibOfM (fun _ => aes192OfM) (ascii "0123456789abcdefghijklmn") (ascii "m")
    zlibOfM_inv (by decide)
  have hempty : aesNouncompress (zlibOfM.withCipher fun _ => aes192OfM)
      (ascii "0123456789abcdefghijklmn")
      (nocompressAes (zlibOfM.withCipher fun _ => aes192OfM) (ascii "0123456789abcdefghijklmn")
        (ascii "m")) = some [] := by decide +kernel
  rw [hempty] at hback
  cases hback

end MicroChat
