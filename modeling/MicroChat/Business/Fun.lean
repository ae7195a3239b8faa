import MicroChat.Support.Varint

/-!
# Business — Fun

`MicroChatSDK/Business/fun.cpp`: the variable-length integers of the packet headers and the hex
text of keys.

A `DWORD` is a `UInt32`; a `std::string` is its bytes.  `dwOutLen` is an in-out reference in the
source and stays one here: an empty string leaves it as it was.

* `hex2bin_bin2Hex`, `hex2bin_relayout`: hex text reads back, as it was written and under any other
  layout.
-/

namespace MicroChat
open Support

/-! ### Variable-length integers -/

/-- `Dword2String`'s `while` loop.  `nLen` is the digit in hand and `dwData2` its weight; the
digits go into `hex` from the top. -/
def dword2StringLoop : Nat → UInt32 → UInt32 → Bytes → Nat → UInt32 × Bytes × Nat
  | 0, dwData, _, hex, dwOutLen => (dwData, hex, dwOutLen)
  | nLen + 1, dwData, dwData2, hex, dwOutLen =>
      if dwData > dwData2 then
        dword2StringLoop nLen (dwData % dwData2) (dwData2 / 0x80)
          (hex.set (nLen + 1) (dwData / dwData2).toUInt8) (dwOutLen + 1)
      else dword2StringLoop nLen dwData (dwData2 / 0x80) hex dwOutLen

/-- `string Dword2String(DWORD dw)`. -/
def dword2String (dw : UInt32) : Bytes :=
  let (dwData, hex, dwOutLen) :=
    dword2StringLoop 4 dw (0x80 * 0x80 * 0x80 * 0x80) [0, 0, 0, 0, 0] 0
  let hex := hex.set 0 dwData.toUInt8
  let dwOutLen := dwOutLen + 1
  (Varint.addFlags (dwOutLen - 1) hex).take dwOutLen

/-- `String2Dword`'s `while` loop, for the iterations left of five, over the rest of the
string. -/
def string2DwordLoop : Nat → Bytes → UInt32 → UInt32 → Nat → UInt32 × Nat
  | 0, _, dwRet, _, nLen | _ + 1, [], dwRet, _, nLen => (dwRet, nLen)
  | k + 1, c :: str, dwRet, dwTemp, nLen =>
      if c >>> 7 = 0 then (dwRet + c.toUInt32 * dwTemp, nLen + 1)
      else string2DwordLoop k str (dwRet + (c &&& 0x7f).toUInt32 * dwTemp) (dwTemp * 0x80)
        (nLen + 1)

/-- `DWORD String2Dword(string str, DWORD &dwOutLen)`: the number read, and `dwOutLen`
afterwards. -/
def string2Dword (str : Bytes) (dwOutLen : Nat) : UInt32 × Nat :=
  if str.length = 0 then (0, dwOutLen) else string2DwordLoop 5 str 0 1 0

/-- The header parsers' `String2Dword(pack.substr(nCur, 5), dwLen); nCur += dwLen;`: the number,
`nCur` and `dwLen` afterwards; `none` where `substr` throws. -/
def readDword (pack : Bytes) (nCur dwLen : Nat) : Option (UInt32 × Nat × Nat) := do
  let str ← substr pack nCur 5
  let (dw, dwLen) := string2Dword str dwLen
  return (dw, nCur + dwLen, dwLen)

/-! ### Hex text -/

/-- `"%02x "` of one byte. -/
def hexByte (b : UInt8) : Bytes :=
  let digit (n : Nat) : UInt8 := UInt8.ofNat (if n < 10 then 0x30 + n else 0x61 + (n - 10))
  [digit (b.toNat / 16), digit (b.toNat % 16), 0x20]

/-- `string Bin2Hex(string &strBin)`. -/
def bin2Hex (strBin : Bytes) : Bytes := strBin.flatMap hexByte

/-- The characters of a hex text. -/
theorem mem_bin2Hex {strBin : Bytes} {c : UInt8} (h : c ∈ bin2Hex strBin) :
    c ∈ ascii "0123456789abcdef " := by
  have hbyte : ∀ b : UInt8, (hexByte b).all (· ∈ ascii "0123456789abcdef ") = true :=
    forall_byte (by decide +kernel)
  obtain ⟨b, -, hc⟩ := List.mem_flatMap.mp h
  simpa using List.all_eq_true.mp (hbyte b) c hc

theorem zero_notMem_bin2Hex (strBin : Bytes) : (0 : UInt8) ∉ bin2Hex strBin :=
  fun h => absurd (mem_bin2Hex h) (by decide)

/-- The value of a lower-case hex digit. -/
def hexDigit (c : UInt8) : Option Nat :=
  if 0x30 ≤ c ∧ c ≤ 0x39 then some (c.toNat - 0x30)
  else if 0x61 ≤ c ∧ c ≤ 0x66 then some (c.toNat - 0x61 + 10)
  else none

/-- `Hex2bin`'s `while` loop: pairs of characters off the front of `strHex`, a pair with a bad
digit skipped without moving `dwCur`. -/
def hex2binLoop : Bytes → Bytes → Nat → Bytes
  | [], strRet, _ | [_], strRet, _ => strRet
  | a :: b :: strHex, strRet, dwCur =>
      match hexDigit a, hexDigit b with
      | some hi, some lo =>
          hex2binLoop strHex (strRet.set dwCur (UInt8.ofNat (hi * 16 + lo))) (dwCur + 1)
      | _, _ => hex2binLoop strHex strRet dwCur

/-- `CStringA::MakeLower` of one character. -/
def toLower (c : UInt8) : UInt8 := if 0x41 ≤ c ∧ c ≤ 0x5a then c + 0x20 else c

/-- `string Hex2bin(CStringA strHex)`. -/
def hex2bin (strHex : Bytes) : Bytes :=
  let strHex := ((cstr strHex).filter (· ≠ 0x20)).map toLower
  hex2binLoop strHex (List.replicate (strHex.length / 2) 0) 0

theorem length_bin2Hex (strBin : Bytes) : (bin2Hex strBin).length = 3 * strBin.length := by
  induction strBin with
  | nil => rfl
  | cons b strBin ih =>
      rw [bin2Hex, List.flatMap_cons, List.length_append, List.length_cons]
      change 3 + (bin2Hex strBin).length = _
      omega

/-- The two digits of a byte read back as the byte. -/
theorem hexByte_digits (b : UInt8) : ∃ hi lo, hexByte b = [hi, lo, 0x20] ∧ hi ≠ 0x20 ∧ lo ≠ 0x20 ∧
    toLower hi = hi ∧ toLower lo = lo ∧
    ∃ h l, hexDigit hi = some h ∧ hexDigit lo = some l ∧ UInt8.ofNat (h * 16 + l) = b := by
  have hdigit : ∀ n < 16, let d := UInt8.ofNat (if n < 10 then 0x30 + n else 0x61 + (n - 10))
      d ≠ 0x20 ∧ toLower d = d ∧ hexDigit d = some n := by decide
  have hb : b.toNat < 256 := b.toNat_lt
  obtain ⟨hhi, hlow, hval⟩ := hdigit (b.toNat / 16) (by omega)
  obtain ⟨hlo, hlow', hval'⟩ := hdigit (b.toNat % 16) (by omega)
  refine ⟨_, _, rfl, hhi, hlo, hlow, hlow', _, _, hval, hval', ?_⟩
  rw [Nat.div_add_mod', UInt8.ofNat_toNat]

/-- The digits of a hex text: what `Hex2bin` goes through. -/
theorem filter_bin2Hex (b : UInt8) (strBin : Bytes) {hi lo : UInt8}
    (h : hexByte b = [hi, lo, 0x20]) (hhi : hi ≠ 0x20) (hlo : lo ≠ 0x20)
    (hlow : toLower hi = hi) (hlow' : toLower lo = lo) :
    ((bin2Hex (b :: strBin)).filter (· ≠ 0x20)).map toLower =
      hi :: lo :: ((bin2Hex strBin).filter (· ≠ 0x20)).map toLower := by
  rw [bin2Hex, List.flatMap_cons, h]
  simp [hhi, hlo, hlow, hlow', bin2Hex]

theorem hex2binLoop_bin2Hex (strBin done : Bytes) :
    hex2binLoop (((bin2Hex strBin).filter (· ≠ 0x20)).map toLower)
      (done ++ List.replicate strBin.length 0) done.length = done ++ strBin := by
  induction strBin generalizing done with
  | nil => simp [bin2Hex, hex2binLoop]
  | cons b strBin ih =>
      obtain ⟨hi, lo, hb, hhi, hlo, hlow, hlow', h, l, hh, hl, hval⟩ := hexByte_digits b
      rw [filter_bin2Hex b strBin hb hhi hlo hlow hlow', hex2binLoop, hh, hl]
      dsimp only
      rw [hval, List.length_cons, List.replicate_succ, List.set_append_right _ _ (Nat.le_refl _),
        Nat.sub_self, List.set_cons_zero]
      simpa using ih (done ++ [b])

/-- Two digits for each byte, once the blanks are gone. -/
theorem length_digits_bin2Hex (strBin : Bytes) :
    (((bin2Hex strBin).filter (· ≠ 0x20)).map toLower).length = 2 * strBin.length := by
  induction strBin with
  | nil => rfl
  | cons b strBin ih =>
      obtain ⟨hi, lo, hb, hhi, hlo, hlow, hlow', -⟩ := hexByte_digits b
      rw [filter_bin2Hex b strBin hb hhi hlo hlow hlow', List.length_cons, List.length_cons, ih,
        List.length_cons]
      omega

/-- **Hex text reads back** as the bytes it was made of. -/
theorem hex2bin_bin2Hex (strBin : Bytes) : hex2bin (bin2Hex strBin) = strBin := by
  rw [hex2bin, cstr_eq_self (zero_notMem_bin2Hex strBin), length_digits_bin2Hex,
    Nat.mul_div_cancel_left _ (by decide)]
  exact hex2binLoop_bin2Hex strBin []

/-! ### Layouts -/

/-- The texts that changing the case of letters, and putting blanks in and taking them out, makes
of `strHex`. -/
inductive Relayout (strHex : Bytes) : Bytes → Prop where
  | same : Relayout strHex strHex
  | insert {s t : Bytes} (h : Relayout strHex (s ++ t)) : Relayout strHex (s ++ 0x20 :: t)
  | delete {s t : Bytes} (h : Relayout strHex (s ++ 0x20 :: t)) : Relayout strHex (s ++ t)
  | upper {s t : Bytes} {c : UInt8} (h : Relayout strHex (s ++ c :: t))
      (hc : 0x61 ≤ c ∧ c ≤ 0x7a) : Relayout strHex (s ++ (c - 0x20) :: t)
  | lower {s t : Bytes} {c : UInt8} (h : Relayout strHex (s ++ c :: t))
      (hc : 0x41 ≤ c ∧ c ≤ 0x5a) : Relayout strHex (s ++ (c + 0x20) :: t)

/-- What `Hex2bin` makes of a text before it goes through it. -/
def hexDigits (strHex : Bytes) : Bytes := (strHex.filter (· ≠ 0x20)).map toLower

theorem hexDigits_append (s t : Bytes) : hexDigits (s ++ t) = hexDigits s ++ hexDigits t := by
  rw [hexDigits, List.filter_append, List.map_append, hexDigits, hexDigits]

theorem hexDigits_cons {c : UInt8} (hc : c ≠ 0x20) (t : Bytes) :
    hexDigits (c :: t) = toLower c :: hexDigits t := by
  rw [hexDigits, List.filter_cons_of_pos (by simpa using hc), List.map_cons, hexDigits]

theorem hexDigits_blank (t : Bytes) : hexDigits (0x20 :: t) = hexDigits t := by
  rw [hexDigits, List.filter_cons_of_neg (by simp), hexDigits]

/-- The two cases of a letter are read alike, and are neither blanks nor NULs. -/
theorem letter_cases :
    (∀ c : UInt8, 0x61 ≤ c ∧ c ≤ 0x7a → toLower (c - 0x20) = toLower c ∧
      c - 0x20 ≠ 0x20 ∧ c ≠ 0x20 ∧ c - 0x20 ≠ 0) ∧
    ∀ c : UInt8, 0x41 ≤ c ∧ c ≤ 0x5a → toLower (c + 0x20) = toLower c ∧
      c + 0x20 ≠ 0x20 ∧ c ≠ 0x20 ∧ c + 0x20 ≠ 0 :=
  ⟨forall_byte (by decide +kernel), forall_byte (by decide +kernel)⟩

/-- A blank more or less. -/
theorem hexDigits_insert (s t : Bytes) : hexDigits (s ++ 0x20 :: t) = hexDigits (s ++ t) ∧
    ((0 : UInt8) ∉ s ++ 0x20 :: t ↔ (0 : UInt8) ∉ s ++ t) := by
  have h20 : (0 : UInt8) ≠ 0x20 := by decide
  constructor
  · rw [hexDigits_append, hexDigits_blank, hexDigits_append]
  · simp only [List.mem_append, List.mem_cons, h20, false_or]

/-- A letter for another that is read alike. -/
theorem hexDigits_replace {c c' : UInt8} (hlow : toLower c' = toLower c) (hne' : c' ≠ 0x20)
    (hne : c ≠ 0x20) (h0 : c' ≠ 0) (s t : Bytes) :
    hexDigits (s ++ c' :: t) = hexDigits (s ++ c :: t) ∧
      ((0 : UInt8) ∉ s ++ c :: t → (0 : UInt8) ∉ s ++ c' :: t) := by
  constructor
  · rw [hexDigits_append, hexDigits_cons hne', hlow, hexDigits_append, hexDigits_cons hne]
  · intro h
    simp only [List.mem_append, List.mem_cons, not_or] at h ⊢
    exact ⟨h.1, h0.symm, h.2.2⟩

/-- A change of layout leaves the digits, and makes no NUL. -/
theorem Relayout.hexDigits_eq {strHex t : Bytes} (h : Relayout strHex t) :
    hexDigits t = hexDigits strHex ∧ ((0 : UInt8) ∉ strHex → (0 : UInt8) ∉ t) := by
  induction h with
  | same => exact ⟨rfl, id⟩
  | @insert s t _ ih =>
      obtain ⟨hblank, hzero⟩ := hexDigits_insert s t
      exact ⟨hblank.trans ih.1, fun h0 => hzero.mpr (ih.2 h0)⟩
  | @delete s t _ ih =>
      obtain ⟨hblank, hzero⟩ := hexDigits_insert s t
      exact ⟨hblank.symm.trans ih.1, fun h0 => hzero.mp (ih.2 h0)⟩
  | @upper s t c _ hc ih =>
      obtain ⟨hlow, hne', hne, h0⟩ := letter_cases.1 c hc
      obtain ⟨hletter, hzero⟩ := hexDigits_replace hlow hne' hne h0 s t
      exact ⟨hletter.trans ih.1, fun h0 => hzero (ih.2 h0)⟩
  | @lower s t c _ hc ih =>
      obtain ⟨hlow, hne', hne, h0⟩ := letter_cases.2 c hc
      obtain ⟨hletter, hzero⟩ := hexDigits_replace hlow hne' hne h0 s t
      exact ⟨hletter.trans ih.1, fun h0 => hzero (ih.2 h0)⟩

/-- **Hex text reads back under any layout**, byte for byte and with nothing behind. -/
theorem hex2bin_relayout {strBin strHex : Bytes} (h : Relayout (bin2Hex strBin) strHex) :
    hex2bin strHex = strBin ∧ (hex2bin strHex).length = strBin.length := by
  obtain ⟨hdigits, hzero⟩ := h.hexDigits_eq
  have h0 : (0 : UInt8) ∉ strHex := hzero (zero_notMem_bin2Hex strBin)
  have heq : hex2bin strHex = hex2bin (bin2Hex strBin) := by
    rw [hex2bin, hex2bin, cstr_eq_self h0, cstr_eq_self (zero_notMem_bin2Hex strBin)]
    exact congrArg (fun t => hex2binLoop t (List.replicate (t.length / 2) 0) 0) hdigits
  have hback : hex2bin strHex = strBin := heq.trans (hex2bin_bin2Hex strBin)
  exact ⟨hback, congrArg List.length hback⟩

/-- `3c 0a ` written as `3C0 a`. -/
theorem hex2bin_relayout_3c0a : hex2bin (ascii "3C0 a") = [0x3c, 0x0a] ∧
    (hex2bin (ascii "3C0 a")).length = ([0x3c, 0x0a] : Bytes).length :=
  hex2bin_relayout (.insert (s := ascii "3C0") (t := ascii "a")
    (.delete (s := ascii "3C0a") (t := [])
      (.delete (s := ascii "3C") (t := ascii "0a ")
        (.upper (s := ascii "3") (t := ascii " 0a ") (c := 0x63) .same (by decide)))))

end MicroChat
