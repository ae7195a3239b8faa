import MicroChat.Business.Fun

/-!
# Business — VarintCode

What the two functions of `fun.cpp` for variable-length integers compute, against the base-128
code of `Support/Varint.lean`.

* `string2Dword_eq`: on a non-empty string the decoder takes `Varint.span 5` bytes and returns
  their base-128 value modulo `2^32`.
* `string2Dword_value`: the same as a sum over the bytes it consumes.
* `Dense`: the numbers the encoder's running threshold takes digit by digit.
* `dword2String_of_dense`, `length_dword2String_lt`: on a dense number the encoder's output is
  the canonical code; on any other it is shorter.
* `readDwords_iff`: reading back a list of encoded numbers, as the header parsers do, gives the
  numbers and stops where the codes end exactly when every number is dense.
-/

namespace MicroChat
open Support

/-! ### The decoder -/

theorem shr_7_eq_zero {c : UInt8} : c >>> 7 = 0 ↔ c.toNat < 128 := by
  rw [← UInt8.toNat_inj, toNat_shr_7, UInt8.toNat_zero]
  omega

theorem string2DwordLoop_eq (k : Nat) (str : Bytes) (dwRet dwTemp : UInt32) (nLen : Nat) :
    string2DwordLoop k str dwRet dwTemp nLen =
      (dwRet + UInt32.ofNat (Varint.value (str.take (Varint.span k str))) * dwTemp,
        nLen + Varint.span k str) := by
  induction k generalizing str dwRet dwTemp nLen with
  | zero => simp [string2DwordLoop, Varint.span, Varint.value]
  | succ k ih =>
      cases str with
      | nil => simp [string2DwordLoop, Varint.span, Varint.value]
      | cons c str =>
          rw [string2DwordLoop, Varint.span]
          by_cases hc : c.toNat < 128
          · have hv : UInt32.ofNat (Varint.value [c]) = c.toUInt32 := by
              rw [Varint.value, Varint.value, Nat.mul_zero, Nat.add_zero, Nat.mod_eq_of_lt hc]
              exact UInt32.ofNat_uInt8ToNat c
            rw [if_pos (shr_7_eq_zero.mpr hc), if_pos hc, List.take_succ_cons, List.take_zero, hv]
          · have hd : (c &&& 0x7f).toUInt32 = UInt32.ofNat (c.toNat % 128) := by
              rw [← toNat_and_127]
              exact (UInt32.ofNat_uInt8ToNat _).symm
            rw [if_neg (mt shr_7_eq_zero.mp hc), if_neg hc, List.take_succ_cons, Varint.value,
              ih str, hd, UInt32.ofNat_add, UInt32.ofNat_mul]
            refine Prod.ext ?_ (by simp only; omega)
            have h128 : UInt32.ofNat 128 = 0x80 := rfl
            simp only [h128]
            grind

/-- The decoder reads `Varint.span 5` bytes and returns their value modulo `2^32`. -/
theorem string2Dword_eq {str : Bytes} (h : str ≠ []) (dwOutLen : Nat) :
    string2Dword str dwOutLen =
      (UInt32.ofNat (Varint.value (str.take (Varint.span 5 str))), Varint.span 5 str) := by
  rw [string2Dword, if_neg (by simpa using h), string2DwordLoop_eq]
  refine Prod.ext ?_ (Nat.zero_add _)
  simp

theorem string2Dword_nil (dwOutLen : Nat) : string2Dword [] dwOutLen = (0, dwOutLen) := rfl

/-- The decoder reads back a canonical code, whatever follows it. -/
theorem string2Dword_encode {n : Nat} (h : n < 2 ^ 32) (rest : Bytes) (dwOutLen : Nat) :
    string2Dword (Varint.encode n ++ rest) dwOutLen =
      (UInt32.ofNat n, (Varint.encode n).length) := by
  have h5 : (Varint.encode n).length ≤ 5 := Varint.length_encode_le_iff.mpr (by omega)
  rw [string2Dword_eq (by simp [Varint.encode_ne_nil]), Varint.span_encode_append n 5 rest h5,
    List.take_left, Varint.value_encode]

/-- How many bytes of a string the decoder consumes: five, all of them, or up to the first one
below `80`. -/
def dwordLen (str : Bytes) : Nat := min 5 (min str.length (str.findIdx (· < 0x80) + 1))

/-- **The decoder computes the base-128 value** of the bytes it consumes, modulo `2^32`, and so
reads every canonical code back. -/
theorem string2Dword_value {str : Bytes} (h : str ≠ []) (dwOutLen : Nat) :
    (string2Dword str dwOutLen).2 = dwordLen str ∧
    (string2Dword str dwOutLen).1.toNat =
      (∑ i ∈ Finset.range (dwordLen str), (str.getD i 0).toNat % 128 * 128 ^ i) % 2 ^ 32 ∧
    ∀ (v : UInt32) (rest : Bytes), string2Dword (Varint.encode v.toNat ++ rest) dwOutLen =
      (v, (Varint.encode v.toNat).length) := by
  have hspan : Varint.span 5 str = dwordLen str := Varint.span_eq_min 5 str
  have hle : dwordLen str ≤ str.length := hspan ▸ Varint.span_le_length 5 str
  rw [string2Dword_eq h, hspan, Varint.value_take hle]
  refine ⟨rfl, UInt32.toNat_ofNat', ?_⟩
  intro v rest
  rw [string2Dword_encode v.toNat_lt, UInt32.ofNat_toNat]

/-- A code that is cut off after two bytes. -/
theorem string2Dword_value_cut :
    (string2Dword [0xac, 0x82] 7).2 = dwordLen [0xac, 0x82] ∧
    (string2Dword [0xac, 0x82] 7).1.toNat = (∑ i ∈ Finset.range (dwordLen [0xac, 0x82]),
      (([0xac, 0x82] : Bytes).getD i 0).toNat % 128 * 128 ^ i) % 2 ^ 32 ∧
    ∀ (v : UInt32) (rest : Bytes), string2Dword (Varint.encode v.toNat ++ rest) 7 =
      (v, (Varint.encode v.toNat).length) :=
  string2Dword_value (by decide) 7

/-! ### The encoder's running threshold -/

/-- Every base-128 digit of `n` above the lowest is non-zero, and the two lowest are not the
digits of 128. -/
def Dense (n : Nat) : Prop :=
  (∀ j, 128 ^ (j + 1) ≤ n → n / 128 ^ (j + 1) % 128 ≠ 0) ∧ (128 ≤ n → n % 16384 ≠ 128)

/-- A dense number is what every threshold of the encoder is strictly below. -/
theorem dense_iff {n : Nat} :
    Dense n ↔ ∀ j, 128 ^ (j + 1) ≤ n → 128 ^ (j + 1) < n % 128 ^ (j + 2) := by
  have split (j : Nat) : n % 128 ^ (j + 2) =
      n % 128 ^ (j + 1) + 128 ^ (j + 1) * (n / 128 ^ (j + 1) % 128) := Nat.mod_pow_succ
  constructor
  · rintro ⟨hd, h1⟩ j hj
    rw [split]
    have hq := hd j hj
    -- a digit 1 at `j + 1` needs something below it
    have hr : n / 128 ^ (j + 1) % 128 = 1 → 0 < n % 128 ^ (j + 1) := by
      intro e
      cases j with
      | zero =>
          have := h1 (by simpa using hj)
          have := split 0
          rw [e] at this
          simp only [Nat.zero_add, Nat.pow_one, Nat.mul_one] at this ⊢
          omega
      | succ j =>
          have hj' : 128 ^ (j + 1) ≤ n := (Nat.pow_le_pow_right (by omega) (by omega)).trans hj
          have hpos : 0 < 128 ^ (j + 1) * (n / 128 ^ (j + 1) % 128) :=
            Nat.mul_pos (Nat.pow_pos (by omega)) (Nat.pos_of_ne_zero (hd j hj'))
          rw [split j]
          omega
    rcases Nat.lt_or_ge (n / 128 ^ (j + 1) % 128) 2 with h | h
    · have e : n / 128 ^ (j + 1) % 128 = 1 := by omega
      have := hr e
      rw [e]
      omega
    · have := Nat.mul_le_mul_left (128 ^ (j + 1)) h
      have hp : 0 < 128 ^ (j + 1) := Nat.pow_pos (by omega)
      omega
  · intro h
    refine ⟨fun j hj e => ?_, fun h128 e => ?_⟩
    · have hlt := h j hj
      have := Nat.mod_lt n (Nat.pow_pos (n := j + 1) (by omega : 0 < 128))
      rw [split, e, Nat.mul_zero] at hlt
      omega
    · have := h 0 (by simpa using h128)
      simp only [Nat.zero_add, Nat.pow_one] at this
      omega

/-- How often `dwData > dwData2` succeeds from digit `k` down. -/
def thresholdCount : Nat → Nat → Nat
  | 0, _ => 0
  | k + 1, n =>
      if 128 ^ (k + 1) < n then thresholdCount k (n % 128 ^ (k + 1)) + 1 else thresholdCount k n

theorem thresholdCount_le (k n : Nat) : thresholdCount k n ≤ k := by
  induction k generalizing n with
  | zero => exact Nat.le_refl 0
  | succ k ih =>
      have h₁ := ih (n % 128 ^ (k + 1))
      have h₂ := ih n
      rw [thresholdCount]
      split <;> omega

theorem thresholdCount_skip {t n : Nat} (hn : n < 128 ^ (t + 1)) : ∀ {k : Nat}, t ≤ k →
    thresholdCount k n = thresholdCount t n
  | 0, h => by rw [Nat.le_zero.mp h]
  | k + 1, h => by
      rcases Nat.eq_or_lt_of_le h with rfl | h
      · rfl
      · have : 128 ^ (t + 1) ≤ 128 ^ (k + 1) := Nat.pow_le_pow_right (by omega) (by omega)
        rw [thresholdCount, if_neg (by omega), thresholdCount_skip hn (by omega)]

theorem mod_mod_weight {n j k : Nat} (h : j ≤ k) : n % 128 ^ k % 128 ^ j = n % 128 ^ j :=
  Nat.mod_mod_of_dvd n (Nat.pow_dvd_pow 128 h)

/-- On a number of at most `k + 1` digits every threshold succeeds or the count falls short. -/
theorem thresholdCount_eq_iff {k n : Nat} (hn : n < 128 ^ (k + 1)) :
    thresholdCount k n = k ↔ ∀ j < k, 128 ^ (j + 1) < n % 128 ^ (j + 2) := by
  induction k generalizing n with
  | zero => simp [thresholdCount]
  | succ k ih =>
      have htop : n % 128 ^ (k + 2) = n := Nat.mod_eq_of_lt hn
      rw [thresholdCount]
      split
      · rename_i h
        have hlt : n % 128 ^ (k + 1) < 128 ^ (k + 1) := Nat.mod_lt _ (Nat.pow_pos (by omega))
        rw [Nat.add_right_cancel_iff, ih hlt]
        refine ⟨fun hj j hjk => ?_, fun hj j hjk => ?_⟩
        · rcases Nat.eq_or_lt_of_le (Nat.le_of_lt_succ hjk) with rfl | hjk
          · rwa [htop]
          · rw [← mod_mod_weight (by omega : j + 2 ≤ k + 1)]
            exact hj j hjk
        · rw [mod_mod_weight (by omega : j + 2 ≤ k + 1)]
          exact hj j (by omega)
      · rename_i h
        have := thresholdCount_le k n
        refine ⟨fun e => by omega, fun hj => absurd (hj k (by omega)) ?_⟩
        rwa [htop]

/-! ### The encoder -/

theorem toNat_weight {k : Nat} (h : k ≤ 4) : (UInt32.ofNat (128 ^ k)).toNat = 128 ^ k :=
  UInt32.toNat_ofNat_of_lt' ((Nat.pow_le_pow_right (by omega) h).trans_lt (by decide))

theorem weight_div {k : Nat} (h : k < 4) :
    UInt32.ofNat (128 ^ (k + 1)) / 0x80 = UInt32.ofNat (128 ^ k) := by
  rw [← UInt32.toNat_inj, UInt32.toNat_div, toNat_weight (by omega), toNat_weight (by omega),
    Nat.pow_succ]
  exact Nat.mul_div_cancel _ (by decide)

theorem lt_weight {k : Nat} {d : UInt32} (h : k ≤ 4) :
    d > UInt32.ofNat (128 ^ k) ↔ 128 ^ k < d.toNat := by
  rw [gt_iff_lt, UInt32.lt_iff_toNat_lt, toNat_weight h]

/-- The loop moves its counter by the thresholds that succeed and keeps `hex` five bytes
long. -/
theorem dword2StringLoop_count {k : Nat} (d : UInt32) (hex : Bytes) (n : Nat) (hk : k ≤ 4) :
    (dword2StringLoop k d (UInt32.ofNat (128 ^ k)) hex n).2.2 = n + thresholdCount k d.toNat ∧
      (dword2StringLoop k d (UInt32.ofNat (128 ^ k)) hex n).2.1.length = hex.length := by
  induction k generalizing d hex n with
  | zero => exact ⟨rfl, rfl⟩
  | succ k ih =>
      rw [dword2StringLoop, thresholdCount, weight_div (by omega)]
      by_cases h : d > UInt32.ofNat (128 ^ (k + 1))
      · have hd : (d % UInt32.ofNat (128 ^ (k + 1))).toNat = d.toNat % 128 ^ (k + 1) := by
          rw [UInt32.toNat_mod, toNat_weight hk]
        obtain ⟨h₁, h₂⟩ := ih (d % UInt32.ofNat (128 ^ (k + 1)))
          (hex.set (k + 1) (d / UInt32.ofNat (128 ^ (k + 1))).toUInt8) (n + 1) (by omega)
        rw [if_pos h, if_pos ((lt_weight hk).mp h), h₁, h₂, hd, List.length_set]
        exact ⟨by omega, rfl⟩
      · rw [if_neg h, if_neg (mt (lt_weight hk).mpr h)]
        exact ih d hex n (by omega)

theorem dword2StringLoop_skip {t : Nat} {d : UInt32} (hd : d.toNat < 128 ^ (t + 1)) (hex : Bytes)
    (n : Nat) : ∀ {k : Nat}, t ≤ k → k ≤ 4 →
      dword2StringLoop k d (UInt32.ofNat (128 ^ k)) hex n =
        dword2StringLoop t d (UInt32.ofNat (128 ^ t)) hex n
  | 0, h, _ => by rw [Nat.le_zero.mp h]
  | k + 1, h, hk => by
      rcases Nat.eq_or_lt_of_le h with rfl | h
      · rfl
      · have : 128 ^ (t + 1) ≤ 128 ^ (k + 1) := Nat.pow_le_pow_right (by omega) (by omega)
        rw [dword2StringLoop, if_neg (mt (lt_weight hk).mp (by omega)), weight_div (by omega),
          dword2StringLoop_skip hd hex n (by omega) (by omega)]

theorem mod_div_weight {n i t : Nat} (h : i ≤ t) :
    n % 128 ^ (t + 1) / 128 ^ i % 128 = n / 128 ^ i % 128 := by
  obtain ⟨r, rfl⟩ := Nat.exists_eq_add_of_le h
  rw [Nat.add_assoc, Nat.pow_add, Nat.mod_mul_right_div_self]
  exact Nat.mod_mod_of_dvd _ (Dvd.intro_left (128 ^ r) (Nat.pow_succ ..).symm)

/-- When every threshold succeeds, the loop leaves the digits of `d` in `hex`. -/
theorem dword2StringLoop_full {t : Nat} {d : UInt32} {hex : Bytes} {n : Nat} (ht : t ≤ 4)
    (hd : d.toNat < 128 ^ (t + 1)) (hj : ∀ j < t, 128 ^ (j + 1) < d.toNat % 128 ^ (j + 2))
    (hlen : t < hex.length) :
    ∃ d' hex', dword2StringLoop t d (UInt32.ofNat (128 ^ t)) hex n = (d', hex', n + t) ∧
      d'.toNat = d.toNat % 128 ∧ hex'.length = hex.length ∧
      ∀ i, hex'[i + 1]? =
        if i < t then some (UInt8.ofNat (d.toNat / 128 ^ (i + 1) % 128)) else hex[i + 1]? := by
  induction t generalizing d hex n with
  | zero =>
      exact ⟨d, hex, rfl, (Nat.mod_eq_of_lt (by simpa using hd)).symm, rfl, fun _ => rfl⟩
  | succ t ih =>
      have htop := hj t (by omega)
      rw [Nat.mod_eq_of_lt hd] at htop
      have hmod : (d % UInt32.ofNat (128 ^ (t + 1))).toNat = d.toNat % 128 ^ (t + 1) := by
        rw [UInt32.toNat_mod, toNat_weight ht]
      have hq : (d / UInt32.ofNat (128 ^ (t + 1))).toUInt8 =
          UInt8.ofNat (d.toNat / 128 ^ (t + 1) % 128) := by
        have : d.toNat / 128 ^ (t + 1) < 128 := by
          rw [Nat.div_lt_iff_lt_mul (Nat.pow_pos (by omega)), ← Nat.pow_succ']; exact hd
        rw [← UInt8.toNat_inj, UInt32.toNat_toUInt8, UInt32.toNat_div, toNat_weight ht,
          UInt8.toNat_ofNat', Nat.mod_eq_of_lt this]
      have hlow : (d % UInt32.ofNat (128 ^ (t + 1))).toNat < 128 ^ (t + 1) := by
        rw [hmod]
        exact Nat.mod_lt _ (Nat.pow_pos (by omega))
      have hjlow : ∀ j < t,
          128 ^ (j + 1) < (d % UInt32.ofNat (128 ^ (t + 1))).toNat % 128 ^ (j + 2) := by
        intro j hjt
        rw [hmod, mod_mod_weight (by omega)]
        exact hj j (by omega)
      obtain ⟨d', hex', hl, hd', hlen', hget⟩ := @ih (d % UInt32.ofNat (128 ^ (t + 1)))
        (hex.set (t + 1) (d / UInt32.ofNat (128 ^ (t + 1))).toUInt8) (n + 1) (by omega) hlow hjlow
        (by rw [List.length_set]; omega)
      refine ⟨d', hex', ?_, ?_, by rw [hlen', List.length_set], fun i => ?_⟩
      · rw [dword2StringLoop, if_pos ((lt_weight ht).mpr htop), weight_div (by omega), hl]
        exact congrArg _ (congrArg _ (by omega))
      · rw [hd', hmod, ← Nat.pow_one 128, mod_mod_weight (by omega)]
      · rw [hget i, hmod, List.getElem?_set]
        rcases Nat.lt_trichotomy i t with h | rfl | h
        · rw [if_pos h, if_pos (by omega), mod_div_weight (by omega)]
        · rw [if_neg (by omega), if_pos rfl, if_pos (by omega), if_pos (by omega), hq]
        · rw [if_neg (by omega), if_neg (by omega), if_neg (by omega)]

theorem toNat_lt_digits (dw : UInt32) : dw.toNat < 128 ^ (4 + 1) :=
  dw.toNat_lt.trans (by decide)

/-- The number of digits of a `DWORD`, less one. -/
theorem exists_top (dw : UInt32) : ∃ t ≤ 4, (t = 0 ∨ 128 ^ t ≤ dw.toNat) ∧
    dw.toNat < 128 ^ (t + 1) ∧ (Varint.encode dw.toNat).length = t + 1 := by
  obtain ⟨t, ht⟩ := Nat.exists_eq_succ_of_ne_zero
    (Nat.ne_of_gt (Varint.length_encode_pos dw.toNat))
  refine ⟨t, ?_, ?_, Varint.length_encode_le_iff.mp (Nat.le_of_eq ht), ht⟩
  · have := Varint.length_encode_le_iff.mpr (toNat_lt_digits dw)
    omega
  · cases t with
    | zero => exact .inl rfl
    | succ t =>
        refine .inr (Nat.le_of_not_lt fun h => ?_)
        have := Varint.length_encode_le_iff.mpr h
        omega

theorem length_dword2String (dw : UInt32) :
    (dword2String dw).length = thresholdCount 4 dw.toNat + 1 := by
  obtain ⟨h₁, h₂⟩ := dword2StringLoop_count dw [0, 0, 0, 0, 0] 0 (Nat.le_refl 4)
  have hle := thresholdCount_le 4 dw.toNat
  change (List.take (_ + 1) (Varint.addFlags _ _)).length = _
  rw [List.length_take, Varint.length_addFlags, List.length_set]
  change min ((dword2StringLoop 4 dw (UInt32.ofNat (128 ^ 4)) [0, 0, 0, 0, 0] 0).2.2 + 1)
    (dword2StringLoop 4 dw (UInt32.ofNat (128 ^ 4)) [0, 0, 0, 0, 0] 0).2.1.length = _
  rw [h₁, h₂]
  simp only [List.length_cons, List.length_nil]
  omega

/-- The thresholds that fail below the top digit are the digits missing from the output. -/
theorem dense_iff_thresholdCount {n t : Nat} (ht : t = 0 ∨ 128 ^ t ≤ n) (hn : n < 128 ^ (t + 1)) :
    Dense n ↔ thresholdCount t n = t := by
  rw [dense_iff, thresholdCount_eq_iff hn]
  refine ⟨fun h j hj => h j ?_, fun h j hj => h j ?_⟩
  · exact (Nat.pow_le_pow_right (by omega) (by omega)).trans (ht.resolve_left (by omega))
  · have := (Nat.pow_lt_pow_iff_right (by omega : 1 < 128)).mp (hj.trans_lt hn)
    omega

/-- **The encoder on a dense number** writes the canonical code. -/
theorem dword2String_of_dense {dw : UInt32} (h : Dense dw.toNat) :
    dword2String dw = Varint.encode dw.toNat := by
  obtain ⟨t, ht4, htop, hlt, -⟩ := exists_top dw
  have hj := (thresholdCount_eq_iff hlt).mp ((dense_iff_thresholdCount htop hlt).mp h)
  obtain ⟨d', hex', hl, hd', hlen, hget⟩ :=
    @dword2StringLoop_full t dw [0, 0, 0, 0, 0] 0 ht4 hlt hj (by simp; omega)
  have hloop : dword2StringLoop 4 dw (0x80 * 0x80 * 0x80 * 0x80) [0, 0, 0, 0, 0] 0 =
      (d', hex', 0 + t) :=
    (dword2StringLoop_skip hlt _ _ ht4 (Nat.le_refl 4)).trans hl
  rw [dword2String, hloop]
  simp only [Nat.zero_add, Nat.add_sub_cancel]
  rw [Varint.take_addFlags, ← Varint.addFlags_digits htop hlt]
  congr 1
  -- the first `t + 1` entries of `hex` are the digits
  refine List.ext_getElem? ?_
  intro i
  rw [Varint.getElem?_digits, List.getElem?_take]
  split
  · cases i with
    | zero =>
        have : 0 < hex'.length := by rw [hlen]; decide
        have hb : d'.toUInt8 = UInt8.ofNat (dw.toNat / 128 ^ 0 % 128) := by
          rw [← UInt8.toNat_inj, UInt32.toNat_toUInt8, hd', UInt8.toNat_ofNat', Nat.pow_zero,
            Nat.div_one]
        rw [List.getElem?_set_self this, hb]
    | succ i =>
        rw [List.getElem?_set_ne (by omega), hget i, if_pos (by omega)]
  · rfl

/-- **The encoder on any other number** writes fewer bytes than the number has digits. -/
theorem length_dword2String_lt {dw : UInt32} (h : ¬ Dense dw.toNat) :
    (dword2String dw).length < (Varint.encode dw.toNat).length := by
  obtain ⟨t, ht4, htop, hlt, he⟩ := exists_top dw
  have hle := thresholdCount_le t dw.toNat
  have hne := mt (dense_iff_thresholdCount htop hlt).mpr h
  rw [length_dword2String, thresholdCount_skip hlt ht4, he]
  omega

theorem length_dword2String_le (dw : UInt32) :
    (dword2String dw).length ≤ (Varint.encode dw.toNat).length := by
  by_cases h : Dense dw.toNat
  · rw [dword2String_of_dense h]
  · exact Nat.le_of_lt (length_dword2String_lt h)

theorem length_dword2String_pos (dw : UInt32) : 0 < (dword2String dw).length := by
  rw [length_dword2String]
  exact Nat.succ_pos _

theorem length_dword2String_le_five (dw : UInt32) : (dword2String dw).length ≤ 5 := by
  have := thresholdCount_le 4 dw.toNat
  rw [length_dword2String]
  omega

/-! ### Reading a list back -/

/-- `n` numbers read one after another, and the cursor after the last. -/
def readDwords : Nat → Bytes → Nat → Nat → Option (List UInt32 × Nat)
  | 0, _, nCur, _ => some ([], nCur)
  | n + 1, pack, nCur, dwLen => do
      let (dw, nCur, dwLen) ← readDword pack nCur dwLen
      let (dws, nCur) ← readDwords n pack nCur dwLen
      return (dw :: dws, nCur)

theorem readDword_eq {pack : Bytes} {nCur : Nat} (h : nCur ≤ pack.length) (dwLen : Nat) :
    readDword pack nCur dwLen =
      let r := string2Dword ((pack.drop nCur).take 5) dwLen
      some (r.1, nCur + r.2, r.2) := by
  rw [readDword, substr_of_le h]
  rfl

/-- The reader stands on a canonical code: it reads the number and moves behind it. -/
theorem readDword_encode {pack rest : Bytes} {nCur : Nat} {dw : UInt32} (h : nCur ≤ pack.length)
    (hp : pack.drop nCur = Varint.encode dw.toNat ++ rest) (dwLen : Nat) :
    readDword pack nCur dwLen =
      some (dw, nCur + (Varint.encode dw.toNat).length, (Varint.encode dw.toNat).length) := by
  have h5 : (Varint.encode dw.toNat).length ≤ 5 :=
    Varint.length_encode_le_iff.mpr (toNat_lt_digits dw)
  rw [readDword_eq h, hp, List.take_append, List.take_of_length_le h5,
    string2Dword_encode dw.toNat_lt, UInt32.ofNat_toNat]

/-- Inside of the packet a number is read as `Varint.read` does. -/
theorem readDword_read {pack : Bytes} {nCur : Nat} (h : nCur < pack.length) (dwLen : Nat) :
    readDword pack nCur dwLen =
      some (UInt32.ofNat (Varint.read 5 (pack.drop nCur)).1,
        nCur + Varint.span 5 (pack.drop nCur), Varint.span 5 (pack.drop nCur)) := by
  have hne : (pack.drop nCur).take 5 ≠ [] := by
    rw [Ne, List.take_eq_nil_iff, List.drop_eq_nil_iff]
    omega
  rw [readDword_eq (Nat.le_of_lt h), string2Dword_eq hne, Varint.span_take, List.take_take,
    Nat.min_eq_left (Varint.span_le_cap 5 _)]
  rfl

/-- Whatever stands at the cursor, a number is read out of at least as many bytes as its
canonical code has.  Past the end the number is 0 and `dwLen` stays, so that is true there only
once some number has been read. -/
theorem readDword_moves {pack : Bytes} {nCur dwLen nCur' dwLen' : Nat} {dw : UInt32}
    (h : readDword pack nCur dwLen = some (dw, nCur', dwLen'))
    (hd : nCur < pack.length ∨ 0 < dwLen) :
    nCur + (Varint.encode dw.toNat).length ≤ nCur' ∧ 0 < dwLen' := by
  have hle : nCur ≤ pack.length := by
    refine Nat.le_of_not_lt ?_
    intro hlt
    rw [readDword, substr, if_neg (by omega)] at h
    cases h
  rw [readDword_eq hle] at h
  rcases Nat.eq_or_lt_of_le hle with he | hlt
  · rw [he, List.drop_length, List.take_nil, string2Dword_nil] at h
    cases h
    change nCur + 1 ≤ pack.length + dwLen ∧ 0 < dwLen
    omega
  · have hne : (pack.drop nCur).take 5 ≠ [] := by
      rw [Ne, List.take_eq_nil_iff, List.drop_eq_nil_iff]
      omega
    rw [string2Dword_eq hne] at h
    cases h
    have hs := Varint.span_pos (by omega : 0 < 5) hne
    refine ⟨Nat.add_le_add_left ?_ nCur, hs⟩
    -- the value fits in the bytes it was read from, and the remainder of it still does
    obtain ⟨k, hk⟩ := Nat.exists_eq_succ_of_ne_zero (Nat.ne_of_gt hs)
    have hv := Varint.value_lt (((pack.drop nCur).take 5).take
      (Varint.span 5 ((pack.drop nCur).take 5)))
    rw [List.length_take_of_le (Varint.span_le_length _ _), hk] at hv
    rw [hk]
    refine Varint.length_encode_le_iff.mpr (Nat.lt_of_le_of_lt ?_ hv)
    rw [UInt32.toNat_ofNat']
    exact Nat.mod_le _ _

theorem readDwords_moves {n : Nat} {pack : Bytes} {nCur dwLen nCur' : Nat} {dws : List UInt32}
    (h : readDwords n pack nCur dwLen = some (dws, nCur')) (hd : nCur < pack.length ∨ 0 < dwLen) :
    nCur + (dws.flatMap fun dw => Varint.encode dw.toNat).length ≤ nCur' := by
  induction n generalizing nCur dwLen nCur' dws with
  | zero =>
      cases h
      exact Nat.le_refl nCur
  | succ n ih =>
      rw [readDwords, Option.bind_eq_bind, Option.bind_eq_some_iff] at h
      obtain ⟨⟨dw, nCur₁, dwLen₁⟩, h₁, h⟩ := h
      rw [Option.bind_eq_bind, Option.bind_eq_some_iff] at h
      obtain ⟨⟨dws₁, nCur₂⟩, h₂, h⟩ := h
      cases h
      obtain ⟨hm, hpos⟩ := readDword_moves h₁ hd
      have := ih h₂ (.inr hpos)
      rw [List.flatMap_cons, List.length_append]
      omega

/-- The codes written are no longer than the canonical ones, and as long only where every number
is dense. -/
theorem length_flatMap_dword2String_le (vs : List UInt32) :
    (vs.flatMap dword2String).length ≤ (vs.flatMap fun v => Varint.encode v.toNat).length := by
  induction vs with
  | nil => exact Nat.le_refl 0
  | cons v vs ih =>
      rw [List.flatMap_cons, List.flatMap_cons, List.length_append, List.length_append]
      exact Nat.add_le_add (length_dword2String_le v) ih

theorem dense_of_length_le {vs : List UInt32}
    (h : (vs.flatMap fun v => Varint.encode v.toNat).length ≤ (vs.flatMap dword2String).length) :
    ∀ v ∈ vs, Dense v.toNat := by
  induction vs with
  | nil => simp
  | cons v vs ih =>
      rw [List.flatMap_cons, List.flatMap_cons, List.length_append, List.length_append] at h
      have hv := length_dword2String_le v
      have hvs := length_flatMap_dword2String_le vs
      refine List.forall_mem_cons.mpr ⟨?_, ih (by omega)⟩
      by_contra hn
      have := length_dword2String_lt hn
      omega

theorem readDwords_of_dense {vs : List UInt32} (h : ∀ v ∈ vs, Dense v.toNat) (pre rest : Bytes)
    (dwLen : Nat) :
    readDwords vs.length (pre ++ vs.flatMap dword2String ++ rest) pre.length dwLen =
      some (vs, pre.length + (vs.flatMap dword2String).length) := by
  induction vs generalizing pre dwLen with
  | nil => rfl
  | cons v vs ih =>
      obtain ⟨hv, hvs⟩ := List.forall_mem_cons.mp h
      have hd : (pre ++ (v :: vs).flatMap dword2String ++ rest).drop pre.length =
          Varint.encode v.toNat ++ (vs.flatMap dword2String ++ rest) := by
        rw [List.append_assoc, List.drop_left, List.flatMap_cons, dword2String_of_dense hv,
          List.append_assoc]
      have hnext := ih hvs (pre ++ Varint.encode v.toNat) (Varint.encode v.toNat).length
      have hlist : pre ++ Varint.encode v.toNat ++ vs.flatMap dword2String ++ rest =
          pre ++ (v :: vs).flatMap dword2String ++ rest := by
        rw [List.flatMap_cons, dword2String_of_dense hv, List.append_assoc pre]
      rw [hlist, List.length_append] at hnext
      rw [List.length_cons, readDwords,
        readDword_encode (by simp only [List.length_append]; omega) hd]
      simp only [Option.bind_eq_bind, Option.bind_some, hnext]
      rw [List.flatMap_cons, List.length_append, dword2String_of_dense hv]
      exact congrArg some (Prod.ext rfl (Nat.add_assoc ..))

/-- **Reading a list of codes back** gives the numbers and ends where the codes end exactly when
every number is dense. -/
theorem readDwords_iff (vs : List UInt32) (rest : Bytes) :
    readDwords vs.length (vs.flatMap dword2String ++ rest) 0 0 =
      some (vs, (vs.flatMap dword2String).length) ↔ ∀ v ∈ vs, Dense v.toNat := by
  constructor
  · intro h
    cases vs with
    | nil => simp
    | cons v vs =>
        have hpos : 0 < ((v :: vs).flatMap dword2String ++ rest).length := by
          have := length_dword2String_pos v
          rw [List.flatMap_cons, List.length_append, List.length_append]
          omega
        have := readDwords_moves h (.inl hpos)
        exact dense_of_length_le (by omega)
  · intro h
    simpa using readDwords_of_dense h [] rest 0

/-- 128 is written as the single byte `80`, which runs into whatever follows. -/
theorem readDwords_128 : ¬ ∀ (vs : List UInt32) (rest : Bytes),
    readDwords vs.length (vs.flatMap dword2String ++ rest) 0 0 =
      some (vs, (vs.flatMap dword2String).length) := fun h =>
  absurd (h [128] []) (by decide)

end MicroChat
