import MicroChat.Support.Bytes

/-!
# Support — Utf16

UTF-16 text as a list of code units, and the UTF-8 bytes of it: a surrogate pair is one
character, a surrogate on its own becomes `U+FFFD`.

* `toUtf8_append_ascii`: an ASCII character cuts a text in two that convert on their own.
* `mem_toUtf8`: the ASCII bytes of the result are the ASCII units of the text.
-/

namespace Support.Utf16

abbrev Wide := List UInt16

/-- The wide form of ASCII bytes. -/
def ofAscii (s : Bytes) : Wide := s.map UInt8.toUInt16

/-- The wide string a buffer holds: its units up to the first zero. -/
def wcstr (s : Wide) : Wide := s.takeWhile (· ≠ 0)

theorem zero_notMem_wcstr (s : Wide) : (0 : UInt16) ∉ wcstr s := fun h => by
  simpa using List.mem_takeWhile_imp h

theorem wcstr_eq_self {s : Wide} (h : (0 : UInt16) ∉ s) : wcstr s = s :=
  List.takeWhile_eq_self_iff.mpr fun u hu => by
    simpa using fun e : u = 0 => h (e ▸ hu)

theorem zero_notMem_ofAscii {s : Bytes} (h : (0 : UInt8) ∉ s) : (0 : UInt16) ∉ ofAscii s := by
  intro hmem
  obtain ⟨b, hb, he⟩ := List.mem_map.mp hmem
  have hzero : b = 0 := by
    rw [← UInt8.toNat_inj, ← UInt8.toNat_toUInt16, he]
    rfl
  exact h (hzero ▸ hb)

def isHigh (u : UInt16) : Bool := 0xd800 ≤ u && u < 0xdc00

def isLow (u : UInt16) : Bool := 0xdc00 ≤ u && u < 0xe000

/-- A continuation byte, of the low six bits. -/
def tail (n : Nat) : UInt8 := UInt8.ofNat (0x80 + n % 64)

/-- A unit that is not half of a pair. -/
def encodeUnit (u : UInt16) : Bytes :=
  if u < 0x80 then [u.toUInt8]
  else if u < 0x800 then [UInt8.ofNat (0xc0 + u.toNat / 64), tail u.toNat]
  else if isHigh u || isLow u then [0xef, 0xbf, 0xbd]
  else [UInt8.ofNat (0xe0 + u.toNat / 4096), tail (u.toNat / 64), tail u.toNat]

/-- A surrogate pair. -/
def encodePair (u v : UInt16) : Bytes :=
  let n := 0x10000 + (u.toNat - 0xd800) * 0x400 + (v.toNat - 0xdc00)
  [UInt8.ofNat (0xf0 + n / 262144 % 8), tail (n / 4096), tail (n / 64), tail n]

def toUtf8 : Wide → Bytes
  | [] => []
  | [u] => encodeUnit u
  | u :: v :: s =>
      if isHigh u && isLow v then encodePair u v ++ toUtf8 s else encodeUnit u ++ toUtf8 (v :: s)

/-! ### ASCII characters -/

theorem encodeUnit_ascii {u : UInt16} (h : u < 0x80) : encodeUnit u = [u.toUInt8] := if_pos h

theorem isLow_ascii {u : UInt16} (h : u < 0x80) : isLow u = false := by
  have : ¬ (0xdc00 ≤ u) := by
    rw [UInt16.not_le]
    exact UInt16.lt_trans h (by decide)
  simp [isLow, this]

theorem isHigh_ascii {u : UInt16} (h : u < 0x80) : isHigh u = false := by
  have : ¬ (0xd800 ≤ u) := by
    rw [UInt16.not_le]
    exact UInt16.lt_trans h (by decide)
  simp [isHigh, this]

/-- What does not begin a pair is converted on its own. -/
theorem toUtf8_cons {u : UInt16} (h : isHigh u = false) (s : Wide) :
    toUtf8 (u :: s) = encodeUnit u ++ toUtf8 s := by
  cases s with
  | nil => exact (List.append_nil _).symm
  | cons v s => rw [toUtf8, h, Bool.false_and, if_neg (by decide)]

theorem toUtf8_cons_ascii {u : UInt16} (h : u < 0x80) (s : Wide) :
    toUtf8 (u :: s) = u.toUInt8 :: toUtf8 s := by
  rw [toUtf8_cons (isHigh_ascii h), encodeUnit_ascii h]
  rfl

/-- An ASCII character never joins the text before it. -/
theorem toUtf8_append_ascii {u : UInt16} (h : u < 0x80) (s t : Wide) :
    toUtf8 (s ++ u :: t) = toUtf8 s ++ u.toUInt8 :: toUtf8 t := by
  induction s using toUtf8.induct with
  | case1 => exact toUtf8_cons_ascii h t
  | case2 v =>
      rw [List.singleton_append, toUtf8, toUtf8, isLow_ascii h, Bool.and_false,
        if_neg (by decide), toUtf8_cons_ascii h]
  | case3 v w s hp ih =>
      rw [List.cons_append, List.cons_append, toUtf8, if_pos hp, ih, toUtf8, if_pos hp,
        List.append_assoc]
  | case4 v w s hp ih =>
      rw [List.cons_append] at ih
      rw [List.cons_append, List.cons_append, toUtf8, if_neg hp, ih, toUtf8, if_neg hp,
        List.append_assoc]

theorem toUInt16_lt {b : UInt8} (h : b < 0x80) : b.toUInt16 < 0x80 := by
  rw [UInt16.lt_iff_toNat_lt, UInt8.toNat_toUInt16]
  exact UInt8.lt_iff_toNat_lt.mp h

/-- ASCII text comes back as it was, in front of anything. -/
theorem toUtf8_ofAscii_append {s : Bytes} (h : ∀ b ∈ s, b < 0x80) (t : Wide) :
    toUtf8 (ofAscii s ++ t) = s ++ toUtf8 t := by
  induction s with
  | nil => rfl
  | cons b s ih =>
      obtain ⟨hb, hs⟩ := List.forall_mem_cons.mp h
      rw [ofAscii, List.map_cons, List.cons_append, toUtf8_cons_ascii (toUInt16_lt hb),
        UInt8.toUInt8_toUInt16, List.cons_append]
      exact congrArg _ (ih hs)

theorem toUtf8_ofAscii {s : Bytes} (h : ∀ b ∈ s, b < 0x80) : toUtf8 (ofAscii s) = s := by
  have := toUtf8_ofAscii_append h []
  rwa [List.append_nil, toUtf8, List.append_nil] at this

/-- ASCII text between two others keeps them apart, unless it is empty. -/
theorem toUtf8_append_ofAscii {s : Bytes} (h : ∀ b ∈ s, b < 0x80) (hne : s ≠ []) (w t : Wide) :
    toUtf8 (w ++ (ofAscii s ++ t)) = toUtf8 w ++ (s ++ toUtf8 t) := by
  obtain ⟨b, s, rfl⟩ := List.exists_cons_of_ne_nil hne
  obtain ⟨hb, hs⟩ := List.forall_mem_cons.mp h
  rw [ofAscii, List.map_cons, List.cons_append, toUtf8_append_ascii (toUInt16_lt hb),
    UInt8.toUInt8_toUInt16, ← ofAscii, toUtf8_ofAscii_append hs, List.cons_append]

/-! ### The ASCII bytes of a converted text -/

theorem toNat_tail (n : Nat) : 128 ≤ (tail n).toNat := by
  rw [tail, toNat_ofNat_byte (by omega)]
  omega

/-- A unit beyond ASCII is written in bytes beyond ASCII. -/
theorem encodeUnit_high {u : UInt16} (h : ¬ u < 0x80) : ∀ b ∈ encodeUnit u, 128 ≤ b.toNat := by
  have hu := u.toNat_lt
  rw [encodeUnit, if_neg h]
  split
  · rename_i h₂
    have h₂ : u.toNat < 2048 := UInt16.lt_iff_toNat_lt.mp h₂
    simp only [List.mem_cons, List.not_mem_nil, or_false, forall_eq_or_imp, forall_eq]
    refine ⟨?_, toNat_tail _⟩
    rw [toNat_ofNat_byte (by omega)]
    omega
  · split
    · simp
    · simp only [List.mem_cons, List.not_mem_nil, or_false, forall_eq_or_imp, forall_eq]
      refine ⟨?_, toNat_tail _, toNat_tail _⟩
      rw [toNat_ofNat_byte (by omega)]
      omega

theorem encodePair_high (u v : UInt16) : ∀ b ∈ encodePair u v, 128 ≤ b.toNat := by
  simp only [encodePair, List.mem_cons, List.not_mem_nil, or_false, forall_eq_or_imp, forall_eq]
  refine ⟨?_, toNat_tail _, toNat_tail _, toNat_tail _⟩
  rw [toNat_ofNat_byte (by omega)]
  omega

/-- **The ASCII bytes of a converted text** are its ASCII units. -/
theorem mem_toUtf8 {b : UInt8} (hb : b < 0x80) (s : Wide) :
    b ∈ toUtf8 s ↔ b.toUInt16 ∈ s := by
  have hb' : b.toNat < 128 := UInt8.lt_iff_toNat_lt.mp hb
  have unit (u : UInt16) : b ∈ encodeUnit u ↔ b.toUInt16 = u := by
    by_cases hu : u < 0x80
    · have hu' : u.toNat < 128 := UInt16.lt_iff_toNat_lt.mp hu
      rw [encodeUnit_ascii hu, List.mem_singleton, ← UInt8.toNat_inj, ← UInt16.toNat_inj,
        UInt8.toNat_toUInt16, UInt16.toNat_toUInt8]
      omega
    · refine ⟨fun h => absurd (encodeUnit_high hu b h) (by omega), ?_⟩
      rintro rfl
      exact absurd (toUInt16_lt hb) hu
  induction s using toUtf8.induct with
  | case1 => rw [toUtf8]; simp
  | case2 u => rw [toUtf8, unit, List.mem_singleton]
  | case3 u v s hp ih =>
      have hne (w : UInt16) (h : w = u ∨ w = v) : b.toUInt16 ≠ w := by
        rw [Bool.and_eq_true] at hp
        rintro rfl
        rcases h with rfl | rfl
        · rw [isHigh_ascii (toUInt16_lt hb)] at hp
          exact absurd hp.1 (by decide)
        · rw [isLow_ascii (toUInt16_lt hb)] at hp
          exact absurd hp.2 (by decide)
      have hpair : b ∉ encodePair u v := fun h => absurd (encodePair_high u v b h) (by omega)
      simp only [toUtf8, if_pos hp, List.mem_append, ih, List.mem_cons, hpair,
        hne u (.inl rfl), hne v (.inr rfl), false_or]
  | case4 u v s hp ih =>
      simp only [toUtf8, if_neg hp, List.mem_append, ih, unit, List.mem_cons]

theorem zero_notMem_toUtf8 {s : Wide} (h : (0 : UInt16) ∉ s) : (0 : UInt8) ∉ toUtf8 s :=
  fun h0 => h ((mem_toUtf8 (by decide) s).mp h0)

end Support.Utf16
