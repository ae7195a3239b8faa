import Mathlib.Data.List.Infix
import Mathlib.Data.List.TakeWhile
import Mathlib.Tactic.Common
import Mathlib.Tactic.Ring

/-!
# Support — Bytes

Byte strings as lists, and the operations of C and C++ strings that programs over them use:

* `ascii`: the bytes of a text written in the source.
* `cstr`: the part of a buffer a C string function sees, up to the first NUL.
* `substr`: `std::string::substr`, with `none` where the library throws `out_of_range`.
* `find`: `std::string::find`; `FirstAt`, `Between`: what it is used to find.
* `slice`: a `memcpy` out of a buffer, with `none` where it would read outside of it.
* `be`, `fromBe`: a number as a big-endian field of a given width, and back.
-/

namespace Support

abbrev Bytes := List UInt8

/-- The bytes of an ASCII text. -/
def ascii (s : String) : Bytes := s.toList.map fun c => UInt8.ofNat c.toNat

theorem ascii_lt {s : String} (h : (ascii s).all (· < 0x80) = true) : ∀ b ∈ ascii s, b < 0x80 := by
  simpa using h

/-! ### Strings -/

/-- The C string a buffer holds: its bytes up to the first NUL. -/
def cstr (s : Bytes) : Bytes := s.takeWhile (· ≠ 0)

theorem zero_notMem_cstr (s : Bytes) : (0 : UInt8) ∉ cstr s := fun h => by
  simpa using List.mem_takeWhile_imp h

theorem cstr_eq_self {s : Bytes} (h : (0 : UInt8) ∉ s) : cstr s = s :=
  List.takeWhile_eq_self_iff.mpr fun b hb => by
    simpa using fun e : b = 0 => h (e ▸ hb)

theorem cstr_eq_self_iff {s : Bytes} : cstr s = s ↔ (0 : UInt8) ∉ s :=
  ⟨fun h => h ▸ zero_notMem_cstr s, cstr_eq_self⟩

/-- `std::string::substr(pos, n)`; `none` is the `out_of_range` exception. -/
def substr (s : Bytes) (pos n : Nat) : Option Bytes :=
  if pos ≤ s.length then some ((s.drop pos).take n) else none

theorem substr_of_le {s : Bytes} {pos n : Nat} (h : pos ≤ s.length) :
    substr s pos n = some ((s.drop pos).take n) := if_pos h

/-- `std::string::find(text, pos)`, `none` for `npos`. -/
def find (s text : Bytes) (pos : Nat) : Option Nat :=
  ((s.drop pos).tails.findIdx? text.isPrefixOf).map (pos + ·)

/-- `text` stands in `s` at `i`, and nowhere before from `pos` on. -/
def FirstAt (text s : Bytes) (pos i : Nat) : Prop :=
  pos ≤ i ∧ text <+: s.drop i ∧ ∀ j, pos ≤ j → j < i → ¬ text <+: s.drop j

/-- `find` finds the first place. -/
theorem find_eq_some_iff {s text : Bytes} {pos i : Nat} :
    find s text pos = some i ↔ FirstAt text s pos i := by
  have hget {k : Nat} (hk : k < (s.drop pos).tails.length) :
      (s.drop pos).tails[k] = s.drop (pos + k) := by
    rw [List.getElem_tails, List.drop_drop]
  rw [find, Option.map_eq_some_iff]
  constructor
  · rintro ⟨k, hk, rfl⟩
    obtain ⟨hlt, hpre, hbefore⟩ := List.findIdx?_eq_some_iff_getElem.mp hk
    rw [hget] at hpre
    refine ⟨Nat.le_add_right pos k, List.isPrefixOf_iff_prefix.mp hpre, ?_⟩
    intro j hj hjk hat
    have hno := hbefore (j - pos) (by omega)
    rw [hget, Nat.add_sub_cancel' hj] at hno
    exact hno (List.isPrefixOf_iff_prefix.mpr hat)
  · rintro ⟨hle, hpre, hbefore⟩
    refine ⟨i - pos, List.findIdx?_eq_some_iff_getElem.mpr ⟨?_, ?_, ?_⟩, by omega⟩
    · -- behind the end only the empty text stands, and that stands at `pos` too
      rw [List.length_tails, List.length_drop]
      by_contra hout
      have hend : s.drop i = [] := List.drop_eq_nil_of_le (by omega)
      rw [hend, List.prefix_nil] at hpre
      exact hbefore pos (Nat.le_refl pos) (by omega) (hpre ▸ List.nil_prefix)
    · rw [hget, Nat.add_sub_cancel' hle]
      exact List.isPrefixOf_iff_prefix.mpr hpre
    · intro j hj hat
      rw [hget] at hat
      exact hbefore (pos + j) (Nat.le_add_right pos j) (by omega)
        (List.isPrefixOf_iff_prefix.mp hat)

theorem FirstAt.unique {s text : Bytes} {pos i j : Nat} (hi : FirstAt text s pos i)
    (hj : FirstAt text s pos j) : j = i := by
  have h := (find_eq_some_iff.mpr hi).symm.trans (find_eq_some_iff.mpr hj)
  exact (Option.some_inj.mp h).symm

/-- A text that stands in `s` ends in it. -/
theorem FirstAt.add_length_le {s text : Bytes} {pos i : Nat} (h : FirstAt text s pos i)
    (hne : text ≠ []) : i + text.length ≤ s.length := by
  have hle := h.2.1.length_le
  have hpos := List.length_pos_iff.mpr hne
  rw [List.length_drop] at hle
  omega

/-- `r` is what stands in `s` between the first `opening` and the first `closing` behind it. -/
def Between (opening closing s r : Bytes) : Prop :=
  ∃ i j, FirstAt opening s 0 i ∧ FirstAt closing s (i + opening.length) j ∧
    r = (s.drop (i + opening.length)).take (j - (i + opening.length))

/-- `n` bytes copied out of `s` from offset `pos`; `none` where the copy would leave `s`. -/
def slice (s : Bytes) (pos n : Nat) : Option Bytes :=
  if pos + n ≤ s.length then some ((s.drop pos).take n) else none

theorem slice_of_le {s : Bytes} {pos n : Nat} (h : pos + n ≤ s.length) :
    slice s pos n = some ((s.drop pos).take n) := if_pos h

theorem slice_isSome {s : Bytes} {pos n : Nat} : (slice s pos n).isSome ↔ pos + n ≤ s.length := by
  unfold slice
  split <;> simp_all

/-! ### Bytes as numbers -/

theorem toNat_ofNat_byte {n : Nat} (h : n < 256) : (UInt8.ofNat n).toNat = n := by
  rw [UInt8.toNat_ofNat']
  omega

/-- What holds of the 256 bytes one by one holds of every byte. -/
theorem forall_byte {P : UInt8 → Prop} (h : ∀ n : Fin 256, P (UInt8.ofFin n)) (b : UInt8) : P b :=
  h b.toFin

theorem toNat_and_127 (b : UInt8) : (b &&& 0x7f).toNat = b.toNat % 128 := by
  rw [UInt8.toNat_and]
  exact Nat.and_two_pow_sub_one_eq_mod b.toNat 7

theorem toNat_and_15 (b : UInt8) : (b &&& 0xF).toNat = b.toNat % 16 := by
  rw [UInt8.toNat_and]
  exact Nat.and_two_pow_sub_one_eq_mod b.toNat 4

theorem toNat_and_3 (b : UInt8) : (b &&& 0x3).toNat = b.toNat % 4 := by
  rw [UInt8.toNat_and]
  exact Nat.and_two_pow_sub_one_eq_mod b.toNat 2

theorem toNat_shr_2 (b : UInt8) : (b >>> 2).toNat = b.toNat / 4 := by
  rw [UInt8.toNat_shiftRight]
  exact Nat.shiftRight_eq_div_pow b.toNat 2

theorem toNat_shr_4 (b : UInt8) : (b >>> 4).toNat = b.toNat / 16 := by
  rw [UInt8.toNat_shiftRight]
  exact Nat.shiftRight_eq_div_pow b.toNat 4

theorem toNat_shr_7 (b : UInt8) : (b >>> 7).toNat = b.toNat / 128 := by
  rw [UInt8.toNat_shiftRight]
  exact Nat.shiftRight_eq_div_pow b.toNat 7

/-! ### Big-endian fields -/

/-- The low `k` bytes of `n`, most significant first. -/
def be : Nat → Nat → Bytes
  | 0, _ => []
  | k + 1, n => UInt8.ofNat (n / 256 ^ k) :: be k n

/-- The number a big-endian field holds. -/
def fromBe : Bytes → Nat
  | [] => 0
  | b :: bs => b.toNat * 256 ^ bs.length + fromBe bs

@[simp] theorem length_be (k n : Nat) : (be k n).length = k := by
  induction k with
  | zero => rfl
  | succ k ih => rw [be, List.length_cons, ih]

theorem fromBe_be (k n : Nat) : fromBe (be k n) = n % 256 ^ k := by
  induction k with
  | zero => rw [be, fromBe, pow_zero, Nat.mod_one]
  | succ k ih =>
      have hs : n % 256 ^ (k + 1) = n % 256 ^ k + 256 ^ k * (n / 256 ^ k % 256) := Nat.mod_pow_succ
      rw [be, fromBe, ih, length_be, UInt8.toNat_ofNat', hs]
      ring

end Support
