import Mathlib.Algebra.BigOperators.Group.Finset.Basic
import Mathlib.Algebra.BigOperators.Ring.Finset
import MicroChat.Support.Bytes

/-!
# Support — Varint

Numbers in base 128, least significant digit first, one digit a byte, the high bit of a byte
set on every digit but the last.

* `value`: the number a string of such bytes stands for; the high bits are ignored.
* `span cap s`: how many bytes of `s` a reader takes that stops after the first byte below 128
  and never takes more than `cap`.
* `encode`: the canonical (shortest) code of a number.
* `digits`, `addFlags`: the digits alone, and the high bits added to the first ones; on a number
  of `k + 1` digits the two make `encode` (`addFlags_digits`).

`span` and `value` are the least of three numbers and a sum (`span_eq_min`, `value_take`).
A reader of at least `(encode n).length` bytes takes exactly `encode n` off `encode n ++ rest`
(`span_encode_append`) and gets `n` (`value_encode`).
-/

namespace Support.Varint

def value : Bytes → Nat
  | [] => 0
  | b :: bs => b.toNat % 128 + 128 * value bs

def span : Nat → Bytes → Nat
  | 0, _ | _ + 1, [] => 0
  | cap + 1, b :: bs => if b.toNat < 128 then 1 else span cap bs + 1

/-- The code of `n`, for a number of digits the fuel allows. -/
def encodeFuel : Nat → Nat → Bytes
  | 0, _ => []
  | f + 1, n =>
      if n < 128 then [UInt8.ofNat n]
      else UInt8.ofNat (n % 128 + 128) :: encodeFuel f (n / 128)

/-- The canonical code of `n`. -/
def encode (n : Nat) : Bytes := encodeFuel (n + 1) n

/-- The low `k` digits of `n`, no high bit set. -/
def digits : Nat → Nat → Bytes
  | 0, _ => []
  | k + 1, n => UInt8.ofNat (n % 128) :: digits k (n / 128)

/-- The high bit added to the first `k` bytes. -/
def addFlags : Nat → Bytes → Bytes
  | 0, s => s
  | _ + 1, [] => []
  | k + 1, b :: s => (b + 0x80) :: addFlags k s

/-! ### The code, one digit at a time -/

theorem encodeFuel_eq : ∀ {f n : Nat}, n < f → encodeFuel f n = encode n
  | 0, _, h => absurd h (Nat.not_lt_zero _)
  | f + 1, n, h => by
      -- both sides recurse, and `encode n` starts from other fuel than `encodeFuel f n`
      unfold encode encodeFuel
      by_cases hn : n < 128
      · rw [if_pos hn, if_pos hn]
      · rw [if_neg hn, if_neg hn, encodeFuel_eq (f := f) (by omega),
          encodeFuel_eq (f := n) (by omega)]

theorem encode_of_lt {n : Nat} (h : n < 128) : encode n = [UInt8.ofNat n] := by
  rw [encode, encodeFuel, if_pos h]

theorem encode_of_ge {n : Nat} (h : 128 ≤ n) :
    encode n = UInt8.ofNat (n % 128 + 128) :: encode (n / 128) := by
  rw [encode, encodeFuel, if_neg (by omega), encodeFuel_eq (by omega)]

/-- Induction on the digits of a number. -/
theorem digit_induction {P : Nat → Prop} (lt : ∀ n < 128, P n)
    (ge : ∀ n, 128 ≤ n → P (n / 128) → P n) (n : Nat) : P n := by
  induction n using Nat.strongRecOn with
  | ind n ih =>
      by_cases h : n < 128
      · exact lt n h
      · exact ge n (by omega) (ih (n / 128) (by omega))

theorem encode_ne_nil (n : Nat) : encode n ≠ [] := by
  by_cases h : n < 128
  · rw [encode_of_lt h]; exact List.cons_ne_nil _ _
  · rw [encode_of_ge (by omega)]; exact List.cons_ne_nil _ _

theorem length_encode_pos (n : Nat) : 0 < (encode n).length :=
  List.length_pos_iff.mpr (encode_ne_nil n)

/-- `k + 1` digits are enough exactly for the numbers below `128^(k+1)`. -/
theorem length_encode_le_iff {k n : Nat} : (encode n).length ≤ k + 1 ↔ n < 128 ^ (k + 1) := by
  induction k generalizing n with
  | zero =>
      rw [zero_add, pow_one]
      by_cases h : n < 128
      · simp [encode_of_lt h, h]
      · have := length_encode_pos (n / 128)
        rw [encode_of_ge (by omega), List.length_cons]
        omega
  | succ k ih =>
      by_cases h : n < 128
      · have : 128 ≤ 128 ^ (k + 1 + 1) := Nat.le_self_pow (by omega) 128
        rw [encode_of_lt h, List.length_singleton]
        omega
      · rw [encode_of_ge (by omega), List.length_cons, Nat.add_le_add_iff_right, ih,
          Nat.div_lt_iff_lt_mul (by omega), pow_succ 128 (k + 1)]

/-! ### The code, digits first -/

theorem getElem?_digits : ∀ (k n i : Nat),
    (digits k n)[i]? = if i < k then some (UInt8.ofNat (n / 128 ^ i % 128)) else none
  | 0, _, _ => rfl
  | k + 1, n, 0 => by simp [digits]
  | k + 1, n, i + 1 => by
      rw [digits, List.getElem?_cons_succ, getElem?_digits k (n / 128) i, Nat.div_div_eq_div_mul,
        ← Nat.pow_succ']
      simp only [Nat.add_lt_add_iff_right]

theorem length_addFlags : ∀ (k : Nat) (s : Bytes), (addFlags k s).length = s.length
  | 0, _ | _ + 1, [] => rfl
  | k + 1, b :: s => by rw [addFlags, List.length_cons, length_addFlags k s, List.length_cons]

theorem take_addFlags : ∀ (m k : Nat) (s : Bytes), (addFlags k s).take m = addFlags k (s.take m)
  | 0, 0, _ | 0, _ + 1, [] | 0, _ + 1, _ :: _ | _ + 1, 0, _ | _ + 1, _ + 1, [] => rfl
  | m + 1, k + 1, b :: s => by
      rw [addFlags, List.take_succ_cons, take_addFlags m k s, List.take_succ_cons, addFlags]

theorem addFlags_digits {k n : Nat} (hle : k = 0 ∨ 128 ^ k ≤ n) (hlt : n < 128 ^ (k + 1)) :
    addFlags k (digits (k + 1) n) = encode n := by
  induction k generalizing n with
  | zero =>
      rw [zero_add, pow_one] at hlt
      rw [encode_of_lt hlt, digits, digits, addFlags, Nat.mod_eq_of_lt hlt]
  | succ k ih =>
      have hle : 128 ^ (k + 1) ≤ n := hle.resolve_left (Nat.succ_ne_zero k)
      have h128 : 128 ≤ n := (Nat.le_self_pow (Nat.succ_ne_zero k) 128).trans hle
      have hdiv : 128 ^ k ≤ n / 128 := by
        rwa [Nat.le_div_iff_mul_le (by omega), ← Nat.pow_succ]
      have hlt : n / 128 < 128 ^ (k + 1) := by
        rwa [Nat.div_lt_iff_lt_mul (by omega), ← Nat.pow_succ]
      have hb : UInt8.ofNat (n % 128) + 0x80 = UInt8.ofNat (n % 128 + 128) := by
        rw [UInt8.ofNat_add]
        rfl
      rw [digits, addFlags, hb, ih (.inr hdiv) hlt, encode_of_ge h128]

/-! ### Reading back -/

theorem value_encode (n : Nat) : value (encode n) = n := by
  induction n using digit_induction with
  | lt n h =>
      rw [encode_of_lt h, value, value, toNat_ofNat_byte (by omega)]
      omega
  | ge n h ih =>
      rw [encode_of_ge h, value, ih, toNat_ofNat_byte (by omega)]
      omega

theorem span_encode_append (n : Nat) : ∀ (cap : Nat) (rest : Bytes),
    (encode n).length ≤ cap → span cap (encode n ++ rest) = (encode n).length := by
  induction n using digit_induction with
  | lt n h =>
      rw [encode_of_lt h]
      rintro (_ | cap) rest hc
      · simp at hc
      · rw [List.singleton_append, span, toNat_ofNat_byte (by omega), if_pos h,
          List.length_singleton]
  | ge n h ih =>
      rw [encode_of_ge h]
      rintro (_ | cap) rest hc
      · simp at hc
      · rw [List.cons_append, span, toNat_ofNat_byte (by omega), if_neg (by omega),
          ih cap rest (by simpa using hc), List.length_cons]

/-! ### Bounds -/

theorem span_le_cap (cap : Nat) (s : Bytes) : span cap s ≤ cap := by
  induction cap generalizing s with
  | zero => exact Nat.le_refl 0
  | succ cap ih =>
      cases s with
      | nil => exact Nat.zero_le _
      | cons b bs =>
          have := ih bs
          rw [span]
          split <;> omega

theorem span_le_length (cap : Nat) (s : Bytes) : span cap s ≤ s.length := by
  induction cap generalizing s with
  | zero => exact Nat.zero_le _
  | succ cap ih =>
      cases s with
      | nil => exact Nat.le_refl 0
      | cons b bs =>
          have := ih bs
          rw [span, List.length_cons]
          split <;> omega

theorem span_pos {cap : Nat} {s : Bytes} (hc : 0 < cap) (hs : s ≠ []) : 0 < span cap s := by
  obtain ⟨cap, rfl⟩ := Nat.exists_eq_succ_of_ne_zero (by omega : cap ≠ 0)
  obtain ⟨b, bs, rfl⟩ := List.exists_cons_of_ne_nil hs
  rw [span]
  split <;> omega

theorem value_lt (s : Bytes) : value s < 128 ^ s.length := by
  induction s with
  | nil => exact Nat.one_pos
  | cons b bs ih =>
      have := Nat.mod_lt b.toNat (by omega : 0 < 128)
      rw [value, List.length_cons, pow_succ]
      omega

/-! ### Closed forms -/

/-- A reader takes the least of its bound, the length and the place behind the first byte below
128. -/
theorem span_eq_min (cap : Nat) (s : Bytes) :
    span cap s = min cap (min s.length (s.findIdx (· < 0x80) + 1)) := by
  induction cap generalizing s with
  | zero => rw [span, Nat.zero_min]
  | succ cap ih =>
      cases s with
      | nil => rw [span, List.length_nil, Nat.zero_min, Nat.min_zero]
      | cons b bs =>
          rw [span, List.findIdx_cons, List.length_cons]
          by_cases hb : b.toNat < 128
          · have hlow : decide (b < 0x80) = true := decide_eq_true hb
            rw [if_pos hb, hlow, cond_true]
            omega
          · have hhigh : decide (b < 0x80) = false := decide_eq_false hb
            rw [if_neg hb, hhigh, cond_false, ih]
            omega

theorem value_eq_sum (s : Bytes) :
    value s = ∑ i ∈ Finset.range s.length, (s.getD i 0).toNat % 128 * 128 ^ i := by
  induction s with
  | nil => rfl
  | cons b bs ih =>
      rw [value, ih, List.length_cons, Finset.sum_range_succ', Finset.mul_sum, Nat.add_comm]
      simp only [List.getD_cons_succ, List.getD_cons_zero, pow_zero, mul_one, pow_succ]
      congr 1
      refine Finset.sum_congr rfl fun i _ => ?_
      ring

/-- The value of the first `n` bytes, byte by byte. -/
theorem value_take {s : Bytes} {n : Nat} (h : n ≤ s.length) :
    value (s.take n) = ∑ i ∈ Finset.range n, (s.getD i 0).toNat % 128 * 128 ^ i := by
  rw [value_eq_sum, List.length_take, Nat.min_eq_left h]
  refine Finset.sum_congr rfl fun i hi => ?_
  rw [List.getD_eq_getElem?_getD, List.getD_eq_getElem?_getD,
    List.getElem?_take_of_lt (Finset.mem_range.mp hi)]

/-! ### Reading one number after another -/

/-- The number at the front of a text, of at most `cap` bytes, and what is left. -/
def read (cap : Nat) (s : Bytes) : Nat × Bytes :=
  (value (s.take (span cap s)), s.drop (span cap s))

theorem read_nil (cap : Nat) : read cap [] = (0, []) := by
  cases cap <;> rfl

theorem read_encode_append (n : Nat) {cap : Nat} (rest : Bytes) (h : (encode n).length ≤ cap) :
    read cap (encode n ++ rest) = (n, rest) := by
  rw [read, span_encode_append n cap rest h, List.take_left, List.drop_left, value_encode]

/-- A reader that looks at `cap` bytes only sees as many. -/
theorem span_take : ∀ (cap : Nat) (s : Bytes), span cap (s.take cap) = span cap s
  | 0, _ => rfl
  | _ + 1, [] => rfl
  | cap + 1, b :: bs => by rw [List.take_succ_cons, span, span, span_take cap bs]

end Support.Varint
