import MicroChat.Support.Bytes

/-!
# Support — Tiles

Texts cut into consecutive pieces.

* `Tiles a b segs`: the segments, each an offset and a length, lie one behind the other from `a`
  to `b`.
* `Tiles.of_bounds`: the segments between the values of a function that does not decrease.
* `Tiles.flatMap_slices`: the pieces of a text at the segments, put together.
* `pieces`: pieces of one length off the front, and `pieces_flatten`: how they come back.
-/

namespace Support

/-- The segments lie one behind the other from `a` to `b`. -/
inductive Tiles : Nat → Nat → List (Nat × Nat) → Prop where
  | nil (a : Nat) : Tiles a a []
  | cons {a b len : Nat} {segs : List (Nat × Nat)} (t : Tiles (a + len) b segs) :
      Tiles a b ((a, len) :: segs)

namespace Tiles
variable {a b : Nat} {segs : List (Nat × Nat)}

theorem le (h : Tiles a b segs) : a ≤ b := by
  induction h with
  | nil => exact Nat.le_refl _
  | cons _ ih => exact (Nat.le_add_right _ _).trans ih

theorem cons_iff {p len : Nat} : Tiles a b ((p, len) :: segs) ↔ p = a ∧ Tiles (a + len) b segs := by
  constructor
  · intro h
    cases h with
    | cons t => exact ⟨rfl, t⟩
  · rintro ⟨rfl, t⟩
    exact .cons t

/-- Every segment lies between the two ends. -/
theorem mem_le (h : Tiles a b segs) {s : Nat × Nat} (hs : s ∈ segs) :
    a ≤ s.1 ∧ s.1 + s.2 ≤ b := by
  induction h with
  | nil => cases hs
  | cons t ih =>
      rcases List.mem_cons.mp hs with rfl | hs
      · exact ⟨Nat.le_refl _, t.le⟩
      · exact ⟨(Nat.le_add_right _ _).trans (ih hs).1, (ih hs).2⟩

/-- The segments from one value of `g` to the next. -/
theorem of_bounds (g : Nat → Nat) (hg : ∀ i, g i ≤ g (i + 1)) (n i : Nat) :
    Tiles (g i) (g (i + n)) ((List.range' i n).map fun j => (g j, g (j + 1) - g j)) := by
  induction n generalizing i with
  | zero => exact .nil _
  | succ n ih =>
      have hnext : g i + (g (i + 1) - g i) = g (i + 1) := Nat.add_sub_cancel' (hg i)
      rw [List.range'_succ, List.map_cons]
      refine .cons ?_
      rw [hnext, Nat.add_comm n 1, ← Nat.add_assoc]
      exact ih (i + 1)

/-- **The pieces put together** are what lies between the ends. -/
theorem flatMap_slices {α : Type*} (s : List α) (h : Tiles a b segs) :
    segs.flatMap (fun seg => (s.drop seg.1).take seg.2) = (s.drop a).take (b - a) := by
  induction h with
  | nil a => rw [List.flatMap_nil, Nat.sub_self, List.take_zero]
  | @cons a b len segs t ih =>
      have hle := t.le
      have hsum : b - a = len + (b - (a + len)) := by omega
      rw [List.flatMap_cons, ih, hsum, List.take_add, List.drop_drop]

end Tiles

/-! ### Pieces of one length -/

/-- `k` pieces of `n` bytes off the front. -/
def pieces (n : Nat) : Nat → Bytes → List Bytes
  | 0, _ => []
  | k + 1, s => s.take n :: pieces n k (s.drop n)

section
variable {n : Nat} {cs : List Bytes}

theorem length_flatten_of_length (h : ∀ c ∈ cs, c.length = n) :
    cs.flatten.length = cs.length * n := by
  induction cs with
  | nil => simp
  | cons c cs ih =>
      obtain ⟨hc, hcs⟩ := List.forall_mem_cons.mp h
      rw [List.flatten_cons, List.length_append, ih hcs, hc, List.length_cons, Nat.succ_mul,
        Nat.add_comm]

/-- A text made of pieces of `n` bytes is cut into these pieces. -/
theorem pieces_flatten (h : ∀ c ∈ cs, c.length = n) : pieces n cs.length cs.flatten = cs := by
  induction cs with
  | nil => rfl
  | cons c cs ih =>
      obtain ⟨hc, hcs⟩ := List.forall_mem_cons.mp h
      have hhead : (c ++ cs.flatten).take n = c := List.take_left' hc
      have htail : (c ++ cs.flatten).drop n = cs.flatten := List.drop_left' hc
      change (c ++ cs.flatten).take n :: pieces n cs.length ((c ++ cs.flatten).drop n) = c :: cs
      rw [hhead, htail, ih hcs]

end

end Support
