import Mathlib.Algebra.Group.Fin.Basic
import Mathlib.Algebra.Group.Units.Equiv
import Mathlib.Data.List.DropRight
import Mathlib.Data.List.FinRange
import Mathlib.Logic.Function.Basic
import Mathlib.Tactic.Common

/-!
# Support — Ring

A ring of slots that is written in turn, as the last elements of a history.

* `ringList`: the slots, the oldest first.
* `ringList_write`: the oldest makes room for what is written.
* `countP_ringList`: what the slots hold, in any order.
* `countP_rtake_replicate`, `countP_rtake_le`: what the last elements say of a history.
-/

namespace Support

variable {α : Type*} {n : Nat}

/-! ### Slots -/

/-- The slots of a ring from `next` on, the one that is to be written next. -/
def ringList (slots : Fin (n + 1) → α) (next : Fin (n + 1)) : List α :=
  List.ofFn fun i => slots (next + i)

/-- Slots that all hold the same. -/
theorem ringList_const (a : α) (next : Fin (n + 1)) :
    ringList (fun _ => a) next = List.replicate (n + 1) a := List.ofFn_const _ a

/-- **A write.** -/
theorem ringList_write (slots : Fin (n + 1) → α) (next : Fin (n + 1)) (a : α) :
    ringList (Function.update slots next a) (next + 1) = (ringList slots next).tail ++ [a] := by
  rw [ringList, ringList, List.ofFn_succ', List.ofFn_succ, List.tail_cons, List.concat_eq_append]
  congr 1
  · congr 1
    funext i
    have hnext : next + 1 + i.castSucc = next + i.succ := by
      rw [add_assoc, add_comm 1, Fin.coeSucc_eq_succ]
    have hne : next + i.succ ≠ next := fun h => Fin.succ_ne_zero i (add_eq_left.mp h)
    rw [hnext, Function.update_of_ne hne]
  · have hlast : next + 1 + Fin.last n = next := by
      rw [add_assoc, add_comm 1, Fin.last_add_one, add_zero]
    rw [hlast, Function.update_self]

theorem countP_ringList (p : α → Bool) (slots : Fin (n + 1) → α) (next : Fin (n + 1)) :
    (ringList slots next).countP p = (List.finRange (n + 1)).countP fun i => p (slots i) := by
  have hperm := Equiv.Perm.map_finRange_perm (Equiv.addLeft next)
  rw [ringList, List.ofFn_eq_map, List.countP_map, ← hperm.countP_eq fun i => p (slots i),
    List.countP_map]
  rfl

/-! ### Histories -/

/-- One element more. -/
theorem rtake_append_singleton {l : List α} {k : Nat} (hk : k + 1 ≤ l.length) (a : α) :
    (l ++ [a]).rtake (k + 1) = (l.rtake (k + 1)).tail ++ [a] := by
  rw [List.rtake_concat_succ, List.rtake, List.rtake, List.tail_drop]
  congr 2
  omega

/-- Elements that a history is filled up with are not counted. -/
theorem countP_rtake_replicate {p : α → Bool} {a : α} (ha : p a = false) (l : List α) (k : Nat) :
    ((List.replicate k a ++ l).rtake k).countP p = (l.rtake k).countP p := by
  rw [List.rtake, List.rtake, List.length_append, List.length_replicate, Nat.add_sub_cancel_left,
    List.drop_append, List.drop_replicate, List.countP_append, List.countP_replicate, ha,
    List.length_replicate]
  simp

/-- A part of a history. -/
theorem countP_rtake_le {l l' : List α} (h : l <:+ l') (p : α → Bool) (k : Nat) :
    (l.rtake k).countP p ≤ (l'.rtake k).countP p := by
  obtain ⟨l₀, rfl⟩ := h
  have hsuffix : l.rtake k <:+ (l₀ ++ l).rtake k := by
    rw [List.rtake, List.rtake, List.length_append, List.drop_append]
    by_cases hk : k ≤ l.length
    · have hdrop : l₀.length + l.length - k - l₀.length = l.length - k := by omega
      rw [hdrop]
      exact List.suffix_append _ _
    · have hzero : l.length - k = 0 := by omega
      have hdrop : l₀.length + l.length - k - l₀.length = 0 := by omega
      rw [hzero, hdrop]
      exact List.suffix_append _ _
  exact hsuffix.sublist.countP_le

end Support
