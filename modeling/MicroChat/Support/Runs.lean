import Mathlib.Logic.Function.Basic
import Mathlib.Tactic.Common

/-!
# Support — Runs

Systems that take one step after another, as a set of initial states and a labelled step relation:

* `Reachable`: the states of all runs.
* `Reachable.invariant`: what holds initially and survives every step holds in every state.
* `Reachable.map`: the states of one system that another one, with more steps or less to a state,
  reaches as well.
* `of_update_eq_some`: the entries of a table, once one has been written.
-/

namespace Support

variable {σ τ ε : Type*}

/-- The states a run comes through. -/
inductive Reachable (init : σ → Prop) (step : σ → ε → σ → Prop) : σ → Prop where
  | start {s : σ} (h : init s) : Reachable init step s
  | next {s s' : σ} {e : ε} (h : Reachable init step s) (hs : step s e s') :
      Reachable init step s'

variable {init : σ → Prop} {step : σ → ε → σ → Prop}

/-- **Invariants.** -/
theorem Reachable.invariant (inv : σ → Prop) (hinit : ∀ s, init s → inv s)
    (hstep : ∀ s e s', inv s → step s e s' → inv s') {s : σ} (h : Reachable init step s) :
    inv s := by
  induction h with
  | start h => exact hinit _ h
  | next _ hs ih => exact hstep _ _ _ ih hs

/-- Runs mapped to runs. -/
theorem Reachable.map {init' : τ → Prop} {step' : τ → ε → τ → Prop} (f : σ → τ)
    (hinit : ∀ s, init s → init' (f s)) (hstep : ∀ s e s', step s e s' → step' (f s) e (f s'))
    {s : σ} (h : Reachable init step s) : Reachable init' step' (f s) := by
  induction h with
  | start h => exact .start (hinit _ h)
  | next _ hs ih => exact ih.next (hstep _ _ _ hs)

/-! ### Tables -/

section
variable {ι β : Type*} [DecidableEq ι] {m : ι → Option β} {i j : ι} {b : β}

/-- An entry that is found once one has been written. -/
theorem of_update_eq_some {o : Option β} (h : Function.update m i o j = some b) :
    j = i ∧ o = some b ∨ j ≠ i ∧ m j = some b := by
  by_cases he : j = i
  · subst he
    rw [Function.update_self] at h
    exact .inl ⟨rfl, h⟩
  · rw [Function.update_of_ne he] at h
    exact .inr ⟨he, h⟩

/-- An entry that is found once one has been taken out. -/
theorem of_erase_eq_some (h : Function.update m i none j = some b) : j ≠ i ∧ m j = some b := by
  rcases of_update_eq_some h with ⟨-, hnone⟩ | hold
  · cases hnone
  · exact hold

end

end Support
