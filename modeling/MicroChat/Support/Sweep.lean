import Mathlib.Algebra.BigOperators.Group.List.Basic
import Mathlib.Data.List.Sort
import Mathlib.Tactic.Abel
import Mathlib.Tactic.Common

/-!
# Support — Sweep

Loops over a linked list that change the state beside it, make calls, and keep, change or take out
each element they come to.

* `sweep`, `atFirst`: over the whole list, and at the first element a test accepts.
* `Works`: what such loops do, one after another: moves of single elements, and calls of no element.
* `sweep_works`, `atFirst_works`: a loop whose turns are moves.
* `Works.weigh`, `Works.sublist`, `Works.invariant`: what every move keeps, in every such run.
* `sweep_forall`: what each turn establishes.
* `filter_insertionSort`: a stable sort.
-/

namespace Support

variable {σ α β κ : Type*}

/-! ### Loops -/

/-- Each element in turn: `f` says what becomes of the state and, `none` where it is taken out, of
the element. -/
def sweep (f : σ → α → σ × Option α) : σ → List α → σ × List α
  | s, [] => (s, [])
  | s, a :: l =>
      let r := f s a
      let rest := sweep f r.1 l
      (rest.1, r.2.toList ++ rest.2)

/-- The first element `p` accepts. -/
def atFirst (p : α → Bool) (f : σ → α → σ × Option α) : σ → List α → σ × List α
  | s, [] => (s, [])
  | s, a :: l =>
      if p a then
        let r := f s a
        (r.1, r.2.toList ++ l)
      else
        let rest := atFirst p f s l
        (rest.1, a :: rest.2)

variable {f : σ → α → σ × Option α} {p : α → Bool}

@[simp] theorem sweep_nil (s : σ) : sweep f s [] = (s, []) := rfl

theorem sweep_cons (s : σ) (a : α) (l : List α) :
    sweep f s (a :: l) =
      ((sweep f (f s a).1 l).1, (f s a).2.toList ++ (sweep f (f s a).1 l).2) := rfl

theorem atFirst_cons (s : σ) (a : α) (l : List α) :
    atFirst p f s (a :: l) =
      if p a then ((f s a).1, (f s a).2.toList ++ l)
      else ((atFirst p f s l).1, a :: (atFirst p f s l).2) := rfl

/-- The test accepts `a`, and nothing before it. -/
theorem atFirst_append {s : σ} {l₁ l₂ : List α} {a : α} (h : ∀ b ∈ l₁, p b = false)
    (ha : p a = true) :
    atFirst p f s (l₁ ++ a :: l₂) = ((f s a).1, l₁ ++ ((f s a).2.toList ++ l₂)) := by
  induction l₁ with
  | nil => rw [List.nil_append, atFirst_cons, if_pos ha, List.nil_append]
  | cons b l₁ ih =>
      rw [List.cons_append, atFirst_cons, h b List.mem_cons_self,
        ih fun c hc => h c (List.mem_cons_of_mem b hc)]
      rfl

/-! ### What loops do -/

/-- `V a cs o`: a move of the element `a` makes the calls `cs` and leaves `o` of it.  `P` are the
calls that are made between two moves. -/
inductive Works (V : α → List κ → Option α → Prop) (P : κ → Prop) :
    List α → List κ → List α → Prop where
  | done (l : List α) : Works V P l [] l
  | call {c : κ} {l l' : List α} {cs : List κ} (hc : P c) (h : Works V P l cs l') :
      Works V P l (c :: cs) l'
  | move {l₁ l₂ l' : List α} {a : α} {o : Option α} {cs cs' : List κ} (hm : V a cs o)
      (h : Works V P (l₁ ++ (o.toList ++ l₂)) cs' l') : Works V P (l₁ ++ a :: l₂) (cs ++ cs') l'

section
variable {V : α → List κ → Option α → Prop} {P : κ → Prop} {l l' l'' : List α} {cs cs' : List κ}

theorem Works.trans (h : Works V P l cs l') (h' : Works V P l' cs' l'') :
    Works V P l (cs ++ cs') l'' := by
  induction h with
  | done l => exact h'
  | call hc _ ih => exact .call hc (ih h')
  | move hm _ ih =>
      rw [List.append_assoc]
      exact .move hm (ih h')

theorem Works.mono {V' : α → List κ → Option α → Prop}
    (hV : ∀ {a cs o}, V a cs o → V' a cs o) (h : Works V P l cs l') : Works V' P l cs l' := by
  induction h with
  | done l => exact .done l
  | call hc _ ih => exact .call hc ih
  | move hm _ ih => exact .move (hV hm) ih

/-- One move of one element. -/
theorem Works.one {a : α} {o : Option α} (hm : V a cs o) : Works V P [a] cs o.toList := by
  have h : Works V P ([] ++ [a]) (cs ++ []) o.toList :=
    .move hm (by rw [List.nil_append, List.append_nil]; exact .done _)
  rwa [List.append_nil] at h

/-- A call. -/
theorem Works.callOne {c : κ} (hc : P c) (l : List α) : Works V P l [c] l := .call hc (.done l)

/-- Elements before and after. -/
theorem Works.frame (h : Works V P l cs l') (l₀ l₁ : List α) :
    Works V P (l₀ ++ (l ++ l₁)) cs (l₀ ++ (l' ++ l₁)) := by
  induction h with
  | done l => exact .done _
  | call hc _ ih => exact .call hc ih
  | @move k₁ k₂ l' a o cs cs' hm _ ih =>
      have hin : Works V P (l₀ ++ k₁ ++ (o.toList ++ (k₂ ++ l₁))) cs' (l₀ ++ (l' ++ l₁)) := by
        simpa only [List.append_assoc] using ih
      have hout := Works.move hm hin
      simpa only [List.append_assoc, List.cons_append] using hout

/-- **A loop over the list**, with the calls in the log `log`. -/
theorem sweep_works {f : σ → α → σ × Option α} (log : σ → List κ)
    (hf : ∀ s a, ∃ cs, log (f s a).1 = log s ++ cs ∧ Works V P [a] cs (f s a).2.toList)
    (s : σ) (l : List α) :
    ∃ cs, log (sweep f s l).1 = log s ++ cs ∧ Works V P l cs (sweep f s l).2 := by
  induction l generalizing s with
  | nil => exact ⟨[], (List.append_nil _).symm, .done []⟩
  | cons a l ih =>
      obtain ⟨cs, hcs, hone⟩ := hf s a
      obtain ⟨cs', hcs', hrest⟩ := ih (f s a).1
      refine ⟨cs ++ cs', by rw [sweep_cons, hcs', hcs, List.append_assoc], ?_⟩
      have hfirst := hone.frame [] l
      have hlast := hrest.frame (f s a).2.toList []
      rw [List.append_nil, List.append_nil] at hlast
      exact hfirst.trans hlast

/-- A loop that ends at the first element it is for. -/
theorem atFirst_works {p : α → Bool} {f : σ → α → σ × Option α} (log : σ → List κ)
    (hf : ∀ s a, p a = true → ∃ cs, log (f s a).1 = log s ++ cs ∧
      Works V P [a] cs (f s a).2.toList) (s : σ) (l : List α) :
    ∃ cs, log (atFirst p f s l).1 = log s ++ cs ∧ Works V P l cs (atFirst p f s l).2 := by
  induction l with
  | nil => exact ⟨[], (List.append_nil _).symm, .done []⟩
  | cons a l ih =>
      rw [atFirst_cons]
      split
      · rename_i hp
        obtain ⟨cs, hcs, hone⟩ := hf s a hp
        exact ⟨cs, hcs, hone.frame [] l⟩
      · obtain ⟨cs, hcs, hrest⟩ := ih
        have hframe := hrest.frame [a] []
        rw [List.append_nil, List.append_nil] at hframe
        exact ⟨cs, hcs, hframe⟩

/-- **What is conserved**, or only gets less: `r` is equality or an order. -/
theorem Works.weigh {M : Type*} [AddCommMonoid M] {r : M → M → Prop} [Std.Refl r] [IsTrans M r]
    (hadd : ∀ {x y} z, r x y → r (x + z) (y + z)) {w : κ → M} {v : α → M}
    (hV : ∀ {a cs o}, V a cs o → r ((cs.map w).sum + (o.toList.map v).sum) (v a))
    (hP : ∀ {c}, P c → r (w c) 0) (h : Works V P l cs l') :
    r ((cs.map w).sum + (l'.map v).sum) (l.map v).sum := by
  induction h with
  | done l =>
      rw [List.map_nil, List.sum_nil, zero_add]
      exact Std.Refl.refl _
  | @call c l l' cs hc _ ih =>
      have hcall := hadd ((cs.map w).sum + (l'.map v).sum) (hP hc)
      rw [List.map_cons, List.sum_cons, add_assoc]
      rw [zero_add] at hcall
      exact IsTrans.trans _ _ _ hcall ih
  | @move l₁ l₂ l' a o cs cs' hm _ ih =>
      have hmove := hadd ((l₁.map v).sum + (l₂.map v).sum) (hV hm)
      have hrest := hadd (cs.map w).sum ih
      simp only [List.map_append, List.sum_append, List.map_cons, List.sum_cons] at hrest ⊢
      have hstart : (cs.map w).sum + (cs'.map w).sum + (l'.map v).sum =
          (cs'.map w).sum + (l'.map v).sum + (cs.map w).sum := by abel
      have hmid : (l₁.map v).sum + ((o.toList.map v).sum + (l₂.map v).sum) + (cs.map w).sum =
          (cs.map w).sum + (o.toList.map v).sum + ((l₁.map v).sum + (l₂.map v).sum) := by abel
      have hend : (l₁.map v).sum + (v a + (l₂.map v).sum) =
          v a + ((l₁.map v).sum + (l₂.map v).sum) := by abel
      rw [hstart, hend]
      rw [hmid] at hrest
      exact IsTrans.trans _ _ _ hrest hmove

/-- A part of the elements that no move changes: what is left of it keeps its order. -/
theorem Works.sublist {key : α → β} (hV : ∀ {a cs o}, V a cs o → ∀ b ∈ o, key b = key a)
    (h : Works V P l cs l') : (l'.map key).Sublist (l.map key) := by
  induction h with
  | done l => exact List.Sublist.refl _
  | call _ _ ih => exact ih
  | @move l₁ l₂ l' a o cs cs' hm _ ih =>
      refine ih.trans ?_
      simp only [List.map_append, List.map_cons]
      refine List.Sublist.append_left ?_ _
      cases o with
      | none => exact List.sublist_cons_self _ _
      | some b =>
          rw [Option.toList_some, List.map_singleton, hV hm b rfl]
          exact List.Sublist.refl _

/-- **Invariants** of the elements, and of the calls made for elements with the invariant. -/
theorem Works.invariant {Q : α → Prop} {C : κ → Prop}
    (hV : ∀ {a cs o}, V a cs o → Q a → (∀ c ∈ cs, C c) ∧ ∀ b ∈ o, Q b)
    (hP : ∀ {c}, P c → C c) (h : Works V P l cs l') (hl : ∀ a ∈ l, Q a) :
    (∀ c ∈ cs, C c) ∧ ∀ b ∈ l', Q b := by
  induction h with
  | done l => exact ⟨List.forall_mem_nil _, hl⟩
  | call hc _ ih =>
      obtain ⟨hcalls, hend⟩ := ih hl
      exact ⟨List.forall_mem_cons.mpr ⟨hP hc, hcalls⟩, hend⟩
  | @move l₁ l₂ l' a o cs cs' hm _ ih =>
      obtain ⟨hmove, hleft⟩ := hV hm (hl a (by simp))
      obtain ⟨hcalls, hend⟩ := ih fun b hb => by
        rcases List.mem_append.mp hb with hb | hb
        · exact hl b (List.mem_append_left _ hb)
        · rcases List.mem_append.mp hb with hb | hb
          · exact hleft b (Option.mem_toList.mp hb)
          · exact hl b (List.mem_append_right _ (List.mem_cons_of_mem a hb))
      exact ⟨List.forall_mem_append.mpr ⟨hmove, hcalls⟩, hend⟩

end

/-! ### What each turn establishes -/

section
variable {Q : σ → Prop} {P P' : α → Prop}

/-- A visit to an element with `P`, in a state with `Q`: the state keeps `Q`, and an element that
stays has `P'`. -/
def Establishes (Q : σ → Prop) (P P' : α → Prop) (f : σ → α → σ × Option α) : Prop :=
  ∀ s a, Q s → P a → Q (f s a).1 ∧ ∀ b ∈ (f s a).2, P' b

theorem sweep_forall (h : Establishes Q P P' f) {s : σ} {l : List α} (hs : Q s)
    (hl : ∀ a ∈ l, P a) : Q (sweep f s l).1 ∧ ∀ b ∈ (sweep f s l).2, P' b := by
  induction l generalizing s with
  | nil => exact ⟨hs, List.forall_mem_nil _⟩
  | cons a l ih =>
      obtain ⟨hs', hkept⟩ := h s a hs (hl a List.mem_cons_self)
      obtain ⟨hend, hrest⟩ := ih hs' fun b hb => hl b (List.mem_cons_of_mem a hb)
      refine ⟨hend, fun b hb => ?_⟩
      rw [sweep_cons] at hb
      rcases List.mem_append.mp hb with hb | hb
      · exact hkept b (Option.mem_toList.mp hb)
      · exact hrest b hb

end

/-- The first element a test accepts is taken out, where all of those weigh `n`. -/
theorem sum_eraseP {M : Type*} [AddCommMonoid M] {v : α → M} {n : M} {l : List α}
    (h : l.any p = true) (hn : ∀ a ∈ l, p a = true → v a = n) :
    ((l.eraseP p).map v).sum + n = (l.map v).sum := by
  obtain ⟨a, ha, hpa⟩ := List.any_eq_true.mp h
  obtain ⟨b, l₁, l₂, -, hpb, rfl, herase⟩ := List.exists_of_eraseP ha hpa
  rw [herase, ← hn b (by simp) hpb, List.map_append, List.sum_append, List.map_append,
    List.sum_append, List.map_cons, List.sum_cons, add_assoc, add_comm (l₂.map v).sum]

/-! ### Stable sorting -/

/-- Sorting by a total preorder leaves the elements of a class in the order they are in. -/
theorem filter_insertionSort (r : α → α → Prop) [DecidableRel r] [Std.Total r] [IsTrans α r]
    (l : List α) (hq : ∀ a ∈ l.filter p, ∀ b ∈ l.filter p, r a b) :
    (l.insertionSort r).filter p = l.filter p := by
  have hsub : (l.filter p).Sublist (l.insertionSort r) :=
    List.sublist_insertionSort (List.pairwise_of_forall_mem_list hq) List.filter_sublist
  have hsub' := hsub.filter p
  rw [List.filter_filter] at hsub'
  simp only [Bool.and_self] at hsub'
  exact (hsub'.eq_of_length ((List.perm_insertionSort r l).filter p).length_eq.symm).symm

end Support
