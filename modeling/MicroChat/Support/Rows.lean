import Mathlib.Data.List.Dedup

/-!
# Support — Rows

Rows that are handed over one by one, and put into an array of a fixed size.

* `Filler`: an array that a state holds, and how an element is put behind the others.
* `Filler.push`: one row; `Filler.foldlM_push_isSome_iff`: when all of them can be put in.
* `Filler.Loaded`, `Filler.loaded_iff`: the state that has them all, in order.
* `OnePerKey`: one of the rows for each key, as a query with `group by` gives them.
-/

namespace Support

variable {σ α ρ κ : Type*}

/-- An array in a state, and the state with one element more behind the others. -/
structure Filler (σ α : Type*) where
  elems : σ → List α
  store : σ → α → σ
  elems_store : ∀ s x, elems (store s x) = elems s ++ [x]

namespace Filler
variable (F : Filler σ α) (read : ρ → Option α) (n : Nat)

/-- What is read of a row goes into the array of `n` elements; `none` where nothing can be read, or
the array is full. -/
def push (s : σ) (row : ρ) : Option σ :=
  (read row).bind fun x => if (F.elems s).length < n then some (F.store s x) else none

variable {F read n} {s s' : σ} {row : ρ} {rows : List ρ}

theorem push_eq_some (h : F.push read n s row = some s') :
    ∃ x, read row = some x ∧ (F.elems s).length < n ∧ s' = F.store s x := by
  obtain ⟨x, hx, h⟩ := Option.bind_eq_some_iff.mp h
  split at h
  · rename_i hlt
    cases h
    exact ⟨x, hx, hlt, rfl⟩
  · cases h

/-- **What has been put in**: all that can be read of the rows, in order, and within the size. -/
theorem elems_of_foldlM_push (h : rows.foldlM (F.push read n) s = some s') :
    (F.elems s').map some = (F.elems s).map some ++ rows.map read ∧
      ((F.elems s).length ≤ n → (F.elems s').length ≤ n) := by
  induction rows generalizing s with
  | nil =>
      cases h
      exact ⟨(List.append_nil _).symm, id⟩
  | cons row rows ih =>
      rw [List.foldlM_cons] at h
      obtain ⟨s₁, hpush, h⟩ := Option.bind_eq_some_iff.mp h
      obtain ⟨x, hx, hlt, rfl⟩ := push_eq_some hpush
      obtain ⟨helems, hle⟩ := ih h
      rw [F.elems_store] at helems hle
      refine ⟨?_, fun _ => hle ?_⟩
      · rw [helems, List.map_append, List.append_assoc, List.map_cons (l := rows), hx]
        rfl
      · rw [List.length_append, List.length_singleton]
        exact hlt

/-- A counter that goes up with each element. -/
theorem count_of_foldlM_push {f : σ → Nat} (hf : ∀ s x, f (F.store s x) = f s + 1)
    (h : rows.foldlM (F.push read n) s = some s') : f s' = f s + rows.length := by
  induction rows generalizing s with
  | nil =>
      cases h
      rfl
  | cons row rows ih =>
      rw [List.foldlM_cons] at h
      obtain ⟨s₁, hpush, h⟩ := Option.bind_eq_some_iff.mp h
      obtain ⟨x, -, -, rfl⟩ := push_eq_some hpush
      rw [ih h, hf, List.length_cons]
      omega

/-- **When all rows can be put in**: there is room, and each can be read. -/
theorem foldlM_push_isSome_iff (h : (F.elems s).length ≤ n) :
    (rows.foldlM (F.push read n) s).isSome ↔
      (F.elems s).length + rows.length ≤ n ∧ ∀ row ∈ rows, (read row).isSome := by
  induction rows generalizing s with
  | nil => simpa using h
  | cons row rows ih =>
      rw [List.foldlM_cons, List.forall_mem_cons, List.length_cons]
      cases hx : read row with
      | none => simp [push, hx]
      | some x =>
          -- one place less for the rows behind, or none for this one
          by_cases hlt : (F.elems s).length < n
          · have hpush : F.push read n s row = some (F.store s x) := by simp [push, hx, hlt]
            have hle : (F.elems (F.store s x)).length ≤ n := by
              rw [F.elems_store, List.length_append, List.length_singleton]
              exact hlt
            rw [hpush, Option.bind_eq_bind, Option.bind_some, ih hle, F.elems_store,
              List.length_append, List.length_singleton, Nat.add_assoc, Nat.add_comm 1]
            simp
          · have hpush : F.push read n s row = none := by simp [push, hx, hlt]
            rw [hpush, Option.bind_eq_bind, Option.bind_none]
            simp only [Option.isSome_none, Bool.false_eq_true, false_iff]
            omega

variable (F read n) in
/-- The array holds what all rows hold, each once and in order, within its size, and the rows are
counted. -/
structure Loaded (count : σ → Nat) (rows : List ρ) (s : σ) : Prop where
  stored : (F.elems s).map some = rows.map read
  bound : (F.elems s).length ≤ n
  counted : count s = rows.length

/-- **When an empty array gets all the rows.** -/
theorem loaded_iff {count : σ → Nat} (hcount : ∀ s x, count (F.store s x) = count s + 1)
    (hnil : F.elems s = []) (hzero : count s = 0) :
    (∃ s', rows.foldlM (F.push read n) s = some s' ∧ F.Loaded read n count rows s') ↔
      rows.length ≤ n ∧ ∀ row ∈ rows, (read row).isSome := by
  have hsome : (rows.foldlM (F.push read n) s).isSome ↔
      rows.length ≤ n ∧ ∀ row ∈ rows, (read row).isSome := by
    rw [foldlM_push_isSome_iff (by rw [hnil]; exact Nat.zero_le n), hnil, List.length_nil,
      Nat.zero_add]
  rw [← hsome]
  constructor
  · rintro ⟨s', hs', -⟩
    rw [hs']
    rfl
  · intro h
    obtain ⟨s', hs'⟩ := Option.isSome_iff_exists.mp h
    obtain ⟨hstored, hbound⟩ := elems_of_foldlM_push hs'
    have hcounted := count_of_foldlM_push hcount hs'
    rw [hnil] at hstored hbound
    rw [hzero, Nat.zero_add] at hcounted
    exact ⟨s', hs', hstored, hbound (Nat.zero_le n), hcounted⟩

end Filler

/-- A loop whose rounds succeed or not whatever the state. -/
theorem isSome_foldlM_iff {f : σ → ρ → Option σ} {ok : ρ → Prop}
    (hf : ∀ s x, (f s x).isSome ↔ ok x) {rows : List ρ} {s : σ} :
    (rows.foldlM f s).isSome ↔ ∀ row ∈ rows, ok row := by
  induction rows generalizing s with
  | nil => simp
  | cons row rows ih =>
      rw [List.foldlM_cons, List.forall_mem_cons, ← hf s]
      cases h : f s row with
      | none => simp
      | some s' => simpa using ih

/-! ### Groups -/

/-- `reps` has one element of `l` for each key that is there. -/
structure OnePerKey (key : ρ → κ) (l reps : List ρ) : Prop where
  subset : reps ⊆ l
  nodup : (reps.map key).Nodup
  complete : ∀ x ∈ l, key x ∈ reps.map key

section
variable [DecidableEq κ] {key : ρ → κ} {l reps : List ρ}

/-- There are as many as there are keys. -/
theorem OnePerKey.length_eq (h : OnePerKey key l reps) :
    reps.length = (l.map key).dedup.length := by
  have hperm : (reps.map key).Perm (l.map key).dedup := by
    refine (List.perm_ext_iff_of_nodup h.nodup (List.nodup_dedup _)).mpr ?_
    intro k
    rw [List.mem_dedup]
    constructor
    · exact fun hk => List.map_subset key h.subset hk
    · intro hk
      obtain ⟨x, hx, rfl⟩ := List.mem_map.mp hk
      exact h.complete x hx
  rw [← hperm.length_eq, List.length_map]

/-- The last of the rows for each key are such rows. -/
theorem onePerKey_pwFilter (key : ρ → κ) (l : List ρ) :
    OnePerKey key l (l.pwFilter fun x y => key x ≠ key y) := by
  have hmap : (l.pwFilter fun x y => key x ≠ key y).map key = (l.map key).dedup :=
    (List.pwFilter_map (R := fun a b : κ => a ≠ b) key l).symm
  refine ⟨List.pwFilter_subset l, ?_, ?_⟩
  · rw [hmap]
    exact List.nodup_dedup _
  · intro x hx
    rw [hmap, List.mem_dedup]
    exact List.mem_map_of_mem hx

end

end Support
