import Mathlib.Data.List.Induction
import MicroChat.Support.Bytes

/-!
# Support — Printf

`printf` of texts: a format whose conversions are `%s` and `%%`.

* `format`: the text that is printed.
* `format_append`, `format_string`: a format from left to right.
* `format_eq_self_iff`: which texts are printed as they are when they are taken for a format, and
  `isSome_format_append`: which are formats at all.
-/

namespace Support

def percent : UInt8 := 0x25

/-- The text that a format and its arguments print; `none` where there is no argument for a
conversion, or a `%` begins none. -/
def format : Bytes → List Bytes → Option Bytes
  | [], _ => some []
  | [c], _ => if c = percent then none else some [c]
  | c :: k :: fmt, args =>
      if c = percent then
        if k = percent then (format fmt args).map (percent :: ·)
        else if k = 0x73 then
          match args with
          | [] => none
          | a :: args => (format fmt args).map (cstr a ++ ·)
        else none
      else (format (k :: fmt) args).map (c :: ·)

section
variable {c : UInt8} {pre fmt s t a : Bytes} {args : List Bytes}

theorem format_cons (h : c ≠ percent) :
    format (c :: fmt) args = (format fmt args).map (c :: ·) := by
  cases fmt <;> simp [format, h]

/-- What stands before the first conversion is printed as it is. -/
theorem format_append (h : percent ∉ pre) :
    format (pre ++ fmt) args = (format fmt args).map (pre ++ ·) := by
  induction pre with
  | nil => simp
  | cons c pre ih =>
      rw [List.mem_cons, not_or] at h
      rw [List.cons_append, format_cons (Ne.symm h.1), ih h.2, Option.map_map]
      rfl

theorem format_string (a : Bytes) :
    format (percent :: 0x73 :: fmt) (a :: args) = (format fmt args).map (cstr a ++ ·) := by
  rw [format, if_pos rfl, if_neg (by decide), if_pos rfl]

theorem format_self (h : percent ∉ s) : format s args = some s := by
  have happ : format (s ++ []) args = (format [] args).map (s ++ ·) := format_append h
  rwa [List.append_nil, format, Option.map_some, List.append_nil] at happ

/-- Without arguments a text prints no more than itself, and less if there is a `%` in it. -/
theorem length_of_format (h : format s [] = some t) :
    t.length ≤ s.length ∧ (percent ∈ s → t.length < s.length) := by
  induction s using List.twoStepInduction generalizing t with
  | nil =>
      cases h
      exact ⟨Nat.le_refl _, fun hmem => absurd hmem List.not_mem_nil⟩
  | singleton c =>
      by_cases hc : c = percent
      · rw [format, if_pos hc] at h
        cases h
      · rw [format, if_neg hc] at h
        cases h
        exact ⟨Nat.le_refl _, fun hmem => absurd (List.mem_singleton.mp hmem).symm hc⟩
  | cons_cons c k fmt ih ih' =>
      by_cases hc : c = percent
      · rw [format, if_pos hc] at h
        split at h
        · -- `%%` prints one character
          obtain ⟨t', ht, rfl⟩ := Option.map_eq_some_iff.mp h
          have := (ih ht).1
          simp only [List.length_cons]
          omega
        · -- `%s` has no argument, and another conversion is undefined
          split at h <;> cases h
      · rw [format_cons hc] at h
        obtain ⟨t', ht, rfl⟩ := Option.map_eq_some_iff.mp h
        obtain ⟨hle, hlt⟩ := ih' k ht
        refine ⟨Nat.succ_le_succ hle, fun hmem => Nat.succ_lt_succ (hlt ?_)⟩
        exact (List.mem_cons.mp hmem).resolve_left fun he => hc he.symm

/-- **Which texts print themselves**: those without a `%`. -/
theorem format_eq_self_iff : format s [] = some s ↔ percent ∉ s :=
  ⟨fun h hmem => Nat.lt_irrefl _ ((length_of_format h).2 hmem), format_self⟩

/-- **Which texts are formats without arguments**: those all of whose parts are, where no part
begins with a `%`. -/
theorem isSome_format_append (ht : t.head? ≠ some percent) :
    (format (s ++ t) []).isSome ↔ (format s []).isSome ∧ (format t []).isSome := by
  induction s using List.twoStepInduction with
  | nil => simp [format]
  | singleton c =>
      by_cases hc : c = percent
      · -- a `%` at the end of `s` begins no conversion
        have hs : format [c] [] = none := by rw [format, if_pos hc]
        cases t with
        | nil => simp [hs]
        | cons k t =>
            have hk : k ≠ percent := fun he => ht (congrArg some he)
            rw [List.singleton_append, hs, format, if_pos hc, if_neg hk]
            split <;> simp
      · rw [List.singleton_append, format_cons hc, Option.isSome_map, format, if_neg hc]
        simp
  | cons_cons c k s ih ih' =>
      by_cases hc : c = percent
      · rw [List.cons_append, List.cons_append, format, if_pos hc, format, if_pos hc]
        split
        · rw [Option.isSome_map, Option.isSome_map]
          exact ih
        · split <;> simp
      · rw [List.cons_append, format_cons hc, format_cons hc, Option.isSome_map, Option.isSome_map]
        exact ih' k

end

end Support
