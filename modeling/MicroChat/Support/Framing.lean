import Mathlib.Data.List.Infix
import Mathlib.Tactic.Common

/-!
# Support — Framing

A receiver of self-delimiting frames.  `unpack` looks at the front of a buffer and gives a
`Verdict`; `drain` calls it until it does not accept a frame any more, dropping each accepted
frame; `receive` appends one chunk of a stream after the other and drains after each.

* `Boundary unpack s t`: dropping accepted frames from `s` one after the other arrives at `t`.
* `drain_terminates_iff`: draining `s` ends exactly when no accepted frame at a boundary of `s`
  is empty.
* `Codec`: `unpack` accepts exactly the packed frame at the front of a buffer, and waits on a
  proper part of one.
* `receive_frames`: a receiver with a `Codec` delivers a packed list of frames, however the
  stream is cut into chunks.
-/

namespace Support.Framing

variable {α M F : Type*}

/-- What an unpacker says about the front of a buffer. -/
inductive Verdict (M : Type*) where
  /-- the message `m`, packed in the first `n` elements -/
  | ok (n : Nat) (m : M)
  /-- not a whole frame yet -/
  | wait
  /-- not a frame -/
  | bad
  /-- the unpacker read outside of the buffer -/
  | fault
  deriving DecidableEq, Repr

/-- How a receiver stands after draining its buffer. -/
inductive Status where
  | waiting
  | broken
  | crashed
  deriving DecidableEq, Repr

/-- The messages delivered, what is left of the buffer, and how the receiver stands. -/
structure Drained (α M : Type*) where
  got : List M
  left : List α
  status : Status
  deriving DecidableEq, Repr

/-- More messages delivered before the ones of `d`. -/
def Drained.after (ms : List M) (d : Drained α M) : Drained α M := { d with got := ms ++ d.got }

/-- The loop over one buffer, for the number of iterations the fuel allows. -/
def drain (unpack : List α → Verdict M) : Nat → List α → Option (Drained α M)
  | 0, _ => none
  | _ + 1, [] => some ⟨[], [], .waiting⟩
  | k + 1, a :: s =>
      match unpack (a :: s) with
      | .ok n m => (drain unpack k ((a :: s).drop n)).map (.after [m])
      | .wait => some ⟨[], a :: s, .waiting⟩
      | .bad => some ⟨[], a :: s, .broken⟩
      | .fault => some ⟨[], a :: s, .crashed⟩

/-- The receiver over a stream cut into chunks: append a chunk, drain, go on while waiting. -/
def receive (unpack : List α → Verdict M) (fuel : Nat) :
    List α → List (List α) → Option (Drained α M)
  | buf, [] => some ⟨[], buf, .waiting⟩
  | buf, c :: cs =>
      match drain unpack fuel (buf ++ c) with
      | none => none
      | some d =>
          if d.status = .waiting then (receive unpack fuel d.left cs).map (.after d.got)
          else some d

section Drain
variable {unpack : List α → Verdict M}

theorem drain_ok {k n : Nat} {s : List α} {m : M} (hs : s ≠ []) (h : unpack s = .ok n m) :
    drain unpack (k + 1) s = (drain unpack k (s.drop n)).map (.after [m]) := by
  obtain ⟨a, s, rfl⟩ := List.exists_cons_of_ne_nil hs
  rw [drain, h]

theorem drain_wait {k : Nat} {s : List α} (hs : s ≠ []) (h : unpack s = .wait) :
    drain unpack (k + 1) s = some ⟨[], s, .waiting⟩ := by
  obtain ⟨a, s, rfl⟩ := List.exists_cons_of_ne_nil hs
  rw [drain, h]

/-! ### Termination -/

/-- Dropping accepted frames from the front of `s` arrives at `t`. -/
inductive Boundary (unpack : List α → Verdict M) : List α → List α → Prop where
  | refl (s : List α) : Boundary unpack s s
  | more {s t : List α} {n : Nat} {m : M} (hs : s ≠ []) (h : unpack s = .ok n m)
      (ht : Boundary unpack (s.drop n) t) : Boundary unpack s t

/-- No frame accepted at a boundary of `s` is empty. -/
def Progress (unpack : List α → Verdict M) (s : List α) : Prop :=
  ∀ t, Boundary unpack s t → t ≠ [] → ∀ n m, unpack t = .ok n m → 0 < n

theorem drain_of_progress {k : Nat} {s : List α} (hp : Progress unpack s) (hk : s.length < k) :
    ∃ d, drain unpack k s = some d := by
  induction k generalizing s with
  | zero => exact absurd hk (Nat.not_lt_zero _)
  | succ k ih =>
      cases s with
      | nil => exact ⟨_, rfl⟩
      | cons a s =>
          have hs : a :: s ≠ [] := List.cons_ne_nil a s
          rw [drain]
          cases h : unpack (a :: s) with
          | ok n m =>
              have hn := hp _ (.refl _) hs n m h
              have hlen : ((a :: s).drop n).length < k := by
                rw [List.length_drop, List.length_cons]
                rw [List.length_cons] at hk
                omega
              obtain ⟨d, hd⟩ := ih (fun t ht => hp t (.more hs h ht)) hlen
              exact ⟨d.after [m], by simp only [hd, Option.map_some]⟩
          | wait | bad | fault => exact ⟨_, rfl⟩

/-- At an accepted empty frame the loop repeats itself. -/
theorem drain_empty_frame {s : List α} {m : M} (hs : s ≠ []) (h : unpack s = .ok 0 m) :
    ∀ k, drain unpack k s = none
  | 0 => rfl
  | k + 1 => by rw [drain_ok hs h, List.drop_zero, drain_empty_frame hs h k]; rfl

theorem Boundary.drain_eq_none {s t : List α} (hb : Boundary unpack s t)
    (ht : ∀ k, drain unpack k t = none) : ∀ k, drain unpack k s = none := by
  induction hb with
  | refl => exact ht
  | more hs h _ ih =>
      rintro (_ | k)
      · rfl
      · rw [drain_ok hs h, ih ht k]; rfl

/-- **When draining ends.**  The loop over `s` ends, for enough iterations, exactly when no frame
accepted at a boundary of `s` is empty. -/
theorem drain_terminates_iff {s : List α} :
    (∃ k d, drain unpack k s = some d) ↔ Progress unpack s := by
  refine ⟨fun ⟨k, d, hd⟩ t hb ht n m h => Nat.pos_of_ne_zero ?_, fun hp =>
    ⟨s.length + 1, drain_of_progress hp (Nat.lt_succ_self _)⟩⟩
  rintro rfl
  rw [hb.drain_eq_none (drain_empty_frame ht h) k] at hd
  cases hd

end Drain

/-! ### Delivery -/

/-- `unpack` takes a packed frame off the front of any buffer and waits on a part of one. -/
structure Codec (unpack : List α → Verdict M) (pack : F → List α) (msg : F → M) : Prop where
  ne_nil : ∀ f, pack f ≠ []
  whole : ∀ f rest, unpack (pack f ++ rest) = .ok (pack f).length (msg f)
  part : ∀ f p, p <+: pack f → p ≠ [] → p ≠ pack f → unpack p = .wait

/-- `p` is what a receiver of the frames `fs` may hold while it waits: nothing, or a proper part
of the first frame. -/
def Pending (pack : F → List α) (p : List α) (fs : List F) : Prop :=
  p = [] ∨ ∃ f gs, fs = f :: gs ∧ p <+: pack f ∧ p ≠ pack f

/-- A prefix of a packed list is some whole frames and a pending part of the rest. -/
theorem cut_flatMap {pack : F → List α} {fs : List F} {s : List α} (h : s <+: fs.flatMap pack) :
    ∃ gs hs p, fs = gs ++ hs ∧ s = gs.flatMap pack ++ p ∧ Pending pack p hs := by
  induction fs generalizing s with
  | nil => exact ⟨[], [], s, rfl, rfl, .inl (List.prefix_nil.mp h)⟩
  | cons f fs ih =>
      rw [List.flatMap_cons] at h
      have hf : pack f <+: pack f ++ fs.flatMap pack := List.prefix_append _ _
      rcases Nat.lt_or_ge s.length (pack f).length with hlt | hge
      · have hp : s <+: pack f := List.prefix_of_prefix_length_le h hf (Nat.le_of_lt hlt)
        exact ⟨[], f :: fs, s, rfl, rfl, .inr ⟨f, fs, rfl, hp, fun e => by simp [e] at hlt⟩⟩
      · obtain ⟨t, rfl⟩ := List.prefix_of_prefix_length_le hf h hge
        obtain ⟨gs, hs, p, rfl, rfl, hp⟩ := ih ((List.prefix_append_right_inj _).mp h)
        exact ⟨f :: gs, hs, p, rfl, by rw [List.flatMap_cons, List.append_assoc], hp⟩

section Delivery
variable {unpack : List α → Verdict M} {pack : F → List α} {msg : F → M}

/-- Draining whole frames and a pending part delivers the frames and keeps the part. -/
theorem Codec.drain_frames (C : Codec unpack pack msg) {p : List α} {hs : List F}
    (hp : Pending pack p hs) {gs : List F} {k : Nat} (hk : gs.length < k) :
    drain unpack k (gs.flatMap pack ++ p) = some ⟨gs.map msg, p, .waiting⟩ := by
  induction k generalizing gs with
  | zero => exact absurd hk (Nat.not_lt_zero _)
  | succ k ih =>
      cases gs with
      | nil =>
          rw [List.flatMap_nil, List.nil_append]
          rcases hp with rfl | ⟨f, -, -, hpre, hne⟩
          · rfl
          · by_cases e : p = []
            · subst e
              rfl
            · exact drain_wait e (C.part f p hpre e hne)
      | cons g gs =>
          have hne : pack g ++ (gs.flatMap pack ++ p) ≠ [] := by simp [C.ne_nil g]
          rw [List.flatMap_cons, List.append_assoc, drain_ok hne (C.whole g _), List.drop_left,
            ih (Nat.succ_lt_succ_iff.mp hk)]
          rfl

/-- A pending part is the whole of no non-empty list of frames. -/
theorem Codec.eq_nil_of_pending (C : Codec unpack pack msg) {fs : List F}
    (hp : Pending pack (fs.flatMap pack) fs) : fs = [] := by
  rcases hp with h | ⟨f, gs, rfl, hpre, hne⟩
  · cases fs with
    | nil => rfl
    | cons f fs => simp [C.ne_nil f] at h
  · rw [List.flatMap_cons] at hpre hne
    have hlen := hpre.length_le
    rw [List.length_append] at hlen
    exact absurd (by simp [List.eq_nil_of_length_eq_zero (by omega : (gs.flatMap pack).length = 0)])
      hne

/-- **Delivery.**  However a packed list of frames is cut into chunks, the receiver delivers the
list and ends with an empty buffer, waiting. -/
theorem Codec.receive_frames (C : Codec unpack pack msg) {fuel : Nat} {chunks : List (List α)} :
    ∀ {p : List α} {fs : List F}, Pending pack p fs → p ++ chunks.flatten = fs.flatMap pack →
      fs.length < fuel →
      receive unpack fuel p chunks = some ⟨fs.map msg, [], .waiting⟩ := by
  induction chunks with
  | nil =>
      intro p fs hp he _
      rw [List.flatten_nil, List.append_nil] at he
      subst he
      rw [C.eq_nil_of_pending hp]
      rfl
  | cons c cs ih =>
      intro p fs hp he hk
      rw [List.flatten_cons, ← List.append_assoc] at he
      obtain ⟨gs, hs, q, rfl, hq, hpend⟩ := @cut_flatMap _ _ pack _ _ ⟨cs.flatten, he⟩
      rw [List.length_append] at hk
      -- the chunk completes `gs` and leaves `q`, a part of the first frame of `hs`
      have hrest : q ++ cs.flatten = hs.flatMap pack := by
        rw [hq, List.flatMap_append, List.append_assoc] at he
        exact List.append_cancel_left he
      rw [receive, hq, C.drain_frames hpend (by omega)]
      simp only [if_true, ih hpend hrest (by omega), Option.map_some]
      simp [Drained.after]

end Delivery

end Support.Framing
