import MicroChat.Stn.TaskOrder

/-!
# Stn — Timeouts

What a run loop leaves of the tasks whose time is up.

* `LongLinkTaskManager.not_overdue_runLoop`, `ShortLinkTaskManager.not_overdue_runLoop`: nothing.
* `NetCore.not_overdue_handle`: the same, in mars.
-/

namespace MicroChat.Stn
open Support

/-- Whether its time is up is decided when a task is started. -/
theorem overdue_of_fixed {now : UInt64} {p p' : TaskProfile} (h : p'.fixed = p.fixed) :
    p'.Overdue now ↔ p.Overdue now := by
  rw [TaskProfile.Overdue, TaskProfile.Overdue,
    show p'.start_task_time = p.start_task_time from congrArg (·.2.1) h,
    show p'.task_timeout = p.task_timeout from congrArg (·.2.2) h]

/-- What the managers do makes no task overdue. -/
theorem DidBy.not_overdue {now : UInt64} {l l' : List TaskProfile} {calls calls' : List Call}
    (h : DidBy (Act now) l calls l' calls') (hl : ∀ p ∈ l, ¬ p.Overdue now) :
    ∀ p ∈ l', ¬ p.Overdue now := by
  intro p hp
  obtain ⟨q, hq, heq⟩ := List.mem_map.mp (h.fixed_sublist.subset (List.mem_map_of_mem hp))
  rw [overdue_of_fixed heq.symm]
  exact hl q hq

namespace LongLinkTaskManager
variable {env : Env} {answers : Nat → LongLinkAnswer}

/-- A task whose time is up is taken out. -/
theorem establishes_timeoutOne : Establishes (fun _ => True) (fun _ => True)
    (fun p : TaskProfile => ¬ p.Overdue env.now) (timeoutOne env) := by
  refine fun s first _ _ => ⟨trivial, fun p hp => ?_⟩
  rw [timeoutOne] at hp
  dsimp only at hp
  split at hp
  · rw [singleRespHandle, if_pos (.inr (.inr (.inr rfl)))] at hp
    cases hp
  · rename_i hdue
    cases hp
    rwa [overdue_of_fixed (written_markFirstPkg first).fixed]

theorem not_overdue_timeoutLoop (m : LongLinkTaskManager) :
    ∀ p ∈ (m.timeoutLoop env).m.lst_cmd_, ¬ p.Overdue env.now :=
  (sweep_forall establishes_timeoutOne trivial fun _ _ => trivial).2

/-- After the run loop no task is left whose time is up. -/
theorem not_overdue_runLoop (m : LongLinkTaskManager) :
    ∀ p ∈ (m.runLoop env answers).lst_cmd_, ¬ p.Overdue env.now := by
  have htimeout : ∀ p ∈ (m.runOnTimeout env).lst_cmd_, ¬ p.Overdue env.now := by
    have hloop : ∀ p ∈ (m.timeoutLoop env).m.lst_cmd_, ¬ p.Overdue env.now :=
      m.not_overdue_timeoutLoop
    rw [runOnTimeout]
    split
    · exact (Did.act (((did_call _).trans (did_batchErrorRespHandle ..)).trans
        (did_call _))).not_overdue hloop
    · split
      · exact (Did.act (did_batchErrorRespHandle ..)).not_overdue hloop
      · exact hloop
  rw [runLoop]
  split
  · rename_i hempty
    rw [List.isEmpty_iff.mp hempty]
    exact List.forall_mem_nil _
  · exact (Did.act (did_runOnStartTask _)).not_overdue htimeout

end LongLinkTaskManager

namespace ShortLinkTaskManager
variable {env : Env} {answers : Nat → ShortLinkAnswer}

/-- A task whose time is up is taken out. -/
theorem establishes_timeoutOne : Establishes (fun _ => True) (fun _ => True)
    (fun p : TaskProfile => ¬ p.Overdue env.now) (timeoutOne env) := by
  refine fun m first _ _ => ⟨trivial, fun p hp => ?_⟩
  by_cases hdue : first.Overdue env.now
  · have hwhy : timeoutOf env first = some (.kEctLocal, kEctLocalTaskTimeout) := if_pos hdue
    rw [timeoutOne, hwhy] at hp
    dsimp only at hp
    rw [andCall, singleRespHandle, if_pos (.inr (.inr (.inr rfl)))] at hp
    cases hp
  · -- whatever becomes of the task, it has the time it was started with
    have hkept := (Did.act (turn_timeoutOne m first)).not_overdue fun q hq => by
      rw [List.mem_singleton.mp hq]
      exact hdue
    exact hkept p (Option.mem_toList.mpr hp)

/-- After the run loop no task is left whose time is up. -/
theorem not_overdue_runLoop (m : ShortLinkTaskManager) :
    ∀ p ∈ (m.runLoop env answers).lst_cmd_, ¬ p.Overdue env.now := by
  have htimeout : ∀ p ∈ (m.runOnTimeout env).lst_cmd_, ¬ p.Overdue env.now :=
    (sweep_forall establishes_timeoutOne trivial fun _ _ => trivial).2
  rw [runLoop]
  split
  · rename_i hempty
    rw [List.isEmpty_iff.mp hempty]
    exact List.forall_mem_nil _
  · exact (Did.act (did_runOnStartTask _)).not_overdue htimeout

end ShortLinkTaskManager

/-- **No task outlives its time.**  In any state, the messages of the run loops leave no task in
their list that was started its whole timeout ago. -/
theorem NetCore.not_overdue_handle (c : NetCore) (a : Answers) :
    (∀ p ∈ (c.handle a .longRunLoop).longlink_task_manager_.lst_cmd_, ¬ p.Overdue a.env.now) ∧
      ∀ p ∈ (c.handle a .shortRunLoop).shortlink_task_manager_.lst_cmd_,
        ¬ p.Overdue a.env.now := by
  rw [handle, handle, withLong_long, withShort_short]
  exact ⟨LongLinkTaskManager.not_overdue_runLoop _, ShortLinkTaskManager.not_overdue_runLoop _⟩

end MicroChat.Stn
