import MicroChat.Stn.Attempts
import MicroChat.Stn.Timeouts
import MicroChat.Wrapper.Mars

/-!
# Wrapper — TaskTimes

How long the tasks of the client stay with mars.

* `Quick`: tasks that leave the timeouts to mars and are sent twice at most.
* `Client.Reachable.young`: after a run loop no task of the client is older than 40 seconds.
-/

namespace MicroChat
open Support
open Stn (NetCore TaskProfile Keeps)

/-- The task leaves the cost to mars, and is sent again once at most. -/
structure Quick (task : Stn.Task) : Prop where
  cost : task.server_process_cost ≤ 0
  retry : task.retry_count ≤ 1

theorem quick_ctask (taskid : Nat) (task : Task) : Quick (ctask taskid task) :=
  ⟨by simp [ctask, Stn.Task.ofId], by simp [ctask, Stn.Task.ofId]⟩

/-- Two attempts of 20 seconds. -/
theorem computeTaskTimeout_le {task : Stn.Task} (h : Quick task) :
    Stn.computeTaskTimeout task ≤ 40000 := by
  have hcost : ¬ 0 < task.server_process_cost := not_lt.mpr h.cost
  have htry : (if 0 ≤ task.retry_count then task.retry_count else 0) = 0 ∨
      (if 0 ≤ task.retry_count then task.retry_count else 0) = 1 := by
    have hretry := h.retry
    split <;> omega
  rw [Stn.computeTaskTimeout, if_neg hcost]
  generalize (if 0 ≤ task.retry_count then task.retry_count else 0) = trycount at htry
  have hle : UInt64.ofInt ((15 * 1000 + 5 * 1000) * (trycount + 1)) ≤ 40000 := by
    rcases htry with rfl | rfl <;> decide
  split
  · rename_i htotal
    exact UInt64.le_trans (UInt64.le_of_lt htotal.2) hle
  · exact hle

/-- A task in a list, started to be over in 40 seconds. -/
structure QuickProfile (p : TaskProfile) : Prop where
  task : Quick p.task
  timeout : p.task_timeout ≤ 40000

theorem QuickProfile.of_fixed {p p' : TaskProfile} (h : QuickProfile p)
    (hfixed : p'.fixed = p.fixed) : QuickProfile p' := by
  have htask : p'.task = p.task := congrArg Prod.fst hfixed
  have htimeout : p'.task_timeout = p.task_timeout := congrArg (·.2.2) hfixed
  refine ⟨?_, ?_⟩
  · rw [htask]
    exact h.task
  · rw [htimeout]
    exact h.timeout

theorem keeps_quick (now : UInt64) : Keeps now Quick Quick fun l => ∀ p ∈ l, QuickProfile p := by
  refine .each (fun hact hp p' hp' => ?_) (fun h => ⟨h, computeTaskTimeout_le h⟩)
    (fun h => ⟨h.task, h.timeout⟩) (fun h => h.task) (fun h hvalid => ?_)
    (fun h _ => ⟨h.cost, Int.zero_le_ofNat 1⟩) fun h _ => ⟨h.cost, h.retry⟩
  · cases hact with
    | move hm =>
        cases hm with
        | write h =>
            cases hp'
            exact hp.of_fixed h.fixed
        | send _ _ hfixed _ | retry _ hfixed _ _ =>
            cases hp'
            exact hp.of_fixed hfixed
        | finish _ => cases hp'
    | answer hfixed _ _ =>
        cases hp'
        exact hp.of_fixed hfixed
  · obtain ⟨-, -, channel_select, rfl⟩ := Stn.validAndInitDefault_some hvalid
    refine ⟨h.cost, ?_⟩
    have hretry := h.retry
    dsimp only
    split <;> omega

namespace Client
variable {env : CgiEnv} {c : Client}

/-- What is posted is started by the service. -/
theorem quick_posted (s s' : NetworkService) : ∀ task ∈ s.posted s', Quick task := by
  intro task htask
  obtain ⟨t, -, ht⟩ := List.mem_filterMap.mp htask
  obtain ⟨pTask, -, rfl⟩ := Option.map_eq_some_iff.mp ht
  exact quick_ctask t pTask

theorem holds_ran {G : List TaskProfile → Prop} (h : c.core.Holds Quick G)
    (service : NetworkService) : (c.ran service).core.Holds Quick G :=
  ⟨List.forall_mem_append.mpr ⟨h.starting, quick_posted c.service service⟩, h.long, h.short,
    h.zombie⟩

/-- Whatever becomes of the tasks, those that fail and are started anew included. -/
theorem Reachable.quick (h : Reachable env c) :
    c.core.Holds Quick fun l => ∀ p ∈ l, QuickProfile p := by
  have hholds : c.Inv env ∧ c.core.Holds Quick fun l => ∀ p ∈ l, QuickProfile p := by
    refine Support.Reachable.invariant
      (fun c => c.Inv env ∧ c.core.Holds Quick fun l => ∀ p ∈ l, QuickProfile p)
      (fun c hc => ⟨hc.inv, NetCore.holds_of_taskids_nil hc.core (List.forall_mem_nil _)⟩)
      ?_ h
    rintro c e c' ⟨hinv, hold⟩ hs
    refine ⟨hinv.step hs, ?_⟩
    cases hs with
    | start | newSync => exact holds_ran hold _
    | other => exact hold
    | @message core a msg hidle hmsg hcore =>
        have hnew := NetCore.Keeps.handle (keeps_quick a.env.now) hold hinv.linked.rest msg
        rw [hcore] at hnew
        exact ⟨hnew.starting, hnew.long, hnew.short, hnew.zombie⟩
    | call => exact holds_ran hold _
  exact hholds.2

/-- **No task of the client stays for long.**  In every run, once a run loop has been handled, each
task left in its list was started less than 40 seconds before, however often it was sent again,
failed, or was started anew by mars. -/
theorem Reachable.young (h : Reachable env c) (a : Stn.Answers) :
    (∀ p ∈ (c.core.handle a .longRunLoop).longlink_task_manager_.lst_cmd_,
        a.env.now - p.start_task_time < 40000) ∧
      ∀ p ∈ (c.core.handle a .shortRunLoop).shortlink_task_manager_.lst_cmd_,
        a.env.now - p.start_task_time < 40000 := by
  have hnew (msg : NetCore.Message) := NetCore.Keeps.handle (keeps_quick a.env.now) h.quick
    h.inv.linked.rest msg
  have hyoung {p : TaskProfile} (hp : QuickProfile p) (hdue : ¬ p.Overdue a.env.now) :
      a.env.now - p.start_task_time < 40000 :=
    UInt64.lt_of_lt_of_le (UInt64.not_le.mp hdue) hp.timeout
  obtain ⟨hlong, hshort⟩ := c.core.not_overdue_handle a
  exact ⟨fun p hp => hyoung ((hnew .longRunLoop).long p hp) (hlong p hp),
    fun p hp => hyoung ((hnew .shortRunLoop).short p hp) (hshort p hp)⟩

/-- A task that has been sent is still there. -/
theorem young_sent : let core := sent.core.handle Stn.plainAnswers .longRunLoop
    core.longlink_task_manager_.lst_cmd_.map (·.task.taskid) = [1] ∧
      ∀ p ∈ core.longlink_task_manager_.lst_cmd_,
        Stn.plainAnswers.env.now - p.start_task_time < 40000 :=
  ⟨by decide +kernel, (Reachable.young reachable_sent Stn.plainAnswers).1⟩

end Client

end MicroChat
