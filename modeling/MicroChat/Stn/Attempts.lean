import Mathlib.Algebra.Order.BigOperators.Group.List
import MicroChat.Stn.TaskOrder

/-!
# Stn — Attempts

How often the request of a task is handed to a link.

* `Run.Reachable.retries`: no task has more attempts left than its start has given it.
* `TaskProfile.attempts`: the times a task in a list may still be sent.
* `Tally.Reachable.sent_le`: no task is sent more often than its starts, their retries and redoing
  have granted.
-/

namespace MicroChat.Stn
open Support

/-! ### The attempts that are left -/

/-- The attempts left are some of those the task was started with. -/
structure Retries (p : TaskProfile) : Prop where
  nonneg : 0 ≤ p.remain_retry_count
  le : p.remain_retry_count ≤ p.task.retry_count
  bounded : p.task.retry_count ≤ 30

theorem Retries.of_act {now : UInt64} {p : TaskProfile} {cs : List Call} {o : Option TaskProfile}
    (hact : Act now p cs o) (hp : Retries p) : ∀ p' ∈ o, Retries p' := by
  have hkept {p' : TaskProfile} (hfixed : p'.fixed = p.fixed)
      (hretry : p'.remain_retry_count = p.remain_retry_count ∨
        0 < p.remain_retry_count ∧ p'.remain_retry_count = p.remain_retry_count - 1) :
      ∀ q ∈ some p', Retries q := by
    intro q hq
    cases hq
    have htask : p'.task = p.task := congrArg Prod.fst hfixed
    obtain ⟨hnonneg, hle, hbounded⟩ := hp
    refine ⟨?_, ?_, ?_⟩
    · omega
    · rw [htask]
      omega
    · rw [htask]
      exact hbounded
  cases hact with
  | move hm =>
      cases hm with
      | write h => exact hkept h.fixed (.inl h.retry)
      | send _ _ hfixed hretry => exact hkept hfixed (.inl hretry)
      | retry left hfixed hretry _ => exact hkept hfixed (.inr ⟨left, hretry⟩)
      | finish _ => exact fun _ hnone => absurd hnone (Option.not_mem_none _)
  | answer hfixed hretry _ => exact hkept hfixed hretry

/-- A property of single tasks. -/
theorem Keeps.each {now : UInt64} {U V : Task → Prop} {Q : TaskProfile → Prop}
    (hact : ∀ {p cs o}, Act now p cs o → Q p → ∀ p' ∈ o, Q p')
    (hstart : ∀ {task}, V task → Q (.ofTask now task)) (hredo : ∀ {p}, Q p → Q p.redo)
    (htask : ∀ {p}, Q p → U p.task)
    (hvalid : ∀ {task task'}, U task → validAndInitDefault task = some task' → V task')
    (hsave : ∀ {task}, U task → ∀ t, U { task with retry_count := 0, total_timetout := t })
    (hrestart : ∀ {task}, U task → ∀ t, U { task with total_timetout := t }) :
    Keeps now U V fun l => ∀ p ∈ l, Q p where
  act h hl := by
    obtain ⟨cs, -, hw⟩ := h
    exact (hw.invariant (C := fun _ => True) (fun hm hp => ⟨fun _ _ => trivial, hact hm hp⟩)
      (fun _ => trivial) hl).2
  start {l task} h hl p hp := by
    rcases List.mem_cons.mp ((perm_pushAndSort l _).mem_iff.mp hp) with rfl | hp
    · exact hstart h
    · exact hl p hp
  redo hl p hp := by
    obtain ⟨q, hq, rfl⟩ := List.mem_map.mp hp
    exact hredo (hl q hq)
  erase _ hl p hp := hl p (List.mem_of_mem_eraseP hp)
  nil := List.forall_mem_nil _
  tasks hl p hp := htask (hl p hp)
  valid := hvalid
  save := hsave
  restart := hrestart

theorem keeps_retries (now : UInt64) :
    Keeps now (fun _ => True) (fun task => 0 ≤ task.retry_count ∧ task.retry_count ≤ 30)
      fun l => ∀ p ∈ l, Retries p := by
  refine .each Retries.of_act (fun h => ⟨h.1, le_refl _, h.2⟩) (fun h => ⟨h.1, h.2, h.3⟩)
    (fun _ => trivial) (fun _ h => ?_) (fun _ _ => trivial) fun _ _ => trivial
  obtain ⟨-, hle, channel_select, rfl⟩ := validAndInitDefault_some h
  dsimp only
  split <;> omega

/-- **The attempts of a task.**  In every state of every run, each task of the two managers has no
more attempts left than it was started with, at most 30, and never less than none. -/
theorem Run.Reachable.retries {r : Run} (h : r.Reachable) :
    ∀ p ∈ r.core.longlink_task_manager_.lst_cmd_ ++ r.core.shortlink_task_manager_.lst_cmd_,
      0 ≤ p.remain_retry_count ∧ p.remain_retry_count ≤ p.task.retry_count ∧
        p.task.retry_count ≤ 30 := by
  have hholds : r.core.AtRest ∧
      r.core.Holds (fun _ => True) (fun l => ∀ p ∈ l, Retries p) := by
    refine h.invariant (fun r => r.core.AtRest ∧
      r.core.Holds (fun _ => True) (fun l => ∀ p ∈ l, Retries p))
      (fun r hr => ⟨hr.rest, hr.holds (List.forall_mem_nil _)⟩) ?_
    rintro r e - ⟨hrest, hold⟩ rfl
    cases e with
    | post task =>
        exact ⟨⟨hrest.long, hrest.short⟩, fun _ _ => trivial, hold.long, hold.short, hold.zombie⟩
    | message a msg =>
        have hflush : r.core.flush.Holds (fun _ => True) (fun l => ∀ p ∈ l, Retries p) :=
          ⟨hold.starting, hold.long, hold.short, hold.zombie⟩
        exact ⟨NetCore.atRest_handle a hrest.flush msg,
          NetCore.Keeps.handle (keeps_retries a.env.now) hflush hrest.flush msg⟩
  intro p hp
  have hretries : Retries p := by
    rcases List.mem_append.mp hp with hp | hp
    · exact hholds.2.long p hp
    · exact hholds.2.short p hp
  exact ⟨hretries.nonneg, hretries.le, hretries.bounded⟩

/-- A task that has been sent has its retry left. -/
theorem Run.retries_first :
    let lst_cmd_ := (firstTask (longTask 1 3)).core.longlink_task_manager_.lst_cmd_
    lst_cmd_.map (·.remain_retry_count) = [1] ∧
      ∀ p ∈ lst_cmd_, p.remain_retry_count ≤ p.task.retry_count :=
  ⟨by decide +kernel, fun p hp => (Run.Reachable.retries (reachable_firstTask (longTask 1 3)) p
    (List.mem_append_left _ hp)).2.1⟩

/-! ### The attempts that are made -/

/-- How often `p` may still be sent, where it is `t`: it is waiting to be sent, and it may fail. -/
def TaskProfile.attempts (t : Nat) (p : TaskProfile) : Nat :=
  if p.task.taskid = t then p.remain_retry_count.toNat + if p.running_id = 0 then 1 else 0 else 0

/-- How often `t` may still be sent. -/
def attemptsOf (t : Nat) (l : List TaskProfile) : Nat := (l.map (TaskProfile.attempts t)).sum

/-- How often a call sends `t`. -/
def Call.sendOf (t : Nat) : Call → Nat
  | .send taskid => if taskid = t then 1 else 0
  | _ => 0

/-- How often calls send `t`. -/
def sendsOf (t : Nat) (calls : List Call) : Nat := (calls.map (Call.sendOf t)).sum

/-- How often an output sends `t`. -/
def Output.sendOf (t : Nat) : Output → Nat
  | .send taskid => if taskid = t then 1 else 0
  | _ => 0

/-- How often outputs send `t`. -/
def sentIn (t : Nat) (out : List Output) : Nat := (out.map (Output.sendOf t)).sum

section
variable (t : Nat)

theorem attempts_of_fixed {p p' : TaskProfile} (hfixed : p'.fixed = p.fixed) {n : Nat}
    (h : n + p'.remain_retry_count.toNat + (if p'.running_id = 0 then 1 else 0) ≤
      p.remain_retry_count.toNat + if p.running_id = 0 then 1 else 0) :
    (if p.task.taskid = t then n else 0) + p'.attempts t ≤ p.attempts t := by
  rw [TaskProfile.attempts, TaskProfile.attempts,
    show p'.task = p.task from congrArg Prod.fst hfixed]
  split
  · rw [← add_assoc]
    exact h
  · exact le_refl 0

/-- **A task is sent, or fails, one attempt less.** -/
theorem DidBy.sends {now : UInt64} {l l' : List TaskProfile} {calls calls' : List Call}
    (h : DidBy (Act now) l calls l' calls') :
    sendsOf t calls' + attemptsOf t l' ≤ sendsOf t calls + attemptsOf t l := by
  obtain ⟨cs, rfl, hw⟩ := h
  have hsum : sendsOf t cs + attemptsOf t l' ≤ attemptsOf t l := by
    refine hw.weigh (r := (· ≤ ·)) (fun z h => Nat.add_le_add_right h z) (fun hact => ?_)
      fun {c} hc => ?_
    · have hkept {p p' : TaskProfile} (hfixed : p'.fixed = p.fixed)
          (h : p'.remain_retry_count.toNat + (if p'.running_id = 0 then 1 else 0) ≤
            p.remain_retry_count.toNat + if p.running_id = 0 then 1 else 0) :
          ([].map (Call.sendOf t)).sum + ((some p').toList.map (TaskProfile.attempts t)).sum ≤
            p.attempts t := by
        have hle := attempts_of_fixed t hfixed (n := 0) (by rwa [zero_add])
        simpa using hle
      cases hact with
      | move hm =>
          cases hm with
          | write h => exact hkept h.fixed (by rw [h.retry, h.id])
          | send idle busy hfixed hretry =>
              have hle := attempts_of_fixed t hfixed (n := 1)
                (by rw [hretry, if_neg busy, if_pos idle, add_zero, add_comm])
              simpa [Call.sendOf] using hle
          | retry left hfixed hretry idle =>
              refine hkept hfixed ?_
              rw [hretry, if_pos idle]
              omega
          | finish _ => exact Nat.zero_le _
      | answer hfixed hretry hid => exact hkept hfixed (by rw [hid]; omega)
    · cases c <;> first | exact le_refl 0 | exact hc.elim
  rw [sendsOf, List.map_append, List.sum_append, add_assoc]
  exact Nat.add_le_add_left hsum _

theorem attemptsOf_redo (l : List TaskProfile) :
    attemptsOf t (l.map .redo) ≤ attemptsOf t l + tasksOf t l := by
  induction l with
  | nil => exact le_refl 0
  | cons p l ih =>
      have hone : p.redo.attempts t ≤ p.attempts t + p.countOf t := by
        have hredo : p.redo.attempts t =
            if p.task.taskid = t then p.remain_retry_count.toNat + 1 else 0 := rfl
        rw [hredo, TaskProfile.attempts, TaskProfile.countOf]
        split <;> omega
      simp only [attemptsOf, List.map_cons, List.sum_cons, tasksOf_cons] at ih ⊢
      omega

theorem attemptsOf_pushAndSort (now : UInt64) (task : Task) (l : List TaskProfile) :
    attemptsOf t (pushAndSort l (.ofTask now task)) =
      (if task.taskid = t then task.retry_count.toNat + 1 else 0) + attemptsOf t l :=
  ((perm_pushAndSort l (.ofTask now task)).map _).sum_eq

theorem attemptsOf_erase (l : List TaskProfile) (taskid : Nat) :
    attemptsOf t (l.eraseP (·.task.taskid = taskid)) ≤ attemptsOf t l :=
  (List.eraseP_sublist.map _).sum_le_sum fun _ _ => Nat.zero_le _

end

namespace NetCore

/-- How often `t` has been sent in a message, and may still be sent. -/
def spent (t : Nat) (c : NetCore) : Nat :=
  sentIn t c.out + attemptsOf t c.longlink_task_manager_.lst_cmd_ +
    attemptsOf t c.shortlink_task_manager_.lst_cmd_

/-- What a message adds to the times `t` may be sent: the first attempt and the retries of a start,
one attempt for each task that is redone. -/
def granted (t : Nat) (c : NetCore) : Message → Nat
  | .start =>
      match c.starting.head?.bind validAndInitDefault with
      | some task => if task.taskid = t then task.retry_count.toNat + 1 else 0
      | none => 0
  | .redo longRedo =>
      (if longRedo then tasksOf t c.longlink_task_manager_.lst_cmd_ else 0) +
        tasksOf t c.shortlink_task_manager_.lst_cmd_
  | _ => 0

section
variable (t : Nat) (now : UInt64)

theorem sentIn_append (out out' : List Output) :
    sentIn t (out ++ out') = sentIn t out + sentIn t out' := by
  rw [sentIn, List.map_append, List.sum_append, sentIn, sentIn]

theorem sentIn_callBack (c : NetCore) (source : CallFrom) (err_type : ErrCmdType)
    (err_code fail_handle : Int) (task : Task) (taskcosttime : UInt32) :
    sentIn t (c.callBack now source err_type err_code fail_handle task taskcosttime).out =
      sentIn t c.out := by
  have hend : sentIn t (c.onTaskEnd task.taskid err_type err_code).out = sentIn t c.out :=
    sentIn_append t _ _
  rw [callBack]
  split
  · exact hend
  · split
    · exact hend
    · split
      · rfl
      · exact hend

theorem sentIn_withZombie (c : NetCore) (r : ZombieTaskManager × List ZombieCall) :
    sentIn t (c.withZombie now r).out = sentIn t c.out := by
  have hcalls (calls : List ZombieCall) (c : NetCore) :
      sentIn t (calls.foldl (zombieCall now) c).out = sentIn t c.out := by
    induction calls generalizing c with
    | nil => rfl
    | cons call calls ih =>
        rw [List.foldl_cons, ih]
        cases call with
        | startTask task => rfl
        | callBack => exact sentIn_callBack ..
  exact hcalls r.2 _

theorem sentIn_managerCalls (source : CallFrom) (calls : List Call) (c : NetCore) :
    sentIn t (calls.foldl (managerCall now source) c).out = sentIn t c.out + sendsOf t calls := by
  induction calls generalizing c with
  | nil => rfl
  | cons call calls ih =>
      have hcall :
          sentIn t (c.managerCall now source call).out = sentIn t c.out + call.sendOf t := by
        cases call with
        | callBack => exact sentIn_callBack ..
        | notifyNetworkErr err_type err_code =>
            rw [managerCall]
            split
            · exact sentIn_withZombie ..
            · rfl
        | req2Buf | buf2Resp | onPush | send => exact sentIn_append t _ _
        | cgiTaskStatistic | stop | deleteShortLink | disconnect => rfl
      rw [List.foldl_cons, ih, hcall, add_assoc]
      rfl

variable {c : NetCore}

/-- A function of the long link's manager that begins with the list `l`. -/
theorem spent_withLong (hrest : c.AtRest) {l : List TaskProfile} {m : LongLinkTaskManager}
    (h : DidBy (Act now) l c.longlink_task_manager_.calls m.lst_cmd_ m.calls) :
    (c.withLong now m).spent t + attemptsOf t c.longlink_task_manager_.lst_cmd_ ≤
      c.spent t + attemptsOf t l := by
  have hsends := h.sends t
  rw [hrest.long, show sendsOf t [] = 0 from rfl] at hsends
  rw [spent, withLong_long, withLong_short, withLong, sentIn_managerCalls, spent]
  dsimp only
  omega

/-- A function of the short links' manager that begins with the list `l`. -/
theorem spent_withShort (hrest : c.AtRest) {l : List TaskProfile} {m : ShortLinkTaskManager}
    (h : DidBy (Act now) l c.shortlink_task_manager_.calls m.lst_cmd_ m.calls) :
    (c.withShort now m).spent t + attemptsOf t c.shortlink_task_manager_.lst_cmd_ ≤
      c.spent t + attemptsOf t l := by
  have hsends := h.sends t
  rw [hrest.short, show sendsOf t [] = 0 from rfl] at hsends
  rw [spent, withShort_short, withShort_long, withShort, sentIn_managerCalls, spent]
  dsimp only
  omega

/-- Callbacks send nothing. -/
theorem spent_of_same {c' : NetCore} (hsame : SameManagers c c')
    (hsent : sentIn t c'.out = sentIn t c.out) : c'.spent t = c.spent t := by
  rw [spent, hsent, hsame.long, hsame.short, spent]

theorem spent_redoZombies (c : NetCore) : (c.redoZombies now).spent t = c.spent t :=
  spent_of_same t (same_redoZombies ..) (sentIn_withZombie ..)

theorem spent_onTaskEnd (c : NetCore) (taskid : Nat) (error_type : ErrCmdType) (error_code : Int) :
    (c.onTaskEnd taskid error_type error_code).spent t = c.spent t :=
  spent_of_same t ⟨rfl, rfl⟩ (sentIn_append t _ _)

end

section
variable (t : Nat) (a : Answers) {c : NetCore}

theorem spent_retryTasks (hrest : c.AtRest) (r : Option RetryAll) :
    (c.retryTasks a r).spent t ≤ c.spent t := by
  cases r with
  | none => exact le_refl _
  | some r =>
      have hshort := spent_withShort t a.env.now hrest (Did.act
        (ShortLinkTaskManager.did_retryTasks a.env a.short _ r.err_type
          r.err_code r.fail_handle r.src_taskid))
      have hlong {c : NetCore} (hrest : c.AtRest) := spent_withLong t a.env.now hrest (Did.act
        (LongLinkTaskManager.did_retryTasks a.env a.long _ r.err_type
          r.err_code r.fail_handle r.src_taskid))
      exact (Nat.le_of_add_le_add_right (hlong (hrest.withShort _ _))).trans
        (Nat.le_of_add_le_add_right hshort)

theorem spent_startOn (hrest : c.AtRest) (task : Task) :
    (c.startOn a task).1.spent t ≤
      c.spent t + if task.taskid = t then task.retry_count.toNat + 1 else 0 := by
  have hlong := spent_withLong t a.env.now hrest (Did.act
    (LongLinkTaskManager.did_startTask a.env a.long _ task))
  have hshort : (c.withShort a.env.now
      (c.shortlink_task_manager_.startTask a.env a.short task).1).spent t ≤ c.spent t +
        if task.taskid = t then task.retry_count.toNat + 1 else 0 := by
    cases hok : (c.shortlink_task_manager_.startTask a.env a.short task).2 with
    | true =>
        have hle := spent_withShort t a.env.now hrest
          (Did.act (ShortLinkTaskManager.did_startTask hok))
        rw [attemptsOf_pushAndSort] at hle
        omega
    | false =>
        rw [ShortLinkTaskManager.startTask_eq_self hok]
        have hle := spent_withShort t a.env.now hrest
          (DidBy.refl c.shortlink_task_manager_.lst_cmd_ c.shortlink_task_manager_.calls)
        omega
  rw [attemptsOf_pushAndSort] at hlong
  rw [startOn]
  dsimp only
  split
  · split
    · dsimp only
      omega
    · exact hshort
  · split
    · dsimp only
      omega
    · split
      · exact hshort
      · exact Nat.le_add_right _ _

theorem spent_startTask (hrest : c.AtRest) (task : Task) :
    (c.startTask a task).spent t ≤ c.spent t +
      match validAndInitDefault task with
      | some task => if task.taskid = t then task.retry_count.toNat + 1 else 0
      | none => 0 := by
  rw [startTask]
  cases hvalid : validAndInitDefault task with
  | none => exact (spent_onTaskEnd t c _ _ _).le
  | some task' =>
      dsimp only
      split
      · rw [spent_onTaskEnd]
        exact Nat.le_add_right _ _
      · split
        · rw [spent_onTaskEnd]
          exact Nat.le_add_right _ _
        · have hstart := spent_startOn t a hrest task'
          split
          · rw [spent_onTaskEnd]
            exact hstart
          · exact hstart

theorem spent_redoTasks (hrest : c.AtRest) (longRedo : Bool) :
    (c.redoTasks a longRedo).spent t ≤ c.spent t + c.granted t (.redo longRedo) := by
  have hshort {c : NetCore} (hrest : c.AtRest) : (c.withShort a.env.now
      (c.shortlink_task_manager_.redoTasks a.env a.short)).spent t ≤
        c.spent t + tasksOf t c.shortlink_task_manager_.lst_cmd_ := by
    have hle := spent_withShort t a.env.now hrest
      (Did.act (ShortLinkTaskManager.did_redoTasks a.env a.short _))
    have hredo := attemptsOf_redo t c.shortlink_task_manager_.lst_cmd_
    omega
  have hlong : (c.withLong a.env.now
      (c.longlink_task_manager_.redoTasks a.env a.long)).spent t ≤
        c.spent t + tasksOf t c.longlink_task_manager_.lst_cmd_ := by
    have hle := spent_withLong t a.env.now hrest
      (Did.act (LongLinkTaskManager.did_redoTasks a.env a.long _))
    have hredo := attemptsOf_redo t c.longlink_task_manager_.lst_cmd_
    omega
  rw [redoTasks, granted]
  cases longRedo with
  | true =>
      have hsame := same_redoZombies a.env.now (c.withLong a.env.now
        (c.longlink_task_manager_.redoTasks a.env a.long))
      have hle := hshort ((hrest.withLong _ _).of_same hsame)
      have htasks : tasksOf t ((c.withLong a.env.now
          (c.longlink_task_manager_.redoTasks a.env a.long)).redoZombies
            a.env.now).shortlink_task_manager_.lst_cmd_ =
          tasksOf t c.shortlink_task_manager_.lst_cmd_ := by
        rw [hsame.short, withLong_short]
      rw [spent_redoZombies, htasks] at hle
      simp only [if_true]
      omega
  | false =>
      have hsame := same_redoZombies a.env.now c
      have hle := hshort (hrest.of_same hsame)
      have htasks : tasksOf t (c.redoZombies a.env.now).shortlink_task_manager_.lst_cmd_ =
          tasksOf t c.shortlink_task_manager_.lst_cmd_ := by
        rw [hsame.short]
      rw [spent_redoZombies, htasks] at hle
      simpa using hle

theorem spent_stopTask (c : NetCore) (taskid : Nat) :
    (c.stopTask taskid).1.spent t ≤ c.spent t := by
  have hlong : attemptsOf t (c.longlink_task_manager_.stopTask taskid).1.lst_cmd_ ≤
      attemptsOf t c.longlink_task_manager_.lst_cmd_ := by
    rw [LongLinkTaskManager.stopTask]
    split
    · exact attemptsOf_erase t _ taskid
    · exact le_refl _
  have hshort : attemptsOf t (c.shortlink_task_manager_.stopTask taskid).1.lst_cmd_ ≤
      attemptsOf t c.shortlink_task_manager_.lst_cmd_ := by
    rw [ShortLinkTaskManager.stopTask]
    split
    · exact le_refl _
    · exact attemptsOf_erase t _ taskid
  rw [stopTask]
  dsimp only
  split
  · simp only [spent]
    omega
  · split
    · exact le_refl _
    · simp only [spent]
      omega

/-- **One message** spends no more than it grants. -/
theorem spent_handle (hrest : c.AtRest) (msg : Message) :
    (c.handle a msg).spent t ≤ c.spent t + c.granted t msg := by
  have hlong {m} (h : LongLinkTaskManager.To (Act a.env.now) c.longlink_task_manager_ m) :
      (c.withLong a.env.now m).spent t ≤ c.spent t :=
    Nat.le_of_add_le_add_right (spent_withLong t a.env.now hrest h)
  have hshort {m} (h : ShortLinkTaskManager.To (Act a.env.now) c.shortlink_task_manager_ m) :
      (c.withShort a.env.now m).spent t ≤ c.spent t :=
    Nat.le_of_add_le_add_right (spent_withShort t a.env.now hrest h)
  cases msg with
  | start =>
      rw [handle, granted]
      split
      · exact Nat.le_add_right _ _
      · rename_i task starting hstarting
        rw [hstarting]
        have hpop : { c with starting }.AtRest := ⟨hrest.long, hrest.short⟩
        exact spent_startTask t a hpop task
  | stopTask taskid => exact spent_stopTask t c taskid
  | clearTasks =>
      simp only [handle, clearTasks, LongLinkTaskManager.clearTasks,
        ShortLinkTaskManager.clearTasks,
        spent, attemptsOf, List.map_nil, List.sum_nil]
      omega
  | redo longRedo => exact spent_redoTasks t a hrest longRedo
  | longRunLoop => exact hlong (Did.act (LongLinkTaskManager.did_runLoop _))
  | shortRunLoop => exact hshort (Did.act (ShortLinkTaskManager.did_runLoop _))
  | timerChecker => exact (spent_of_same t (same_withZombie ..) (sentIn_withZombie ..)).le
  | longSend taskid => exact hlong (Did.act (LongLinkTaskManager.did_onSend ..))
  | longRecv => exact hlong (Did.act (LongLinkTaskManager.did_onRecv ..))
  | longResponse =>
      exact (spent_retryTasks t a (hrest.withLong _ _) _).trans
        (hlong (LongLinkTaskManager.act_onResponse ..))
  | longConnStatus connected =>
      rw [handle]
      split
      · rw [spent_redoZombies]
        exact hlong (Did.act (LongLinkTaskManager.did_runLoop _))
      · exact le_refl _
  | shortSend worker => exact hshort (Did.act (ShortLinkTaskManager.did_onSend ..))
  | shortRecv => exact hshort (Did.act (ShortLinkTaskManager.did_onRecv ..))
  | shortResponse =>
      exact (spent_retryTasks t a (hrest.withShort _ _) _).trans
        (hshort (ShortLinkTaskManager.act_onResponse ..))
  | networkReport err_type =>
      rw [handle]
      split
      · rw [spent_redoZombies]
        exact le_refl _
      · exact le_refl _

end

end NetCore

/-! ### Runs -/

/-- A run, with how often `t` has been sent, and how often it might have been. -/
structure Tally where
  run : Run
  sent : Nat
  granted : Nat

namespace Tally

def step (t : Nat) (s : Tally) : RunEvent → Tally
  | .post task => { s with run := s.run.step (.post task) }
  | .message a msg =>
      let run := s.run.step (.message a msg)
      ⟨run, s.sent + sentIn t run.core.out, s.granted + s.run.core.granted t msg⟩

/-- The states of all runs. -/
def Reachable (t : Nat) : Tally → Prop :=
  Support.Reachable (fun s => s.run.Initial ∧ s.sent = 0 ∧ s.granted = 0)
    fun s e s' => s' = s.step t e

/-- **No task is sent too often.**  In every run, a task has been sent at most as often as its
starts, with their retries, and the times it was redone have granted, and what is left of its
attempts would not exceed that either. -/
theorem Reachable.sent_le {t : Nat} {s : Tally} (h : Reachable t s) :
    s.sent + attemptsOf t s.run.core.longlink_task_manager_.lst_cmd_ +
      attemptsOf t s.run.core.shortlink_task_manager_.lst_cmd_ ≤ s.granted := by
  have hspent : s.run.core.AtRest ∧
      s.sent + attemptsOf t s.run.core.longlink_task_manager_.lst_cmd_ +
        attemptsOf t s.run.core.shortlink_task_manager_.lst_cmd_ ≤ s.granted := by
    refine h.invariant (fun s => s.run.core.AtRest ∧
      s.sent + attemptsOf t s.run.core.longlink_task_manager_.lst_cmd_ +
        attemptsOf t s.run.core.shortlink_task_manager_.lst_cmd_ ≤ s.granted) ?_ ?_
    · rintro s ⟨hr, hsent, -⟩
      have hlists := hr.holds (U := fun _ => True) (G := fun l => l = []) rfl
      rw [hsent, hlists.long, hlists.short]
      exact ⟨hr.rest, Nat.zero_le _⟩
    · rintro s e - ⟨hrest, hle⟩ rfl
      cases e with
      | post task => exact ⟨⟨hrest.long, hrest.short⟩, hle⟩
      | message a msg =>
          have hmsg := NetCore.spent_handle t a hrest.flush msg
          have hflush : s.run.core.flush.spent t =
              attemptsOf t s.run.core.longlink_task_manager_.lst_cmd_ +
                attemptsOf t s.run.core.shortlink_task_manager_.lst_cmd_ := by
            rw [NetCore.spent, show sentIn t s.run.core.flush.out = 0 from rfl, zero_add]
            rfl
          have hgranted : s.run.core.flush.granted t msg = s.run.core.granted t msg := rfl
          rw [hflush, hgranted, NetCore.spent] at hmsg
          refine ⟨NetCore.atRest_handle a hrest.flush msg, ?_⟩
          simp only [step, Run.step]
          omega
  exact hspent.2

/-- A task is sent. -/
def firstTask (task : Task) : Tally :=
  ((⟨⟨.idle, [], [], []⟩, 0, 0⟩ : Tally).step task.taskid (.post task)).step task.taskid
    (.message plainAnswers .start)

theorem reachable_firstTask (task : Task) : Reachable task.taskid (firstTask task) := by
  have hidle : Reachable task.taskid ⟨⟨.idle, [], [], []⟩, 0, 0⟩ :=
    .start ⟨⟨⟨rfl, rfl⟩, rfl, rfl, rfl, rfl⟩, rfl, rfl⟩
  exact (hidle.next rfl).next rfl

/-- It may be sent again. -/
theorem sent_le_first : (firstTask (longTask 1 3)).sent = 1 ∧
    attemptsOf 1 (firstTask (longTask 1 3)).run.core.longlink_task_manager_.lst_cmd_ = 1 ∧
      (firstTask (longTask 1 3)).sent +
        attemptsOf 1 (firstTask (longTask 1 3)).run.core.longlink_task_manager_.lst_cmd_ +
        attemptsOf 1 (firstTask (longTask 1 3)).run.core.shortlink_task_manager_.lst_cmd_ ≤
          (firstTask (longTask 1 3)).granted :=
  ⟨by decide +kernel, by decide +kernel, Reachable.sent_le (reachable_firstTask (longTask 1 3))⟩

end Tally

end MicroChat.Stn
