import MicroChat.Stn.Conservation

/-!
# Stn — TaskOrder

What holds of every task mars has, and of the lists of the managers.

* `Keeps`, `Holds`: predicates on tasks and on lists that no function of the managers breaks.
* `Keeps.handle`: no message breaks them.
* `Run.Timely.ordered`: the lists are sorted, and first come, first served among equals.
-/

namespace MicroChat.Stn
open Support

/-- A task a call is about has `U`. -/
def Call.About (U : Task → Prop) : Call → Prop
  | .callBack _ _ _ task _ => U task
  | _ => True

/-- A task a call is about has `U`. -/
def ZombieCall.About (U : Task → Prop) : ZombieCall → Prop
  | .startTask task | .callBack _ _ _ task _ => U task

/-- At the time `now`: `U` holds of all tasks, `V` of those that are put into a list, `G` of the
lists. -/
structure Keeps (now : UInt64) (U V : Task → Prop) (G : List TaskProfile → Prop) : Prop where
  act {l l' : List TaskProfile} {calls calls' : List Call}
    (h : DidBy (Act now) l calls l' calls') (hl : G l) : G l'
  start {l : List TaskProfile} {task : Task} (h : V task) (hl : G l) :
    G (pushAndSort l (.ofTask now task))
  redo {l : List TaskProfile} (hl : G l) : G (l.map .redo)
  erase {l : List TaskProfile} (taskid : Nat) (hl : G l) :
    G (l.eraseP (·.task.taskid = taskid))
  nil : G []
  tasks {l : List TaskProfile} (hl : G l) : ∀ p ∈ l, U p.task
  valid {task task' : Task} (h : U task) (hvalid : validAndInitDefault task = some task') : V task'
  save {task : Task} (h : U task) (total_timetout : Int32) :
    U { task with retry_count := 0, total_timetout }
  restart {task : Task} (h : U task) (total_timetout : Int32) : U { task with total_timetout }

namespace NetCore

structure Holds (U : Task → Prop) (G : List TaskProfile → Prop) (c : NetCore) : Prop where
  starting : ∀ task ∈ c.starting, U task
  long : G c.longlink_task_manager_.lst_cmd_
  short : G c.shortlink_task_manager_.lst_cmd_
  zombie : ∀ z ∈ c.zombie_task_manager_.lsttask_, U z.task

/-- mars before its first task. -/
theorem holds_of_taskids_nil {U : Task → Prop} {G : List TaskProfile → Prop} {c : NetCore}
    (h : c.taskids = []) (hG : G []) : c.Holds U G := by
  simp only [taskids, List.append_eq_nil_iff, List.map_eq_nil_iff] at h
  obtain ⟨hstarting, hlong, hshort, hzombie⟩ := h
  refine ⟨?_, ?_, ?_, ?_⟩
  · rw [hstarting]
    exact List.forall_mem_nil _
  · rwa [hlong]
  · rwa [hshort]
  · rw [hzombie]
    exact List.forall_mem_nil _

section
variable {now : UInt64} {U V : Task → Prop} {G : List TaskProfile → Prop} {c : NetCore}

theorem Holds.onTaskEnd (h : c.Holds U G) (taskid : Nat) (error_type : ErrCmdType)
    (error_code : Int) : (c.onTaskEnd taskid error_type error_code).Holds U G :=
  ⟨h.starting, h.long, h.short, h.zombie⟩

variable (hk : Keeps now U V G)
include hk

theorem Holds.callBack (h : c.Holds U G) (source : CallFrom) (err_type : ErrCmdType)
    (err_code fail_handle : Int) {task : Task} (ht : U task) (taskcosttime : UInt32) :
    (c.callBack now source err_type err_code fail_handle task taskcosttime).Holds U G := by
  rw [NetCore.callBack]
  split
  · exact h.onTaskEnd ..
  · split
    · exact h.onTaskEnd ..
    · split
      · rename_i z hz
        rw [ZombieTaskManager.saveTask] at hz
        split at hz
        · cases hz
        · dsimp only at hz
          split at hz
          · cases hz
          · cases hz
            refine ⟨h.starting, h.long, h.short, fun z hz => ?_⟩
            rcases List.mem_append.mp hz with hz | hz
            · exact h.zombie z hz
            · rw [List.mem_singleton.mp hz]
              exact hk.save ht _
      · exact h.onTaskEnd ..

theorem Holds.withZombie (h : c.Holds U G) {r : ZombieTaskManager × List ZombieCall}
    (hcalls : ∀ call ∈ r.2, call.About U) (hz : ∀ z ∈ r.1.lsttask_, U z.task) :
    (c.withZombie now r).Holds U G := by
  have hall (calls : List ZombieCall) (hcalls : ∀ call ∈ calls, call.About U) (c : NetCore)
      (h : c.Holds U G) : (calls.foldl (zombieCall now) c).Holds U G := by
    induction calls generalizing c with
    | nil => exact h
    | cons call calls ih =>
        have hcall := hcalls call List.mem_cons_self
        refine ih (fun call' hc => hcalls call' (List.mem_cons_of_mem call hc)) _ ?_
        cases call with
        | startTask task =>
            exact ⟨List.forall_mem_append.mpr ⟨h.starting, List.forall_mem_singleton.mpr hcall⟩,
              h.long, h.short, h.zombie⟩
        | callBack => exact h.callBack hk .zombie _ _ _ hcall _
  exact hall r.2 hcalls _ ⟨h.starting, h.long, h.short, hz⟩

theorem Holds.redoZombies (h : c.Holds U G) : (c.redoZombies now).Holds U G := by
  refine h.withZombie hk (fun call hcall => ?_) (List.forall_mem_nil _)
  obtain ⟨z, hz, rfl⟩ := List.mem_map.mp hcall
  have hz := h.zombie z ((List.mem_insertionSort _).mp hz)
  split
  · exact hz
  · exact hk.restart hz _

theorem Holds.timerChecker (h : c.Holds U G) :
    (c.withZombie now (c.zombie_task_manager_.timerChecker now)).Holds U G := by
  have hmove {z : ZombieTask} {calls : List ZombieCall} {o : Option ZombieTask}
      (hm : ZombieTaskManager.TimerMove now z calls o) (hz : U z.task) :
      (∀ call ∈ calls, call.About U) ∧ ∀ z' ∈ o, U z'.task := by
    cases hm with
    | stay => exact ⟨List.forall_mem_nil _, fun z' hz' => by cases hz'; exact hz⟩
    | timeout =>
        exact ⟨List.forall_mem_singleton.mpr hz,
          fun _ hnone => absurd hnone (Option.not_mem_none _)⟩
    | restart =>
        exact ⟨List.forall_mem_singleton.mpr (hk.restart hz _),
          fun _ hnone => absurd hnone (Option.not_mem_none _)⟩
  obtain ⟨hcalls, hz⟩ := (c.zombie_task_manager_.timerChecker_works now).invariant hmove
    (fun h => h.elim) h.zombie
  exact h.withZombie hk hcalls hz

theorem Holds.managerCalls (h : c.Holds U G) (source : CallFrom) {calls : List Call}
    (hcalls : ∀ call ∈ calls, call.About U) :
    (calls.foldl (managerCall now source) c).Holds U G := by
  induction calls generalizing c with
  | nil => exact h
  | cons call calls ih =>
      have hcall := hcalls call List.mem_cons_self
      refine ih ?_ fun call' hc => hcalls call' (List.mem_cons_of_mem call hc)
      cases call with
      | callBack => exact h.callBack hk source _ _ _ hcall _
      | notifyNetworkErr err_type err_code =>
          rw [managerCall]
          split
          · exact h.redoZombies hk
          · exact h
      | req2Buf | buf2Resp | onPush | send => exact ⟨h.starting, h.long, h.short, h.zombie⟩
      | cgiTaskStatistic | stop | deleteShortLink | disconnect => exact h

omit c in
/-- The tasks of the calls are those of the list. -/
theorem about_of_did {l l' : List TaskProfile} {calls : List Call}
    (h : DidBy (Act now) l [] l' calls) (hl : G l) : ∀ call ∈ calls, call.About U := by
  obtain ⟨cs, rfl, hw⟩ := h
  refine (hw.invariant (Q := fun p => U p.task) (fun hact hp => ?_) (fun hc => ?_)
    (hk.tasks hl)).1
  · have hkept {p p' : TaskProfile} (hfixed : p'.fixed = p.fixed) (hp : U p.task) :
        ∀ q ∈ some p', U q.task := by
      intro q hq
      cases hq
      rw [show p'.task = p.task from congrArg Prod.fst hfixed]
      exact hp
    cases hact with
    | move hm =>
        cases hm with
        | write h => exact ⟨List.forall_mem_nil _, hkept h.fixed hp⟩
        | send _ _ hfixed _ => exact ⟨List.forall_mem_singleton.mpr trivial, hkept hfixed hp⟩
        | retry _ hfixed _ _ => exact ⟨List.forall_mem_nil _, hkept hfixed hp⟩
        | finish _ =>
            exact ⟨List.forall_mem_singleton.mpr hp,
              fun _ hnone => absurd hnone (Option.not_mem_none _)⟩
    | answer hfixed _ _ => exact ⟨List.forall_mem_singleton.mpr trivial, hkept hfixed hp⟩
  · rename_i call
    cases call <;> trivial

theorem Holds.withLong (h : c.Holds U G) (hrest : c.AtRest) {l : List TaskProfile} (hl : G l)
    {m : LongLinkTaskManager}
    (hdid : DidBy (Act now) l c.longlink_task_manager_.calls m.lst_cmd_ m.calls) :
    (c.withLong now m).Holds U G := by
  rw [hrest.long] at hdid
  have hput : Holds U G { c with longlink_task_manager_ := { m with calls := [] } } :=
    ⟨h.starting, hk.act hdid hl, h.short, h.zombie⟩
  exact hput.managerCalls hk .long (about_of_did hk hdid hl)

theorem Holds.withShort (h : c.Holds U G) (hrest : c.AtRest) {l : List TaskProfile} (hl : G l)
    {m : ShortLinkTaskManager}
    (hdid : DidBy (Act now) l c.shortlink_task_manager_.calls m.lst_cmd_ m.calls) :
    (c.withShort now m).Holds U G := by
  rw [hrest.short] at hdid
  have hput : Holds U G { c with shortlink_task_manager_ := { m with calls := [] } } :=
    ⟨h.starting, h.long, hk.act hdid hl, h.zombie⟩
  exact hput.managerCalls hk .short (about_of_did hk hdid hl)

end

section
variable {U V : Task → Prop} {G : List TaskProfile → Prop} {a : Answers} {c : NetCore}
  (hk : Keeps a.env.now U V G)
include hk

theorem Holds.startTask (h : c.Holds U G) (hrest : c.AtRest) {task : Task} (ht : U task) :
    (c.startTask a task).Holds U G := by
  have hon {task : Task} (ht : V task) : (c.startOn a task).1.Holds U G := by
    have hlong := h.withLong hk hrest (hk.start ht h.long)
      (Did.act (LongLinkTaskManager.did_startTask a.env a.long _ task))
    have hshort : (c.withShort a.env.now
        (c.shortlink_task_manager_.startTask a.env a.short task).1).Holds U G := by
      cases hok : (c.shortlink_task_manager_.startTask a.env a.short task).2 with
      | true =>
          exact h.withShort hk hrest (hk.start ht h.short)
            (Did.act (ShortLinkTaskManager.did_startTask hok))
      | false =>
          rw [ShortLinkTaskManager.startTask_eq_self hok]
          exact h.withShort hk hrest h.short (.refl ..)
    rw [startOn]
    dsimp only
    split
    · split
      · exact hlong
      · exact hshort
    · split
      · exact hlong
      · split
        · exact hshort
        · exact h
  rw [NetCore.startTask]
  split
  · exact h.onTaskEnd ..
  · rename_i task' hvalid
    split
    · exact h.onTaskEnd ..
    · split
      · exact h.onTaskEnd ..
      · have hstarted := hon (hk.valid ht hvalid)
        dsimp only
        split
        · exact hstarted.onTaskEnd ..
        · exact ⟨hstarted.starting, hstarted.long, hstarted.short, hstarted.zombie⟩

theorem Holds.redoTasks (h : c.Holds U G) (hrest : c.AtRest) (longRedo : Bool) :
    (c.redoTasks a longRedo).Holds U G := by
  have hshort {c : NetCore} (h : c.Holds U G) (hrest : c.AtRest) :=
    h.withShort hk hrest (hk.redo h.short)
      (Did.act (ShortLinkTaskManager.did_redoTasks a.env a.short _))
  rw [NetCore.redoTasks]
  split
  · have hlong := h.withLong hk hrest (hk.redo h.long)
      (Did.act (LongLinkTaskManager.did_redoTasks a.env a.long _))
    exact hshort (hlong.redoZombies hk) ((hrest.withLong _ _).of_same (same_redoZombies ..))
  · exact hshort (h.redoZombies hk) (hrest.of_same (same_redoZombies ..))

theorem Holds.retryTasks (h : c.Holds U G) (hrest : c.AtRest) (r : Option RetryAll) :
    (c.retryTasks a r).Holds U G := by
  cases r with
  | none => exact h
  | some r =>
      have hshort := h.withShort hk hrest h.short (Did.act
        (ShortLinkTaskManager.did_retryTasks a.env a.short _ r.err_type
          r.err_code r.fail_handle r.src_taskid))
      exact hshort.withLong hk (hrest.withShort _ _) hshort.long (Did.act
        (LongLinkTaskManager.did_retryTasks a.env a.long _ r.err_type
          r.err_code r.fail_handle r.src_taskid))

theorem Holds.stopTask (h : c.Holds U G) (taskid : Nat) : (c.stopTask taskid).1.Holds U G := by
  have hlong : G (c.longlink_task_manager_.stopTask taskid).1.lst_cmd_ := by
    rw [LongLinkTaskManager.stopTask]
    split
    · exact hk.erase taskid h.long
    · exact h.long
  have hshort : G (c.shortlink_task_manager_.stopTask taskid).1.lst_cmd_ := by
    rw [ShortLinkTaskManager.stopTask]
    split
    · exact h.short
    · exact hk.erase taskid h.short
  have hzombie : ∀ z ∈ (c.zombie_task_manager_.stopTask taskid).1.lsttask_, U z.task := by
    rw [ZombieTaskManager.stopTask]
    split
    · exact fun z hz => h.zombie z (List.mem_of_mem_eraseP hz)
    · exact h.zombie
  rw [NetCore.stopTask]
  dsimp only
  split
  · exact ⟨h.starting, hlong, h.short, h.zombie⟩
  · split
    · exact ⟨h.starting, h.long, h.short, hzombie⟩
    · exact ⟨h.starting, h.long, hshort, h.zombie⟩

/-- **No message breaks them.** -/
theorem Keeps.handle (h : c.Holds U G) (hrest : c.AtRest) (msg : Message) :
    (c.handle a msg).Holds U G := by
  have hlong {m} (hto : LongLinkTaskManager.To (Act a.env.now) c.longlink_task_manager_ m) :=
    h.withLong hk hrest h.long hto
  have hshort {m} (hto : ShortLinkTaskManager.To (Act a.env.now) c.shortlink_task_manager_ m) :=
    h.withShort hk hrest h.short hto
  cases msg with
  | start =>
      rw [NetCore.handle]
      split
      · exact h
      · rename_i task starting hstarting
        have htasks := h.starting
        rw [hstarting] at htasks
        have hpop : { c with starting }.Holds U G :=
          ⟨fun task' ht => htasks task' (List.mem_cons_of_mem task ht), h.long, h.short, h.zombie⟩
        exact hpop.startTask hk ⟨hrest.long, hrest.short⟩ (htasks task List.mem_cons_self)
  | stopTask taskid => exact h.stopTask hk taskid
  | clearTasks => exact ⟨h.starting, hk.nil, hk.nil, List.forall_mem_nil _⟩
  | redo longRedo => exact h.redoTasks hk hrest longRedo
  | longRunLoop => exact hlong (Did.act (LongLinkTaskManager.did_runLoop _))
  | shortRunLoop => exact hshort (Did.act (ShortLinkTaskManager.did_runLoop _))
  | timerChecker => exact h.timerChecker hk
  | longSend taskid => exact hlong (Did.act (LongLinkTaskManager.did_onSend ..))
  | longRecv => exact hlong (Did.act (LongLinkTaskManager.did_onRecv ..))
  | longResponse =>
      exact (hlong (LongLinkTaskManager.act_onResponse ..)).retryTasks hk (hrest.withLong _ _) _
  | longConnStatus connected =>
      rw [NetCore.handle]
      split
      · exact (hlong (Did.act (LongLinkTaskManager.did_runLoop _))).redoZombies hk
      · exact h
  | shortSend worker => exact hshort (Did.act (ShortLinkTaskManager.did_onSend ..))
  | shortRecv => exact hshort (Did.act (ShortLinkTaskManager.did_onRecv ..))
  | shortResponse =>
      exact (hshort (ShortLinkTaskManager.act_onResponse ..)).retryTasks hk (hrest.withShort _ _) _
  | networkReport err_type =>
      rw [NetCore.handle]
      split
      · exact h.redoZombies hk
      · exact h

end

end NetCore

/-! ### First come, first served -/

/-- The order of the lists, and no task of the future. -/
structure Ordered (now : UInt64) (l : List TaskProfile) : Prop where
  order : l.Pairwise Before
  started : ∀ p ∈ l, p.start_task_time ≤ now

/-- What is left of a list that is in order. -/
theorem Ordered.of_sublist {now : UInt64} {l l' : List TaskProfile} (h : Ordered now l)
    (hsub : (l'.map TaskProfile.fixed).Sublist (l.map TaskProfile.fixed)) : Ordered now l' where
  order := by
    have hkeys : (l.map TaskProfile.fixed).Pairwise fun x y => x.1.priority < y.1.priority ∨
        x.1.priority = y.1.priority ∧ x.2.1 ≤ y.2.1 := List.pairwise_map.mpr h.order
    have hkept := hkeys.sublist hsub
    rwa [List.pairwise_map] at hkept
  started p hp := by
    obtain ⟨q, hq, heq⟩ := List.mem_map.mp (hsub.subset (List.mem_map_of_mem hp))
    rw [show p.start_task_time = q.start_task_time from congrArg (·.2.1) heq.symm]
    exact h.started q hq

theorem keeps_ordered (now : UInt64) :
    Keeps now (fun _ => True) (fun _ => True) (Ordered now) where
  act h hl := hl.of_sublist h.fixed_sublist
  start {l task} _ hl := by
    refine ⟨pairwise_pushAndSort hl.order hl.started, fun p hp => ?_⟩
    rcases List.mem_cons.mp ((perm_pushAndSort l _).mem_iff.mp hp) with rfl | hp
    · exact UInt64.le_refl now
    · exact hl.started p hp
  redo {l} hl := by
    refine hl.of_sublist ?_
    rw [List.map_map]
    exact List.Sublist.refl _
  erase taskid hl := hl.of_sublist (List.eraseP_sublist.map _)
  nil := ⟨.nil, List.forall_mem_nil _⟩
  tasks _ _ _ := trivial
  valid _ _ := trivial
  save _ _ := trivial
  restart _ _ := trivial

/-- The time after an event. -/
def RunEvent.now (clock : UInt64) : RunEvent → UInt64
  | .post _ => clock
  | .message a _ => a.env.now

namespace Run

/-- The states of the runs in which the clock does not go back, with the time of the last
message. -/
def Timely : Run × UInt64 → Prop :=
  Support.Reachable (fun s => s.1.Initial) fun s e s' =>
    s' = (s.1.step e, e.now s.2) ∧ s.2 ≤ e.now s.2

theorem Initial.holds {r : Run} (h : r.Initial) {U : Task → Prop} {G : List TaskProfile → Prop}
    (hG : G []) : r.core.Holds U G := NetCore.holds_of_taskids_nil h.taskids hG

/-- **First come, first served.**  In every run in which the clock does not go back, both lists are
sorted by priority, and the tasks of a priority by the time they were put into the list,
whichever of them have been sent, have failed or were answered meanwhile. -/
theorem Timely.ordered {s : Run × UInt64} (h : Timely s) :
    s.1.core.longlink_task_manager_.lst_cmd_.Pairwise Before ∧
      s.1.core.shortlink_task_manager_.lst_cmd_.Pairwise Before := by
  have hholds : s.1.core.AtRest ∧ s.1.core.Holds (fun _ => True) (Ordered s.2) := by
    refine h.invariant (fun s => s.1.core.AtRest ∧ s.1.core.Holds (fun _ => True) (Ordered s.2))
      (fun s hs => ⟨hs.rest, hs.holds ⟨.nil, List.forall_mem_nil _⟩⟩) ?_
    rintro ⟨r, clock⟩ e s' ⟨hrest, hold⟩ ⟨rfl, hle⟩
    cases e with
    | post task =>
        exact ⟨⟨hrest.long, hrest.short⟩, fun _ _ => trivial, hold.long, hold.short, hold.zombie⟩
    | message a msg =>
        have hlater {l : List TaskProfile} (hl : Ordered clock l) : Ordered a.env.now l :=
          ⟨hl.order, fun p hp => UInt64.le_trans (hl.started p hp) hle⟩
        have hnow : r.core.flush.Holds (fun _ => True) (Ordered a.env.now) :=
          ⟨fun _ _ => trivial, hlater hold.long, hlater hold.short, fun _ _ => trivial⟩
        exact ⟨NetCore.atRest_handle a hrest.flush msg,
          NetCore.Keeps.handle (keeps_ordered a.env.now) hnow hrest.flush msg⟩
  exact ⟨hholds.2.long.order, hholds.2.short.order⟩

/-- Another task is started after the first one. -/
def secondTask (task task' : Task) : Run :=
  ((firstTask task).step (.post task')).step (.message plainAnswers .start)

theorem timely_secondTask (task task' : Task) : Timely (secondTask task task', 0) := by
  have hstep {r : Run} (h : Timely (r, 0)) (e : RunEvent) (he : e.now 0 = 0) :
      Timely (r.step e, 0) := by
    have hle : (0 : UInt64) ≤ e.now 0 := UInt64.le_of_eq he.symm
    have hnext : Timely (r.step e, e.now 0) := h.next ⟨rfl, hle⟩
    rwa [he] at hnext
  have hidle : Timely (⟨.idle, [], [], []⟩, 0) := .start ⟨⟨rfl, rfl⟩, rfl, rfl, rfl, rfl⟩
  have hfirst : Timely (firstTask task, 0) :=
    hstep (hstep hidle (.post task) rfl) (.message plainAnswers .start) rfl
  exact hstep (hstep hfirst (.post task') rfl) (.message plainAnswers .start) rfl

/-- The second task has the higher priority. -/
theorem ordered_second : let lst_cmd_ :=
      (secondTask (longTask 1 3) (longTask 2 0)).core.longlink_task_manager_.lst_cmd_
    lst_cmd_.map (·.task.taskid) = [2, 1] ∧ lst_cmd_.Pairwise Before :=
  ⟨by decide +kernel, (Timely.ordered (timely_secondTask (longTask 1 3) (longTask 2 0))).1⟩

end Run

end MicroChat.Stn
