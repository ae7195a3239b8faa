import MicroChat.Stn.NetCore

/-!
# Stn — Conservation

What a message does to the three task managers together.

* `total_handle`: each task is still there afterwards, has been ended once, or has been taken out.
* `Run`: runs of mars; `Run.Reachable.started_perm`: what has become of the tasks, in each state.
-/

namespace MicroChat.Stn
open Support

namespace NetCore

/-! ### Callbacks change no list -/

/-- The task managers of the links are the same. -/
structure SameManagers (c c' : NetCore) : Prop where
  long : c'.longlink_task_manager_ = c.longlink_task_manager_
  short : c'.shortlink_task_manager_ = c.shortlink_task_manager_

theorem SameManagers.rfl {c : NetCore} : SameManagers c c := ⟨Eq.refl _, Eq.refl _⟩

theorem SameManagers.trans {c c' c'' : NetCore} (h : SameManagers c c')
    (h' : SameManagers c' c'') : SameManagers c c'' :=
  ⟨h'.long.trans h.long, h'.short.trans h.short⟩

section
variable (now : UInt64)

theorem same_callBack (c : NetCore) (source : CallFrom) (err_type : ErrCmdType)
    (err_code fail_handle : Int) (task : Task) (taskcosttime : UInt32) :
    SameManagers c (c.callBack now source err_type err_code fail_handle task taskcosttime) := by
  rw [callBack]
  split
  · exact ⟨rfl, rfl⟩
  · split
    · exact ⟨rfl, rfl⟩
    · split <;> exact ⟨rfl, rfl⟩

theorem same_zombieCall (c : NetCore) (call : ZombieCall) :
    SameManagers c (c.zombieCall now call) := by
  cases call with
  | startTask task => exact ⟨rfl, rfl⟩
  | callBack => exact same_callBack ..

theorem same_withZombie (c : NetCore) (r : ZombieTaskManager × List ZombieCall) :
    SameManagers c (c.withZombie now r) := by
  have hcalls (calls : List ZombieCall) (c : NetCore) :
      SameManagers c (calls.foldl (zombieCall now) c) := by
    induction calls generalizing c with
    | nil => exact .rfl
    | cons call calls ih => exact (same_zombieCall now c call).trans (ih _)
  have hput : SameManagers c { c with zombie_task_manager_ := r.1 } := ⟨rfl, rfl⟩
  exact hput.trans (hcalls r.2 _)

theorem same_redoZombies (c : NetCore) : SameManagers c (c.redoZombies now) := same_withZombie ..

theorem same_managerCalls (source : CallFrom) (calls : List Call) (c : NetCore) :
    SameManagers c (calls.foldl (managerCall now source) c) := by
  induction calls generalizing c with
  | nil => exact .rfl
  | cons call calls ih =>
      refine SameManagers.trans ?_ (ih _)
      cases call with
      | callBack => exact same_callBack ..
      | notifyNetworkErr err_type err_code =>
          rw [managerCall]
          split
          · exact same_redoZombies now c
          · exact .rfl
      | req2Buf | buf2Resp | onPush | send => exact ⟨rfl, rfl⟩
      | cgiTaskStatistic | stop | deleteShortLink | disconnect => exact .rfl

@[simp] theorem withLong_long (c : NetCore) (m : LongLinkTaskManager) :
    (c.withLong now m).longlink_task_manager_ = { m with calls := [] } :=
  (same_managerCalls now .long m.calls _).long

@[simp] theorem withLong_short (c : NetCore) (m : LongLinkTaskManager) :
    (c.withLong now m).shortlink_task_manager_ = c.shortlink_task_manager_ :=
  (same_managerCalls now .long m.calls _).short

@[simp] theorem withShort_short (c : NetCore) (m : ShortLinkTaskManager) :
    (c.withShort now m).shortlink_task_manager_ = { m with calls := [] } :=
  (same_managerCalls now .short m.calls _).short

@[simp] theorem withShort_long (c : NetCore) (m : ShortLinkTaskManager) :
    (c.withShort now m).longlink_task_manager_ = c.longlink_task_manager_ :=
  (same_managerCalls now .short m.calls _).long

end

/-- The managers between two messages: their calls have been made. -/
structure AtRest (c : NetCore) : Prop where
  long : c.longlink_task_manager_.calls = []
  short : c.shortlink_task_manager_.calls = []

theorem AtRest.of_same {c c' : NetCore} (h : c.AtRest) (hsame : SameManagers c c') : c'.AtRest :=
  ⟨by rw [hsame.long, h.long], by rw [hsame.short, h.short]⟩

theorem AtRest.withLong {c : NetCore} (h : c.AtRest) (now : UInt64) (m : LongLinkTaskManager) :
    (c.withLong now m).AtRest := ⟨by rw [withLong_long], by rw [withLong_short, h.short]⟩

theorem AtRest.withShort {c : NetCore} (h : c.AtRest) (now : UInt64) (m : ShortLinkTaskManager) :
    (c.withShort now m).AtRest := ⟨by rw [withShort_long, h.long], by rw [withShort_short]⟩

/-! ### No task is lost -/

end NetCore

/-- How often an output ends `t`. -/
def Output.endOf (t : Nat) : Output → Nat
  | .onTaskEnd taskid _ _ => if taskid = t then 1 else 0
  | _ => 0

namespace NetCore

section
variable (t : Nat)

/-- How often `t` is among tasks that have been posted. -/
def postedOf (starting : List Task) : Nat :=
  (starting.map fun task => if task.taskid = t then 1 else 0).sum

/-- How often outputs end `t`. -/
def endedOf (out : List Output) : Nat := (out.map (Output.endOf t)).sum

/-- How often `t` is in a list of mars. -/
def held (c : NetCore) : Nat :=
  postedOf t c.starting + tasksOf t c.longlink_task_manager_.lst_cmd_ +
    tasksOf t c.shortlink_task_manager_.lst_cmd_ + c.zombie_task_manager_.total t

/-- How often `t` is in a list of mars, or has been ended by the outputs so far. -/
def total (c : NetCore) : Nat := c.held t + endedOf t c.out

theorem postedOf_append (l l' : List Task) :
    postedOf t (l ++ l') = postedOf t l + postedOf t l' := by
  rw [postedOf, List.map_append, List.sum_append, postedOf, postedOf]

theorem endedOf_append (l l' : List Output) : endedOf t (l ++ l') = endedOf t l + endedOf t l' := by
  rw [endedOf, List.map_append, List.sum_append, endedOf, endedOf]

theorem total_out (c : NetCore) (o : Output) :
    total t { c with out := c.out ++ [o] } = c.total t + o.endOf t := by
  rw [total, endedOf_append, ← add_assoc]
  rfl

theorem total_onTaskEnd (c : NetCore) (taskid : Nat) (error_type : ErrCmdType)
    (error_code : Int) :
    (c.onTaskEnd taskid error_type error_code).total t =
      c.total t + if taskid = t then 1 else 0 := total_out t c _

theorem total_callBack (c : NetCore) (now : UInt64) (source : CallFrom) (err_type : ErrCmdType)
    (err_code fail_handle : Int) (task : Task) (taskcosttime : UInt32) :
    (c.callBack now source err_type err_code fail_handle task taskcosttime).total t =
      c.total t + if task.taskid = t then 1 else 0 := by
  rw [callBack]
  split
  · exact total_onTaskEnd ..
  · split
    · exact total_onTaskEnd ..
    · split
      · rename_i z hz
        have hsave := ZombieTaskManager.total_saveTask now t hz
        simp only [total, held, hsave]
        omega
      · exact total_onTaskEnd ..

variable (now : UInt64)

theorem total_zombieCall (c : NetCore) (call : ZombieCall) :
    (c.zombieCall now call).total t = c.total t + call.countOf t := by
  cases call with
  | startTask task =>
      simp only [zombieCall, total, held, postedOf_append]
      simp only [postedOf, List.map_cons, List.map_nil, List.sum_singleton, ZombieCall.countOf]
      omega
  | callBack err_type err_code fail_handle task taskcosttime => exact total_callBack ..

theorem total_zombieCalls (c : NetCore) (calls : List ZombieCall) :
    (calls.foldl (zombieCall now) c).total t =
      c.total t + ZombieTaskManager.callsOf t calls := by
  induction calls generalizing c with
  | nil => rfl
  | cons call calls ih =>
      rw [List.foldl_cons, ih, total_zombieCall, add_assoc]
      rfl

theorem total_withZombie (c : NetCore) {r : ZombieTaskManager × List ZombieCall}
    (h : r.1.total t + ZombieTaskManager.callsOf t r.2 = c.zombie_task_manager_.total t) :
    (c.withZombie now r).total t = c.total t := by
  rw [withZombie, total_zombieCalls]
  simp only [total, held]
  omega

theorem total_redoZombies (c : NetCore) : (c.redoZombies now).total t = c.total t :=
  total_withZombie t now c (ZombieTaskManager.total_startTasks now t _)

theorem total_managerCalls (source : CallFrom) (c : NetCore) (calls : List Call) :
    (calls.foldl (managerCall now source) c).total t = c.total t + endsOf t calls := by
  induction calls generalizing c with
  | nil => rfl
  | cons call calls ih =>
      have hcall : (c.managerCall now source call).total t = c.total t + call.endOf t := by
        cases call with
        | callBack => exact total_callBack ..
        | notifyNetworkErr err_type err_code =>
            rw [managerCall]
            split
            · exact total_redoZombies ..
            · rfl
        | req2Buf | buf2Resp | onPush | send => exact total_out t c _
        | cgiTaskStatistic | stop | deleteShortLink | disconnect => rfl
      rw [List.foldl_cons, ih, hcall, add_assoc]
      rfl

/-- A function of the long link's manager that begins with the list `l`. -/
theorem total_withLong {c : NetCore} (hrest : c.AtRest) {l : List TaskProfile}
    {m : LongLinkTaskManager}
    (h : DidBy (Act now) l c.longlink_task_manager_.calls m.lst_cmd_ m.calls) :
    (c.withLong now m).total t + tasksOf t c.longlink_task_manager_.lst_cmd_ =
      c.total t + tasksOf t l := by
  have hends := h.ends t
  rw [hrest.long, endsOf_nil] at hends
  rw [withLong, total_managerCalls]
  simp only [total, held]
  omega

/-- A function of the short links' manager that begins with the list `l`. -/
theorem total_withShort {c : NetCore} (hrest : c.AtRest) {l : List TaskProfile}
    {m : ShortLinkTaskManager}
    (h : DidBy (Act now) l c.shortlink_task_manager_.calls m.lst_cmd_ m.calls) :
    (c.withShort now m).total t + tasksOf t c.shortlink_task_manager_.lst_cmd_ =
      c.total t + tasksOf t l := by
  have hends := h.ends t
  rw [hrest.short, endsOf_nil] at hends
  rw [withShort, total_managerCalls]
  simp only [total, held]
  omega

/-- A function of the long link's manager that begins with its own list. -/
theorem total_actLong {c : NetCore} (hrest : c.AtRest) {m : LongLinkTaskManager}
    (h : LongLinkTaskManager.To (Act now) c.longlink_task_manager_ m) :
    (c.withLong now m).total t = c.total t := Nat.add_right_cancel (total_withLong t now hrest h)

theorem total_actShort {c : NetCore} (hrest : c.AtRest) {m : ShortLinkTaskManager}
    (h : ShortLinkTaskManager.To (Act now) c.shortlink_task_manager_ m) :
    (c.withShort now m).total t = c.total t :=
  Nat.add_right_cancel (total_withShort t now hrest h)

end

section
variable (t : Nat) (a : Answers) {c : NetCore}

theorem total_retryTasks (hrest : c.AtRest) (r : Option RetryAll) :
    (c.retryTasks a r).total t = c.total t := by
  cases r with
  | none => rfl
  | some r =>
      have hlong {c : NetCore} (hrest : c.AtRest) := total_actLong t a.env.now hrest (Did.act
        (LongLinkTaskManager.did_retryTasks a.env a.long _ r.err_type
          r.err_code r.fail_handle r.src_taskid))
      have hshort := total_actShort t a.env.now hrest (Did.act
        (ShortLinkTaskManager.did_retryTasks a.env a.short _ r.err_type
          r.err_code r.fail_handle r.src_taskid))
      exact (hlong (hrest.withShort _ _)).trans hshort

theorem tasksOf_pushAndSort (now : UInt64) (task : Task) (l : List TaskProfile) :
    tasksOf t (pushAndSort l (.ofTask now task)) =
      (if task.taskid = t then 1 else 0) + tasksOf t l :=
  ((perm_pushAndSort l (.ofTask now task)).map _).sum_eq

theorem total_startOn (hrest : c.AtRest) (task : Task) :
    (c.startOn a task).1.total t =
      c.total t + if (c.startOn a task).2 then (if task.taskid = t then 1 else 0) else 0 := by
  have hlong : (c.withLong a.env.now (c.longlink_task_manager_.startTask a.env a.long task)).total t
      = c.total t + if task.taskid = t then 1 else 0 := by
    have hsum := total_withLong t a.env.now hrest (Did.act
      (LongLinkTaskManager.did_startTask a.env a.long _ task))
    rw [tasksOf_pushAndSort] at hsum
    omega
  have hshort : (c.withShort a.env.now
      (c.shortlink_task_manager_.startTask a.env a.short task).1).total t = c.total t +
      if (c.shortlink_task_manager_.startTask a.env a.short task).2 then
        (if task.taskid = t then 1 else 0) else 0 := by
    cases hok : (c.shortlink_task_manager_.startTask a.env a.short task).2 with
    | true =>
        have hsum := total_withShort t a.env.now hrest
          (Did.act (ShortLinkTaskManager.did_startTask hok))
        rw [tasksOf_pushAndSort] at hsum
        simp only [if_true]
        omega
    | false =>
        rw [ShortLinkTaskManager.startTask_eq_self hok]
        exact total_actShort t a.env.now hrest (.refl ..)
  rw [startOn]
  dsimp only
  split
  · split
    · exact hlong
    · exact hshort
  · split
    · exact hlong
    · split
      · exact hshort
      · rfl

theorem taskid_validAndInitDefault {task task' : Task} (h : validAndInitDefault task = some task') :
    task'.taskid = task.taskid := by
  obtain ⟨-, -, channel_select, rfl⟩ := validAndInitDefault_some h
  rfl

theorem total_startTask (hrest : c.AtRest) (task : Task) :
    (c.startTask a task).total t = c.total t + if task.taskid = t then 1 else 0 := by
  rw [startTask]
  split
  · exact total_onTaskEnd ..
  · rename_i task' hvalid
    rw [← taskid_validAndInitDefault hvalid]
    split
    · exact total_onTaskEnd ..
    · split
      · exact total_onTaskEnd ..
      · have hstart := total_startOn t a hrest task'
        dsimp only
        split
        · rename_i hok
          rw [total_onTaskEnd, hstart, if_neg hok, add_zero]
        · rename_i hok
          rw [if_pos (Classical.not_not.mp hok)] at hstart
          exact hstart

theorem total_redoTasks (hrest : c.AtRest) (longRedo : Bool) :
    (c.redoTasks a longRedo).total t = c.total t := by
  have hshort {c : NetCore} (hrest : c.AtRest) : (c.withShort a.env.now
      (c.shortlink_task_manager_.redoTasks a.env a.short)).total t = c.total t := by
    have hsum := total_withShort t a.env.now hrest
      (Did.act (ShortLinkTaskManager.did_redoTasks a.env a.short _))
    rw [tasksOf_redo] at hsum
    exact Nat.add_right_cancel hsum
  have hlong : (c.withLong a.env.now
      (c.longlink_task_manager_.redoTasks a.env a.long)).total t = c.total t := by
    have hsum := total_withLong t a.env.now hrest
      (Did.act (LongLinkTaskManager.did_redoTasks a.env a.long _))
    rw [tasksOf_redo] at hsum
    exact Nat.add_right_cancel hsum
  rw [redoTasks]
  split
  · exact (hshort ((hrest.withLong _ _).of_same (same_redoZombies ..))).trans
      ((total_redoZombies ..).trans hlong)
  · exact (hshort (hrest.of_same (same_redoZombies ..))).trans (total_redoZombies ..)

/-- The tasks a message takes out without a word to the application. -/
def removedBy (c : NetCore) : Message → List Nat
  | .stopTask taskid => if (c.stopTask taskid).2 then [taskid] else []
  | .clearTasks =>
      c.longlink_task_manager_.lst_cmd_.map (·.task.taskid) ++
        c.zombie_task_manager_.lsttask_.map (·.task.taskid) ++
        c.shortlink_task_manager_.lst_cmd_.map (·.task.taskid)
  | _ => []

theorem total_stopTask (c : NetCore) (taskid : Nat) :
    (c.stopTask taskid).1.total t +
      (if (c.stopTask taskid).2 then (if taskid = t then 1 else 0) else 0) = c.total t := by
  have hlong : tasksOf t (c.longlink_task_manager_.stopTask taskid).1.lst_cmd_ +
      (if (c.longlink_task_manager_.stopTask taskid).2 then (if taskid = t then 1 else 0) else 0) =
        tasksOf t c.longlink_task_manager_.lst_cmd_ := by
    rw [LongLinkTaskManager.stopTask]
    split
    · rename_i hany
      rw [if_pos rfl]
      exact tasksOf_eraseP t hany
    · rfl
  have hzombie := c.zombie_task_manager_.total_stopTask t taskid
  have hshort : tasksOf t (c.shortlink_task_manager_.stopTask taskid).1.lst_cmd_ +
      (if (c.shortlink_task_manager_.stopTask taskid).2 then (if taskid = t then 1 else 0) else 0) =
        tasksOf t c.shortlink_task_manager_.lst_cmd_ := by
    rw [ShortLinkTaskManager.stopTask]
    split
    · rfl
    · rename_i first hfirst
      have hid := List.find?_some hfirst
      rw [if_pos rfl]
      exact tasksOf_eraseP t
        (List.any_eq_true.mpr ⟨first, List.mem_of_find?_eq_some hfirst, hid⟩)
  rw [stopTask]
  dsimp only
  split
  · rw [if_pos ‹_›] at hlong
    simp only [total, held, if_true]
    omega
  · split
    · rw [if_pos ‹_›] at hzombie
      simp only [total, held, if_true]
      omega
    · simp only [total, held]
      omega

theorem total_clearTasks (c : NetCore) :
    c.clearTasks.total t + (c.removedBy .clearTasks).count t = c.total t := by
  simp only [removedBy, List.count_append, count_map_taskid, ZombieTaskManager.count_map_zombie]
  simp only [clearTasks, LongLinkTaskManager.clearTasks, ShortLinkTaskManager.clearTasks,
    ZombieTaskManager.clearTasks, total, held, ZombieTaskManager.total, tasksOf_nil, List.map_nil,
    List.sum_nil]
  omega

/-- A message that takes nothing out. -/
theorem total_handle_of {msg : Message} {c' : NetCore} (h : c.handle a msg = c')
    (hremoved : c.removedBy msg = []) (hc : c'.total t = c.total t) :
    (c.handle a msg).total t + (c.removedBy msg).count t = c.total t := by
  rw [h, hremoved, List.count_nil, add_zero, hc]

theorem handle_start {task : Task} {starting : List Task} (h : c.starting = task :: starting) :
    c.handle a .start = { c with starting }.startTask a task := by
  rw [handle, h]

theorem total_start (hrest : c.AtRest) {task : Task} {starting : List Task}
    (h : c.starting = task :: starting) :
    ({ c with starting }.startTask a task).total t = c.total t := by
  have hpop : { c with starting }.AtRest := ⟨hrest.long, hrest.short⟩
  rw [total_startTask t a hpop task]
  simp only [total, held, postedOf, h, List.map_cons, List.sum_cons]
  omega

/-- **One message.**  Each task is still there afterwards, has been ended once, or has been taken
out. -/
theorem total_handle (hrest : c.AtRest) (msg : Message) :
    (c.handle a msg).total t + (c.removedBy msg).count t = c.total t := by
  have hlong {m} (h : LongLinkTaskManager.To (Move a.env.now) c.longlink_task_manager_ m) :=
    total_actLong t a.env.now hrest (Did.act h)
  have hshort {m} (h : ShortLinkTaskManager.To (Move a.env.now) c.shortlink_task_manager_ m) :=
    total_actShort t a.env.now hrest (Did.act h)
  cases msg with
  | start =>
      cases hstarting : c.starting with
      | nil =>
          have hsame : c.handle a .start = c := by rw [handle, hstarting]
          exact total_handle_of t a hsame rfl rfl
      | cons task starting =>
          exact total_handle_of t a (handle_start a hstarting) rfl (total_start t a hrest hstarting)
  | stopTask taskid =>
      have hremoved : (c.removedBy (.stopTask taskid)).count t =
          if (c.stopTask taskid).2 then (if taskid = t then 1 else 0) else 0 := by
        rw [removedBy]
        split
        · simp [List.count_singleton]
        · rfl
      rw [hremoved]
      exact total_stopTask t c taskid
  | clearTasks => exact total_clearTasks t c
  | redo longRedo => exact total_handle_of t a rfl rfl (total_redoTasks t a hrest longRedo)
  | longRunLoop => exact total_handle_of t a rfl rfl (hlong (LongLinkTaskManager.did_runLoop _))
  | shortRunLoop => exact total_handle_of t a rfl rfl (hshort (ShortLinkTaskManager.did_runLoop _))
  | timerChecker =>
      exact total_handle_of t a rfl rfl
        (total_withZombie t a.env.now c (ZombieTaskManager.total_timerChecker ..))
  | longSend taskid =>
      exact total_handle_of t a rfl rfl (hlong (LongLinkTaskManager.did_onSend ..))
  | longRecv taskid cachedsize totalsize =>
      exact total_handle_of t a rfl rfl (hlong (LongLinkTaskManager.did_onRecv ..))
  | longResponse error_type error_code cmdid taskid body_len ans =>
      exact total_handle_of t a rfl rfl ((total_retryTasks t a (hrest.withLong _ _) _).trans
        (total_actLong t a.env.now hrest (LongLinkTaskManager.act_onResponse ..)))
  | longConnStatus connected =>
      cases connected with
      | true =>
          exact total_handle_of t a rfl rfl
            ((total_redoZombies ..).trans (hlong (LongLinkTaskManager.did_runLoop _)))
      | false =>
          have hsame : c.handle a (.longConnStatus false) = c := rfl
          exact total_handle_of t a hsame rfl rfl
  | shortSend worker =>
      exact total_handle_of t a rfl rfl (hshort (ShortLinkTaskManager.did_onSend ..))
  | shortRecv worker cached_size total_size =>
      exact total_handle_of t a rfl rfl (hshort (ShortLinkTaskManager.did_onRecv ..))
  | shortResponse worker err_type status body_len cancel_retry ans =>
      exact total_handle_of t a rfl rfl ((total_retryTasks t a (hrest.withShort _ _) _).trans
        (total_actShort t a.env.now hrest (ShortLinkTaskManager.act_onResponse ..)))
  | networkReport err_type =>
      by_cases hok : err_type = .kEctOK
      · exact total_handle_of t a (if_pos hok) rfl (total_redoZombies ..)
      · exact total_handle_of t a (if_neg hok) rfl rfl

theorem atRest_retryTasks (hrest : c.AtRest) (r : Option RetryAll) : (c.retryTasks a r).AtRest := by
  cases r with
  | none => exact hrest
  | some r => exact (hrest.withShort _ _).withLong _ _

theorem atRest_startTask (hrest : c.AtRest) (task : Task) : (c.startTask a task).AtRest := by
  have hon (task : Task) : (c.startOn a task).1.AtRest := by
    rw [startOn]
    dsimp only
    split
    · split
      · exact hrest.withLong _ _
      · exact hrest.withShort _ _
    · split
      · exact hrest.withLong _ _
      · split
        · exact hrest.withShort _ _
        · exact hrest
  rw [startTask]
  split
  · exact ⟨hrest.long, hrest.short⟩
  · rename_i task' _
    have hon' := hon task'
    split
    · exact ⟨hrest.long, hrest.short⟩
    · split
      · exact ⟨hrest.long, hrest.short⟩
      · dsimp only
        split <;> exact ⟨hon'.long, hon'.short⟩

theorem atRest_redoTasks (hrest : c.AtRest) (longRedo : Bool) :
    (c.redoTasks a longRedo).AtRest := by
  rw [redoTasks]
  split
  · exact ((hrest.withLong _ _).of_same (same_redoZombies ..)).withShort _ _
  · exact (hrest.of_same (same_redoZombies ..)).withShort _ _

theorem AtRest.flush (h : c.AtRest) : c.flush.AtRest := ⟨h.long, h.short⟩

/-- No call is left when a message has been handled. -/
theorem atRest_handle (hrest : c.AtRest) (msg : Message) : (c.handle a msg).AtRest := by
  cases msg with
  | start =>
      rw [handle]
      split
      · exact hrest
      · rename_i task starting _
        have hpop : { c with starting }.AtRest := ⟨hrest.long, hrest.short⟩
        exact atRest_startTask a hpop task
  | stopTask taskid =>
      rw [handle, stopTask]
      dsimp only
      split
      · exact ⟨rfl, hrest.short⟩
      · split
        · exact ⟨hrest.long, hrest.short⟩
        · exact ⟨hrest.long, rfl⟩
  | clearTasks => exact ⟨rfl, rfl⟩
  | redo longRedo => exact atRest_redoTasks a hrest longRedo
  | longRunLoop | longSend | longRecv => exact hrest.withLong _ _
  | shortRunLoop | shortSend | shortRecv => exact hrest.withShort _ _
  | timerChecker => exact hrest.of_same (same_withZombie ..)
  | longResponse => exact atRest_retryTasks a (hrest.withLong _ _) _
  | shortResponse => exact atRest_retryTasks a (hrest.withShort _ _) _
  | longConnStatus connected =>
      rw [handle]
      split
      · exact (hrest.withLong _ _).of_same (same_redoZombies ..)
      · exact hrest
  | networkReport err_type =>
      rw [handle]
      split
      · exact hrest.of_same (same_redoZombies ..)
      · exact hrest

end

/-- The tasks of mars, list by list. -/
def taskids (c : NetCore) : List Nat :=
  c.starting.map Task.taskid ++ (c.longlink_task_manager_.lst_cmd_.map (·.task.taskid) ++
    (c.shortlink_task_manager_.lst_cmd_.map (·.task.taskid) ++
      c.zombie_task_manager_.lsttask_.map (·.task.taskid)))

theorem count_taskids (c : NetCore) (t : Nat) : c.taskids.count t = c.held t := by
  have hposted (l : List Task) : (l.map Task.taskid).count t = postedOf t l := by
    induction l with
    | nil => rfl
    | cons task l ih =>
        rw [List.map_cons, List.count_cons, ih, postedOf, postedOf, List.map_cons, List.sum_cons,
          add_comm]
        simp
  simp only [taskids, List.count_append, hposted, count_map_taskid,
    ZombieTaskManager.count_map_zombie, held, ZombieTaskManager.total]
  omega

end NetCore

/-! ### Runs -/

/-- The tasks that outputs end. -/
def endedIn (out : List Output) : List Nat :=
  out.filterMap fun
    | .onTaskEnd taskid _ _ => some taskid
    | _ => none

theorem count_endedIn (out : List Output) (t : Nat) :
    (endedIn out).count t = NetCore.endedOf t out := by
  induction out with
  | nil => rfl
  | cons o out ih =>
      have hcons : NetCore.endedOf t (o :: out) = o.endOf t + NetCore.endedOf t out := rfl
      rw [hcons, ← ih]
      cases o with
      | onTaskEnd taskid error_type error_code =>
          rw [endedIn, List.filterMap_cons, List.count_cons, add_comm, Output.endOf]
          simp [endedIn]
      | req2Buf | buf2Resp | onPush | send => exact (Nat.zero_add _).symm

/-- mars, and what has become of the tasks: the ids of those that have been started, that have been
ended, and that a message has taken out. -/
structure Run where
  core : NetCore
  started : List Nat
  ended : List Nat
  removed : List Nat

/-- The application posts a task, or mars handles a message. -/
inductive RunEvent where
  | post (task : Task)
  | message (a : Answers) (msg : NetCore.Message)

namespace Run

def step (r : Run) : RunEvent → Run
  | .post task =>
      { r with
        core := { r.core with starting := r.core.starting ++ [task] }
        started := r.started ++ [task.taskid] }
  | .message a msg =>
      let core := r.core.flush.handle a msg
      { r with
        core
        ended := r.ended ++ endedIn core.out
        removed := r.removed ++ r.core.flush.removedBy msg }

/-- mars before its first task. -/
structure Initial (r : Run) : Prop where
  rest : r.core.AtRest
  taskids : r.core.taskids = []
  started : r.started = []
  ended : r.ended = []
  removed : r.removed = []

/-- The states of all runs. -/
def Reachable : Run → Prop := Support.Reachable Initial fun r e r' => r' = r.step e

theorem Reachable.rest {r : Run} (h : r.Reachable) : r.core.AtRest := by
  refine h.invariant (fun r => r.core.AtRest) (fun r hr => hr.rest) ?_
  rintro r e - hrest rfl
  cases e with
  | post task => exact ⟨hrest.long, hrest.short⟩
  | message a msg => exact NetCore.atRest_handle a hrest.flush msg

/-- **No task is lost, and none ends twice.**  In every state of every run, whatever the links, the
application and the clock do, the tasks that have been started are those that have been ended,
those that have been taken out and those in one of the lists, each as often. -/
theorem Reachable.started_perm {r : Run} (h : r.Reachable) :
    r.started.Perm (r.ended ++ (r.removed ++ r.core.taskids)) := by
  refine List.perm_iff_count.mpr fun t => ?_
  have hcount : r.core.AtRest ∧
      r.started.count t = r.ended.count t + (r.removed.count t + r.core.held t) := by
    refine h.invariant (fun r => r.core.AtRest ∧ r.started.count t =
      r.ended.count t + (r.removed.count t + r.core.held t)) (fun r hr => ⟨hr.rest, ?_⟩) ?_
    · rw [hr.started, hr.ended, hr.removed, ← NetCore.count_taskids, hr.taskids]
      rfl
    · rintro r e - ⟨hrest, ih⟩ rfl
      cases e with
      | post task =>
          refine ⟨⟨hrest.long, hrest.short⟩, ?_⟩
          have hone : [task.taskid].count t = NetCore.postedOf t [task] := by
            simp [NetCore.postedOf, List.count_singleton]
          simp only [step, List.count_append, NetCore.held, NetCore.postedOf_append, hone]
          rw [ih, NetCore.held]
          omega
      | message a msg =>
          refine ⟨NetCore.atRest_handle a hrest.flush msg, ?_⟩
          have htotal := NetCore.total_handle t a hrest.flush msg
          have hheld : r.core.flush.total t = r.core.held t := rfl
          rw [hheld, NetCore.total] at htotal
          simp only [step, List.count_append, count_endedIn]
          omega
  rw [List.count_append, List.count_append, NetCore.count_taskids]
  exact hcount.2

end Run

/-- mars before its first task. -/
def NetCore.idle : NetCore := ⟨[], ⟨[], 0, 0, 0, []⟩, ⟨[], false, 0, []⟩, ⟨[], 0⟩, []⟩

/-- Links and an application that take whatever they are given. -/
def plainAnswers : Answers where
  env := ⟨0, .kWifi, true, .kEValuating⟩
  connected := true
  long := fun _ => ⟨⟨.ok 1, true⟩, true, 0, ⟨.ok 1, true⟩, true⟩
  short := fun _ => ⟨⟨.ok 1, true⟩, 1⟩

/-- A task for the long link. -/
def longTask (taskid : Nat) (priority : Int) : Task :=
  { Task.ofId taskid with cmdid := 121, channel_select := kChannelLong, priority }

namespace Run

/-- A run with one task. -/
def firstTask (task : Task) : Run :=
  ((⟨.idle, [], [], []⟩ : Run).step (.post task)).step (.message plainAnswers .start)

theorem reachable_firstTask (task : Task) : (firstTask task).Reachable := by
  have hidle : Reachable ⟨.idle, [], [], []⟩ := .start ⟨⟨rfl, rfl⟩, rfl, rfl, rfl, rfl⟩
  exact (hidle.next rfl).next rfl

theorem Reachable.foldl {r : Run} (h : r.Reachable) (es : List RunEvent) :
    (es.foldl step r).Reachable := by
  induction es generalizing r with
  | nil => exact h
  | cons e es ih => exact ih (h.next rfl)

/-- Two tasks for the long link, of which the second is stopped, and one that no channel is
selected for, which ends at once. -/
def threeTasks : Run :=
  [.post (longTask 2 0), .message plainAnswers .start, .post (.ofId 3),
    .message plainAnswers .start, .message plainAnswers (.stopTask 2)].foldl step
      (firstTask (longTask 1 0))

theorem started_perm_three :
    threeTasks.started = [1, 2, 3] ∧ threeTasks.ended = [3] ∧ threeTasks.removed = [2] ∧
      threeTasks.core.taskids = [1] ∧
      threeTasks.started.Perm (threeTasks.ended ++ (threeTasks.removed ++ threeTasks.core.taskids))
      := by
  have hreach : threeTasks.Reachable := (reachable_firstTask (longTask 1 0)).foldl _
  exact ⟨by decide +kernel, by decide +kernel, by decide +kernel, by decide +kernel,
    Reachable.started_perm hreach⟩

end Run

end MicroChat.Stn
