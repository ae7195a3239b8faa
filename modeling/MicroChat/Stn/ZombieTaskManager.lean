import MicroChat.Stn.Task

/-!
# Stn — ZombieTaskManager

The tasks that have failed and still have time: they are started again when the network is back.

* `ZombieTaskManager`: the manager, with the functions of the source.
* `total_startTasks`, `total_timerChecker`: each task stays, is started again or is ended.
-/

namespace MicroChat.Stn
open Support

structure ZombieTask where
  task : Task
  save_time : UInt64

/-- What the manager calls: `fun_start_task_`, or `fun_callback_` for a task whose time is up. -/
inductive ZombieCall where
  | startTask (task : Task)
  | callBack (err_type : ErrCmdType) (err_code fail_handle : Int) (task : Task)
      (taskcosttime : UInt32)

structure ZombieTaskManager where
  lsttask_ : List ZombieTask
  net_core_last_start_task_time_ : UInt64

namespace ZombieTask

/-- `__compare_task`, as the order a list is sorted by. -/
def NotAfter (z z' : ZombieTask) : Prop := z.task.priority ≤ z'.task.priority

instance : DecidableRel NotAfter := fun _ _ => inferInstanceAs (Decidable (_ ≤ _))

/-- `RETRY_INTERVAL`. -/
def RETRY_INTERVAL : UInt64 := 60 * 1000

/-- How long the task has been in the list. -/
def age (now : UInt64) (z : ZombieTask) : UInt64 := now - z.save_time

/-- Its time is up. -/
def Overdue (now : UInt64) (z : ZombieTask) : Prop := z.age now ≥ z.task.totalTimeout

instance (now : UInt64) (z : ZombieTask) : Decidable (z.Overdue now) :=
  inferInstanceAs (Decidable (_ ≥ _))

/-- The call for a task whose time is up. -/
def timeout (now : UInt64) (z : ZombieTask) : ZombieCall :=
  .callBack .kEctLocal kEctLocalTaskTimeout kTaskFailHandleTaskEnd z.task (z.age now).toUInt32

/-- The call that starts the task again, with the time it has left. -/
def restart (now : UInt64) (z : ZombieTask) : ZombieCall :=
  .startTask { z.task with
    total_timetout := z.task.total_timetout - (z.age now).toUInt32.toInt32 }

end ZombieTask

namespace ZombieTaskManager

/-- `bool ZombieTaskManager::SaveTask(…)`, `none` where it is false. -/
def saveTask (now : UInt64) (z : ZombieTaskManager) (task : Task) (taskcosttime : UInt32) :
    Option ZombieTaskManager :=
  if task.network_status_sensitive then none
  else
    let total_timetout := task.total_timetout - taskcosttime.toInt32
    if 0 ≥ total_timetout then none
    else some { z with
      lsttask_ := z.lsttask_ ++ [⟨{ task with retry_count := 0, total_timetout }, now⟩] }

/-- `bool ZombieTaskManager::StopTask(uint32_t _taskid)`. -/
def stopTask (z : ZombieTaskManager) (taskid : Nat) : ZombieTaskManager × Bool :=
  if z.lsttask_.any (·.task.taskid = taskid) then
    ({ z with lsttask_ := z.lsttask_.eraseP (·.task.taskid = taskid) }, true)
  else (z, false)

/-- `bool ZombieTaskManager::HasTask(uint32_t _taskid) const`. -/
def hasTask (z : ZombieTaskManager) (taskid : Nat) : Bool :=
  z.lsttask_.any (·.task.taskid = taskid)

/-- `void ZombieTaskManager::ClearTasks()`. -/
def clearTasks (z : ZombieTaskManager) : ZombieTaskManager := { z with lsttask_ := [] }

/-- `void ZombieTaskManager::OnNetCoreStartTask()`. -/
def onNetCoreStartTask (now : UInt64) (z : ZombieTaskManager) : ZombieTaskManager :=
  { z with net_core_last_start_task_time_ := now }

/-- `void ZombieTaskManager::RedoTasks()` and `__StartTask()`: all tasks, by their priorities. -/
def startTasks (now : UInt64) (z : ZombieTaskManager) : ZombieTaskManager × List ZombieCall :=
  ({ z with lsttask_ := [] }, (z.lsttask_.insertionSort ZombieTask.NotAfter).map fun it =>
    if it.Overdue now then it.timeout now else it.restart now)

/-- One turn of the loop of `__TimerChecker`. -/
def timerOne (now netCoreLastStartTaskTime : UInt64) (calls : List ZombieCall) (it : ZombieTask) :
    List ZombieCall × Option ZombieTask :=
  if it.Overdue now then (calls ++ [it.timeout now], none)
  else if it.age now ≥ ZombieTask.RETRY_INTERVAL ∧
      now - netCoreLastStartTaskTime ≥ ZombieTask.RETRY_INTERVAL then
    (calls ++ [it.restart now], none)
  else (calls, some it)

/-- `void ZombieTaskManager::__TimerChecker()`. -/
def timerChecker (now : UInt64) (z : ZombieTaskManager) : ZombieTaskManager × List ZombieCall :=
  let r := sweep (timerOne now z.net_core_last_start_task_time_) [] z.lsttask_
  ({ z with lsttask_ := r.2 }, r.1)

/-! ### No task is lost -/

end ZombieTaskManager

/-- A task that is `t`. -/
def ZombieTask.countOf (t : Nat) (z : ZombieTask) : Nat := if z.task.taskid = t then 1 else 0

/-- A call that is about `t`. -/
def ZombieCall.countOf (t : Nat) : ZombieCall → Nat
  | .startTask task | .callBack _ _ _ task _ => if task.taskid = t then 1 else 0

namespace ZombieTaskManager
variable (now : UInt64) (t : Nat)

/-- How often `t` is in the list. -/
def total (z : ZombieTaskManager) : Nat := (z.lsttask_.map (ZombieTask.countOf t)).sum

/-- How often the calls are about `t`. -/
def callsOf (calls : List ZombieCall) : Nat := (calls.map (ZombieCall.countOf t)).sum

/-- The occurrences of an id among those of tasks. -/
theorem count_map_zombie (l : List ZombieTask) :
    (l.map (·.task.taskid)).count t = (l.map (ZombieTask.countOf t)).sum := by
  induction l with
  | nil => rfl
  | cons z l ih =>
      rw [List.map_cons, List.count_cons, ih, List.map_cons, List.sum_cons, add_comm,
        ZombieTask.countOf]
      simp

theorem total_saveTask {z z' : ZombieTaskManager} {task : Task} {taskcosttime : UInt32}
    (h : z.saveTask now task taskcosttime = some z') :
    z'.total t = z.total t + if task.taskid = t then 1 else 0 := by
  rw [saveTask] at h
  split at h
  · cases h
  · dsimp only at h
    split at h
    · cases h
    · cases h
      simp [total, ZombieTask.countOf]

theorem total_stopTask (z : ZombieTaskManager) (taskid : Nat) :
    (z.stopTask taskid).1.total t +
      (if (z.stopTask taskid).2 then (if taskid = t then 1 else 0) else 0) = z.total t := by
  rw [stopTask]
  split
  · rename_i hany
    rw [if_pos rfl]
    exact sum_eraseP hany fun p _ hp => by rw [ZombieTask.countOf, of_decide_eq_true hp]
  · rfl

theorem total_startTasks (z : ZombieTaskManager) :
    (z.startTasks now).1.total t + callsOf t (z.startTasks now).2 = z.total t := by
  have hcount : ZombieCall.countOf t ∘ (fun it : ZombieTask =>
      if it.Overdue now then it.timeout now else it.restart now) = ZombieTask.countOf t := by
    funext it
    rw [Function.comp_apply]
    split <;> rfl
  have hperm := (List.perm_insertionSort ZombieTask.NotAfter z.lsttask_).map (ZombieTask.countOf t)
  rw [startTasks, callsOf, List.map_map, hcount, hperm.sum_eq]
  exact Nat.zero_add _

/-- What a turn of `__TimerChecker` does with a task. -/
inductive TimerMove : ZombieTask → List ZombieCall → Option ZombieTask → Prop where
  | stay (z : ZombieTask) : TimerMove z [] (some z)
  | timeout {z : ZombieTask} (h : z.Overdue now) : TimerMove z [z.timeout now] none
  | restart {z : ZombieTask} (h : ¬ z.Overdue now) : TimerMove z [z.restart now] none

theorem timerChecker_works (z : ZombieTaskManager) :
    Works (TimerMove now) (fun _ => False) z.lsttask_ (z.timerChecker now).2
      (z.timerChecker now).1.lsttask_ := by
  have hone (calls : List ZombieCall) (it : ZombieTask) :
      ∃ cs, (timerOne now z.net_core_last_start_task_time_ calls it).1 = calls ++ cs ∧
        Works (TimerMove now) (fun _ => False) [it] cs
          (timerOne now z.net_core_last_start_task_time_ calls it).2.toList := by
    rw [timerOne]
    split
    · exact ⟨_, rfl, .one (TimerMove.timeout ‹_›)⟩
    · split
      · exact ⟨_, rfl, .one (TimerMove.restart ‹_›)⟩
      · exact ⟨[], (List.append_nil _).symm, .one (TimerMove.stay it)⟩
  obtain ⟨cs, hcs, hworks⟩ := sweep_works (fun calls => calls) hone [] z.lsttask_
  rw [List.nil_append] at hcs
  rw [timerChecker, hcs]
  exact hworks

theorem total_timerChecker (z : ZombieTaskManager) :
    (z.timerChecker now).1.total t + callsOf t (z.timerChecker now).2 = z.total t := by
  rw [add_comm]
  refine (timerChecker_works now z).weigh (r := Eq) (w := ZombieCall.countOf t)
    (fun _ => congrArg (· + _)) (fun hm => ?_) fun h => h.elim
  cases hm with
  | stay => simp
  | timeout h => rfl
  | restart h => rfl

end ZombieTaskManager

end MicroChat.Stn
