import MicroChat.Stn.LongLinkTaskManager
import MicroChat.Stn.ShortLinkTaskManager
import MicroChat.Stn.ZombieTaskManager

/-!
# Stn — NetCore

What the application calls of mars, and the messages mars handles on a thread of its own, one
after another.

* `NetCore`: the three task managers, and the tasks whose `StartTask` has been posted.
* `Message`, `handle`: the messages.
-/

namespace MicroChat.Stn
open Support

/-- What comes out of mars: calls of the application, and requests handed to the links. -/
inductive Output where
  | req2Buf (taskid : Nat)
  | buf2Resp (taskid : Nat)
  | onTaskEnd (taskid : Nat) (error_type : ErrCmdType) (error_code : Int)
  | onPush (cmdid : UInt32)
  | send (taskid : Nat)
deriving DecidableEq

/-- `kCallFromLong`, `kCallFromShort` and `kCallFromZombie`. -/
inductive CallFrom where
  | long | short | zombie
deriving DecidableEq

/-- `starting` are the tasks of the blocks `StartTask` has posted, `out` is what has come out of the
message that is being handled. -/
structure NetCore where
  starting : List Task
  longlink_task_manager_ : LongLinkTaskManager
  shortlink_task_manager_ : ShortLinkTaskManager
  zombie_task_manager_ : ZombieTaskManager
  out : List Output

/-- What a message is handled with.  `connected` is whether the long link is. -/
structure Answers where
  env : Env
  connected : Bool
  long : Nat → LongLinkAnswer
  short : Nat → ShortLinkAnswer

def kChannelShort : Int32 := 1
def kChannelLong : Int32 := 2
def kChannelBoth : Int32 := 3

def kChannelFastStrategy : Int := 1

/-- `static bool __ValidAndInitDefault(Task& _task, XLogger& _group)`. -/
def validAndInitDefault (task : Task) : Option Task :=
  if 2 * 60 * 1000 < task.server_process_cost then none
  else if 30 < task.retry_count then none
  else if 10 * 60 * 1000 < task.total_timetout then none
  else
    let task :=
      if task.channel_select &&& kChannelLong ≠ 0 ∧ task.cmdid = 0 then
        { task with channel_select := task.channel_select &&& ~~~kChannelLong }
      else task
    let task :=
      if task.channel_select &&& kChannelShort ≠ 0 ∧ task.cgi = [] then
        { task with channel_select := task.channel_select &&& ~~~kChannelShort }
      else task
    some (if 0 > task.retry_count then { task with retry_count := 1 } else task)

/-- What `__ValidAndInitDefault` checks, and what it changes. -/
theorem validAndInitDefault_some {task task' : Task} (h : validAndInitDefault task = some task') :
    task.server_process_cost ≤ 2 * 60 * 1000 ∧ task.retry_count ≤ 30 ∧
      ∃ channel_select, task' = { task with
        channel_select
        retry_count := if 0 > task.retry_count then 1 else task.retry_count } := by
  have hchannel {t t' : Task} {b : Prop} [Decidable b] {channel_select : Int32}
      (h : (if b then { t with channel_select } else t) = t') :
      ∃ channel_select, t' = { t with channel_select } := by
    rw [← h]
    split <;> exact ⟨_, rfl⟩
  rw [validAndInitDefault] at h
  split at h
  · cases h
  · rename_i hcost
    split at h
    · cases h
    · rename_i hretry
      split at h
      · cases h
      · generalize hlong : (if task.channel_select &&& kChannelLong ≠ 0 ∧ task.cmdid = 0 then
          { task with channel_select := task.channel_select &&& ~~~kChannelLong }
        else task) = t at h
        obtain ⟨channel_select, rfl⟩ := hchannel hlong
        dsimp only at h
        generalize hshort : (if channel_select &&& kChannelShort ≠ 0 ∧ task.cgi = [] then
          { task with channel_select := channel_select &&& ~~~kChannelShort }
          else { task with channel_select }) = t at h
        obtain ⟨channel_select', rfl⟩ := hchannel (t := { task with channel_select }) hshort
        cases h
        refine ⟨not_lt.mp hcost, not_lt.mp hretry, channel_select', ?_⟩
        split <;> rfl

namespace NetCore

/-! ### The callbacks of the managers -/

/-- `OnTaskEnd(…)`. -/
def onTaskEnd (c : NetCore) (taskid : Nat) (error_type : ErrCmdType) (error_code : Int) : NetCore :=
  { c with out := c.out ++ [.onTaskEnd taskid error_type error_code] }

/-- `int NetCore::__CallBack(…)`. -/
def callBack (c : NetCore) (now : UInt64) (source : CallFrom) (err_type : ErrCmdType)
    (err_code fail_handle : Int) (task : Task) (taskcosttime : UInt32) : NetCore :=
  if err_type = .kEctOK ∨ fail_handle = kTaskFailHandleTaskEnd then
    c.onTaskEnd task.taskid err_type err_code
  else if source = .zombie then c.onTaskEnd task.taskid err_type err_code
  else
    match c.zombie_task_manager_.saveTask now task taskcosttime with
    | some zombie_task_manager_ => { c with zombie_task_manager_ }
    | none => c.onTaskEnd task.taskid err_type err_code

/-- One call of the zombie manager; a task it starts is posted. -/
def zombieCall (now : UInt64) (c : NetCore) : ZombieCall → NetCore
  | .startTask task => { c with starting := c.starting ++ [task] }
  | .callBack err_type err_code fail_handle task taskcosttime =>
      c.callBack now .zombie err_type err_code fail_handle task taskcosttime

/-- The zombie manager after one of its functions, and its calls. -/
def withZombie (now : UInt64) (c : NetCore) (r : ZombieTaskManager × List ZombieCall) : NetCore :=
  r.2.foldl (zombieCall now) { c with zombie_task_manager_ := r.1 }

/-- `zombie_task_manager_->RedoTasks()`. -/
def redoZombies (now : UInt64) (c : NetCore) : NetCore :=
  c.withZombie now (c.zombie_task_manager_.startTasks now)

/-- One call of a task manager.  `__OnLongLinkNetworkError` and `__OnShortLinkNetworkError` start
the zombies again where there is no error. -/
def managerCall (now : UInt64) (source : CallFrom) (c : NetCore) : Call → NetCore
  | .req2Buf taskid => { c with out := c.out ++ [.req2Buf taskid] }
  | .buf2Resp taskid => { c with out := c.out ++ [.buf2Resp taskid] }
  | .onPush cmdid => { c with out := c.out ++ [.onPush cmdid] }
  | .callBack err_type err_code fail_handle task taskcosttime =>
      c.callBack now source err_type err_code fail_handle task taskcosttime
  | .notifyNetworkErr err_type _ => if err_type = .kEctOK then c.redoZombies now else c
  | .send taskid => { c with out := c.out ++ [.send taskid] }
  | .cgiTaskStatistic _ _ _ | .stop _ | .deleteShortLink _ | .disconnect => c

/-- The manager of the long link after one of its functions, and its calls. -/
def withLong (now : UInt64) (c : NetCore) (m : LongLinkTaskManager) : NetCore :=
  m.calls.foldl (managerCall now .long) { c with longlink_task_manager_ := { m with calls := [] } }

/-- The manager of the short links after one of its functions, and its calls. -/
def withShort (now : UInt64) (c : NetCore) (m : ShortLinkTaskManager) : NetCore :=
  m.calls.foldl (managerCall now .short)
    { c with shortlink_task_manager_ := { m with calls := [] } }

/-- `void NetCore::RetryTasks(…)`, where it is called. -/
def retryTasks (a : Answers) (c : NetCore) : Option RetryAll → NetCore
  | none => c
  | some r =>
      let c := c.withShort a.env.now (c.shortlink_task_manager_.retryTasks a.env a.short r.err_type
        r.err_code r.fail_handle r.src_taskid)
      c.withLong a.env.now (c.longlink_task_manager_.retryTasks a.env a.long r.err_type r.err_code
        r.fail_handle r.src_taskid)

/-! ### The functions of NetCore -/

/-- The `switch` of `StartTask`, with `start_ok`. -/
def startOn (a : Answers) (c : NetCore) (task : Task) : NetCore × Bool :=
  let onLong := (c.withLong a.env.now (c.longlink_task_manager_.startTask a.env a.long task), true)
  let onShort :=
    let r := c.shortlink_task_manager_.startTask a.env a.short task
    (c.withShort a.env.now r.1, r.2)
  if task.channel_select = kChannelBoth then
    -- kFastSendUseLonglinkTaskCntLimit is 0
    let bUseLongLink := a.connected ∧ (task.channel_strategy = kChannelFastStrategy →
      c.longlink_task_manager_.lst_cmd_.length ≤ 0)
    if bUseLongLink then onLong else onShort
  else if task.channel_select = kChannelLong then onLong
  else if task.channel_select = kChannelShort then onShort
  else (c, false)

/-- The block `void NetCore::StartTask(const Task& _task)` has posted. -/
def startTask (a : Answers) (c : NetCore) (task : Task) : NetCore :=
  match validAndInitDefault task with
  | none => c.onTaskEnd task.taskid .kEctLocal kEctLocalTaskParam
  | some task =>
      if task.channel_select = 0 then
        c.onTaskEnd task.taskid .kEctLocal kEctLocalChannelSelect
      else if task.network_status_sensitive ∧ a.env.netInfo = .kNoNet ∧ ¬ a.connected then
        c.onTaskEnd task.taskid .kEctLocal kEctLocalNoNet
      else
        let r := c.startOn a task
        if ¬ r.2 then r.1.onTaskEnd task.taskid .kEctLocal kEctLocalStartTaskFail
        else { r.1 with
          zombie_task_manager_ := r.1.zombie_task_manager_.onNetCoreStartTask a.env.now }

/-- The block of `void NetCore::StopTask(uint32_t _taskid)`, and whether it has found the task. -/
def stopTask (c : NetCore) (taskid : Nat) : NetCore × Bool :=
  let long := c.longlink_task_manager_.stopTask taskid
  if long.2 then ({ c with longlink_task_manager_ := { long.1 with calls := [] } }, true)
  else
    let zombie := c.zombie_task_manager_.stopTask taskid
    if zombie.2 then ({ c with zombie_task_manager_ := zombie.1 }, true)
    else
      let short := c.shortlink_task_manager_.stopTask taskid
      ({ c with shortlink_task_manager_ := { short.1 with calls := [] } }, short.2)

/-- `bool NetCore::HasTask(uint32_t _taskid) const`. -/
def hasTask (c : NetCore) (taskid : Nat) : Bool :=
  c.longlink_task_manager_.hasTask taskid || c.zombie_task_manager_.hasTask taskid ||
    c.shortlink_task_manager_.hasTask taskid

/-- The block of `void NetCore::ClearTasks()`. -/
def clearTasks (c : NetCore) : NetCore :=
  { c with
    longlink_task_manager_ := { c.longlink_task_manager_.clearTasks with calls := [] }
    zombie_task_manager_ := c.zombie_task_manager_.clearTasks
    shortlink_task_manager_ := { c.shortlink_task_manager_.clearTasks with calls := [] } }

/-- `void NetCore::OnNetworkChange()`, where `longRedo` is what `NetworkChange` of the connect
monitor says, and the block of `void NetCore::RedoTasks()`, where it is true. -/
def redoTasks (a : Answers) (longRedo : Bool) (c : NetCore) : NetCore :=
  let c :=
    if longRedo then
      c.withLong a.env.now (c.longlink_task_manager_.redoTasks a.env a.long)
    else c
  let c := c.redoZombies a.env.now
  c.withShort a.env.now (c.shortlink_task_manager_.redoTasks a.env a.short)

/-! ### Messages -/

/-- The messages, and what is called on the thread of mars. -/
inductive Message where
  /-- the oldest block of `StartTask` -/
  | start
  | stopTask (taskid : Nat)
  | clearTasks
  /-- `OnNetworkChange` or `RedoTasks` -/
  | redo (longRedo : Bool)
  /-- the run loops and the timer -/
  | longRunLoop
  | shortRunLoop
  | timerChecker
  /-- what the long link posts -/
  | longSend (taskid : Nat)
  | longRecv (taskid : Nat) (cachedsize totalsize : UInt32)
  | longResponse (error_type : ErrCmdType) (error_code : Int) (cmdid : UInt32) (taskid : Nat)
      (body_len : UInt32) (ans : RespAnswer)
  | longConnStatus (connected : Bool)
  /-- what the workers of the short links post -/
  | shortSend (worker : Nat)
  | shortRecv (worker : Nat) (cached_size total_size : UInt32)
  | shortResponse (worker : Nat) (err_type : ErrCmdType) (status : Int) (body_len : UInt32)
      (cancel_retry : Bool) (ans : RespAnswer)
  /-- `fun_network_report_` of a link -/
  | networkReport (err_type : ErrCmdType)

/-- What has come out is gone. -/
def flush (c : NetCore) : NetCore := { c with out := [] }

/-- A message is handled. -/
def handle (c : NetCore) (a : Answers) : Message → NetCore
  | .start =>
      match c.starting with
      | [] => c
      | task :: starting => { c with starting }.startTask a task
  | .stopTask taskid => (c.stopTask taskid).1
  | .clearTasks => c.clearTasks
  | .redo longRedo => c.redoTasks a longRedo
  | .longRunLoop => c.withLong a.env.now (c.longlink_task_manager_.runLoop a.env a.long)
  | .shortRunLoop => c.withShort a.env.now (c.shortlink_task_manager_.runLoop a.env a.short)
  | .timerChecker => c.withZombie a.env.now (c.zombie_task_manager_.timerChecker a.env.now)
  | .longSend taskid => c.withLong a.env.now (c.longlink_task_manager_.onSend a.env taskid)
  | .longRecv taskid cachedsize totalsize =>
      c.withLong a.env.now (c.longlink_task_manager_.onRecv a.env taskid cachedsize totalsize)
  | .longResponse error_type error_code cmdid taskid body_len ans =>
      let r := c.longlink_task_manager_.onResponse a.env error_type error_code cmdid taskid body_len
        ans
      (c.withLong a.env.now r.1).retryTasks a r.2
  | .longConnStatus connected =>
      if connected then
        (c.withLong a.env.now (c.longlink_task_manager_.runLoop a.env a.long)).redoZombies a.env.now
      else c
  | .shortSend worker => c.withShort a.env.now (c.shortlink_task_manager_.onSend a.env worker)
  | .shortRecv worker cached_size total_size =>
      c.withShort a.env.now (c.shortlink_task_manager_.onRecv a.env worker cached_size total_size)
  | .shortResponse worker err_type status body_len cancel_retry ans =>
      let r := c.shortlink_task_manager_.onResponse a.env worker err_type status body_len
        cancel_retry ans
      (c.withShort a.env.now r.1).retryTasks a r.2
  | .networkReport err_type => if err_type = .kEctOK then c.redoZombies a.env.now else c

end NetCore

end MicroChat.Stn
