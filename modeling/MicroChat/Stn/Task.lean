import MicroChat.Stn.DynamicTimeout
import MicroChat.Support.Bytes
import MicroChat.Support.Sweep

/-!
# Stn — Task

The tasks of mars, and what the two task managers keep of a task that has been started.

* `Task`, `TransferProfile`, `TaskProfile`: the records.  What only reports read of them is left
  out.
* `computeTaskTimeout`, `firstPkgTimeout`, `readWriteTimeout`: the timeouts.
* `Call`, `Env`: what a task manager calls, and what it finds when it handles a message.
* `pushAndSort`: a task put into a list and the list sorted.
-/

namespace MicroChat.Stn
open Support

/-! ### Constants -/

inductive ErrCmdType where
  | kEctOK | kEctFalse | kEctDial | kEctDns | kEctSocket | kEctHttp | kEctNetMsgXP
  | kEctEnDecode | kEctServer | kEctLocal | kEctCanceld
deriving DecidableEq, Repr

def kTaskFailHandleNoError : Int := 0
def kTaskFailHandleDefault : Int := -1
def kTaskFailHandleRetryAllTasks : Int := -12
def kTaskFailHandleSessionTimeout : Int := -13
def kTaskFailHandleTaskEnd : Int := -14
def kTaskFailHandleTaskTimeout : Int := -15

def kEctLocalTaskTimeout : Int := -1
def kEctLocalStartTaskFail : Int := -3
def kEctLocalAntiAvalanche : Int := -4
def kEctLocalChannelSelect : Int := -5
def kEctLocalNoNet : Int := -6
def kEctLocalTaskParam : Int := -12
def kEctLocalChannelID : Int := -14

def kInvalidTaskID : Nat := 0

/-! ### Records -/

/-- A task as it is started.  `user_context`, `report_arg` and `shortlink_host_list` are only handed
on. -/
structure Task where
  taskid : Nat
  cmdid : UInt32
  channel_id : UInt64
  channel_select : Int32
  cgi : Bytes
  send_only : Bool
  need_authed : Bool
  limit_flow : Bool
  limit_frequency : Bool
  network_status_sensitive : Bool
  channel_strategy : Int
  priority : Int
  retry_count : Int
  server_process_cost : Int
  total_timetout : Int32

/-- `Task::Task(uint32_t _taskid)`. -/
def Task.ofId (taskid : Nat) : Task where
  taskid
  cmdid := 0
  channel_id := 0
  channel_select := 0
  cgi := []
  send_only := false
  need_authed := false
  limit_flow := true
  limit_frequency := true
  network_status_sensitive := false
  channel_strategy := 0
  priority := 3
  retry_count := -1
  server_process_cost := -1
  total_timetout := -1

/-- One attempt to send the request. -/
structure TransferProfile where
  loop_start_task_time : UInt64
  first_start_send_time : UInt64
  start_send_time : UInt64
  last_receive_pkg_time : UInt64
  read_write_timeout : UInt64
  first_pkg_timeout : UInt64
  send_data_size : UInt32
  received_size : UInt32
  receive_data_size : UInt32

/-- `void TransferProfile::Reset()`. -/
def TransferProfile.reset : TransferProfile := ⟨0, 0, 0, 0, 0, 0, 0, 0, 0⟩

/-- `running_id` is what the long link has said to the request, or the worker of the short link
that has it; 0 for a task that is not being sent. -/
structure TaskProfile where
  task : Task
  transfer_profile : TransferProfile
  running_id : Nat
  task_timeout : UInt64
  start_task_time : UInt64
  retry_start_time : UInt64
  remain_retry_count : Int
  last_failed_dyntime_status : Option DynamicTimeoutStatus
  current_dyntime_status : Option DynamicTimeoutStatus
  antiavalanche_checked : Bool
  use_proxy : Bool
  retry_time_interval : UInt64

/-- `(uint64_t)_task.total_timetout`. -/
def Task.totalTimeout (task : Task) : UInt64 := task.total_timetout.toInt64.toUInt64

/-- `static uint64_t ComputeTaskTimeout(const Task& _task)`. -/
def computeTaskTimeout (task : Task) : UInt64 :=
  let readwritetimeout : Int :=
    if 0 < task.server_process_cost then task.server_process_cost + 15 * 1000 else 15 * 1000
  let trycount : Int := (if 0 ≤ task.retry_count then task.retry_count else 0) + 1
  let task_timeout := UInt64.ofInt ((readwritetimeout + 5 * 1000) * trycount)
  if 0 < task.total_timetout ∧ task.totalTimeout < task_timeout then task.totalTimeout
  else task_timeout

namespace TaskProfile

/-- `TaskProfile(const Task& _task)`. -/
def ofTask (now : UInt64) (task : Task) : TaskProfile where
  task
  transfer_profile := .reset
  running_id := 0
  task_timeout := computeTaskTimeout task
  start_task_time := now
  retry_start_time := 0
  remain_retry_count := task.retry_count
  last_failed_dyntime_status := none
  current_dyntime_status := none
  antiavalanche_checked := false
  use_proxy := false
  retry_time_interval := 0

/-- `void InitSendParam()`. -/
def initSendParam (p : TaskProfile) : TaskProfile :=
  { p with transfer_profile := .reset, running_id := 0 }

/-- What `RedoTasks` does to each task. -/
def redo (p : TaskProfile) : TaskProfile :=
  { p.initSendParam with last_failed_dyntime_status := none }

/-- What `__OnSend` writes to its task. -/
def sentAt (now : UInt64) (p : TaskProfile) : TaskProfile :=
  { p with transfer_profile := { p.transfer_profile with
      first_start_send_time :=
        if p.transfer_profile.first_start_send_time = 0 then now
        else p.transfer_profile.first_start_send_time
      start_send_time := now } }

/-- What `__OnRecv` and `__OnResponse` write to their task. -/
def receivedAt (now : UInt64) (cachedsize totalsize : UInt32) (p : TaskProfile) : TaskProfile :=
  { p with transfer_profile := { p.transfer_profile with
      received_size := cachedsize
      receive_data_size := totalsize
      last_receive_pkg_time := now } }

/-- `void __SetLastFailedStatus(…)`. -/
def setLastFailedStatus (p : TaskProfile) : TaskProfile :=
  if p.remain_retry_count > 0 then { p with last_failed_dyntime_status := p.current_dyntime_status }
  else p

/-- Its time is up. -/
def Overdue (now : UInt64) (p : TaskProfile) : Prop := now - p.start_task_time ≥ p.task_timeout

instance (now : UInt64) (p : TaskProfile) : Decidable (p.Overdue now) :=
  inferInstanceAs (Decidable (_ ≥ _))

end TaskProfile

/-! ### Timeouts -/

section
variable (netInfo : NetInfo)

/-- The time that may pass between two packages: `kWifiPackageInterval` or
`kGPRSPackageInterval`. -/
def packageInterval : UInt64 := if netInfo ≠ .kMobile then 8 * 1000 else 12 * 1000

/-- `kWifiMinRate` or `kGPRSMinRate`. -/
def minRate : UInt64 := if netInfo ≠ .kMobile then 12 * 1024 else 4 * 1024

/-- `uint64_t __ReadWriteTimeout(uint64_t _first_pkg_timeout)`. -/
def readWriteTimeout (first_pkg_timeout : UInt64) : UInt64 :=
  first_pkg_timeout + 1000 * (64 * 1024) / minRate netInfo

/-- `uint64_t __FirstPkgTimeout(…)`; the product with the length is one of 32 bits. -/
def firstPkgTimeout (init_first_pkg_timeout : Int) (sendlen : UInt32) (send_count : Nat)
    (status : DynamicTimeoutStatus) : UInt64 :=
  let wifi := netInfo ≠ .kMobile
  let task_delay : UInt64 := if wifi then 1500 else 3000
  let delay := (UInt64.ofNat send_count) * task_delay
  if status = .kExcellent ∧ init_first_pkg_timeout = 0 then
    (if wifi then 7 * 1000 else 10 * 1000) + delay
  else
    let transfer := (1000 * sendlen).toUInt64 / minRate netInfo
    if 0 < init_first_pkg_timeout then UInt64.ofInt init_first_pkg_timeout + transfer + delay
    else
      let ret := (if wifi then 12 * 1000 else 15 * 1000) + transfer
      min ret (if wifi then 22 * 1000 else 30 * 1000) + delay

end

/-! ### What the managers call -/

/-- What a task manager calls while it handles a message, in order. -/
inductive Call where
  | req2Buf (taskid : Nat)
  | buf2Resp (taskid : Nat)
  | onPush (cmdid : UInt32)
  /-- `fun_callback_` -/
  | callBack (err_type : ErrCmdType) (err_code fail_handle : Int) (task : Task)
      (taskcosttime : UInt32)
  /-- `fun_notify_network_err_` -/
  | notifyNetworkErr (err_type : ErrCmdType) (err_code : Int)
  | cgiTaskStatistic (cgi : Bytes) (total_size : UInt32) (cost_time : UInt64)
  /-- the request has been handed to the link, or to a worker of its own -/
  | send (taskid : Nat)
  /-- `LongLink::Stop` -/
  | stop (taskid : Nat)
  | deleteShortLink (worker : Nat)
  /-- `LongLink::Disconnect` -/
  | disconnect

/-- What the managers find while they handle a message: the time, the network, what the
application says to `MakesureAuthed` and the estimate of `DynamicTimeout`. -/
structure Env where
  now : UInt64
  netInfo : NetInfo
  makesureAuthed : Bool
  dynStatus : DynamicTimeoutStatus

/-- What a task's request meets: the length `Req2Buf` has written or its error, and whether
`AntiAvalanche::Check` lets it through. -/
structure ReqAnswer where
  req2Buf : Except Int UInt32
  antiAvalanche : Bool

/-- The error a request is given up with, or its length. -/
def ReqAnswer.checked (a : ReqAnswer) : Except (ErrCmdType × Int) UInt32 :=
  match a.req2Buf with
  | .error error_code => .error (.kEctEnDecode, error_code)
  | .ok len => if a.antiAvalanche then .ok len else .error (.kEctLocal, kEctLocalAntiAvalanche)

/-- The answer of `Buf2Resp`. -/
structure RespAnswer where
  handle_type : Int
  err_code : Int

/-- A call of `fun_notify_retry_all_tasks`. -/
structure RetryAll where
  err_type : ErrCmdType
  err_code : Int
  fail_handle : Int
  src_taskid : Nat

/-! ### The lists of the managers -/

/-- `bool __CompareTask(…)`, as the order a list is sorted by. -/
def NotAfter (p q : TaskProfile) : Prop := p.task.priority ≤ q.task.priority

instance : DecidableRel NotAfter := fun _ _ => inferInstanceAs (Decidable (_ ≤ _))

instance : Std.Total NotAfter := ⟨fun _ _ => le_total _ _⟩

instance : IsTrans TaskProfile NotAfter := ⟨fun _ _ _ => le_trans⟩

/-- `lst_cmd_.push_back(task)` and `lst_cmd_.sort(__CompareTask)`. -/
def pushAndSort (lst_cmd_ : List TaskProfile) (p : TaskProfile) : List TaskProfile :=
  (lst_cmd_ ++ [p]).insertionSort NotAfter

end MicroChat.Stn
