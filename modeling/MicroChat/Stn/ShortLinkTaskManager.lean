import MicroChat.Stn.TaskList

/-!
# Stn — ShortLinkTaskManager

The tasks that go over short links, each with a worker of its own.

* `ShortLinkTaskManager`: the manager, with the functions of the source.
* `To`: what each function does, in moves of single tasks.
-/

namespace MicroChat.Stn
open Support

/-- The answers a task is given in a pass of `ShortLinkTaskManager::__RunOnStartTask`; `worker` is
the new object. -/
structure ShortLinkAnswer where
  req : ReqAnswer
  worker : Nat

/-! ### The manager -/

/-- `calls` are those of the message that is being handled. -/
structure ShortLinkTaskManager where
  lst_cmd_ : List TaskProfile
  default_use_proxy_ : Bool
  tasks_continuous_fail_count_ : UInt32
  calls : List Call

namespace ShortLinkTaskManager

def call (m : ShortLinkTaskManager) (c : Call) : ShortLinkTaskManager :=
  { m with calls := m.calls ++ [c] }

/-- `void ShortLinkTaskManager::__DeleteShortLink(intptr_t& _running_id)`. -/
def deleteShortLink (m : ShortLinkTaskManager) (running_id : Nat) : ShortLinkTaskManager :=
  if running_id = 0 then m else m.call (.deleteShortLink running_id)

/-- `bool ShortLinkTaskManager::__SingleRespHandle(…)`: the task ends, or is to be sent again in a
while. -/
def singleRespHandle (env : Env) (m : ShortLinkTaskManager) (it : TaskProfile)
    (err_type : ErrCmdType) (err_code fail_handle : Int) :
    ShortLinkTaskManager × Option TaskProfile :=
  let m :=
    if err_type = .kEctOK then
      { m with tasks_continuous_fail_count_ := 0, default_use_proxy_ := it.use_proxy }
    else { m with tasks_continuous_fail_count_ := m.tasks_continuous_fail_count_ + 1 }
  if it.remain_retry_count ≤ 0 ∨ err_type = .kEctOK ∨ fail_handle = kTaskFailHandleTaskEnd ∨
      fail_handle = kTaskFailHandleTaskTimeout then
    ((m.call (.callBack err_type err_code fail_handle it.task
      (env.now - it.start_task_time).toUInt32)).deleteShortLink it.running_id, none)
  else
    (m.deleteShortLink it.running_id, some
      { { it with remain_retry_count := it.remain_retry_count - 1 }.initSendParam with
        retry_start_time := if fail_handle = kTaskFailHandleSessionTimeout then 0 else env.now
        retry_time_interval := 1000 })

/-- The tasks `__BatchErrorRespHandle` comes to; `_callback_runing_task_only` is true. -/
def batchOne (env : Env) (err_type : ErrCmdType) (err_code fail_handle : Int) (src_taskid : Nat)
    (m : ShortLinkTaskManager) (first : TaskProfile) :
    ShortLinkTaskManager × Option TaskProfile :=
  if first.running_id = 0 then (m, some first)
  else if fail_handle = kTaskFailHandleSessionTimeout ∧ ¬ first.task.need_authed then
    (m, some first)
  else if src_taskid = kInvalidTaskID ∨ src_taskid = first.task.taskid then
    m.singleRespHandle env first err_type err_code fail_handle
  else m.singleRespHandle env first err_type 0 fail_handle

/-- A loop over `lst_cmd_`. -/
def eachTask (m : ShortLinkTaskManager)
    (f : ShortLinkTaskManager → TaskProfile → ShortLinkTaskManager × Option TaskProfile) :
    ShortLinkTaskManager :=
  let r := sweep f m m.lst_cmd_
  { r.1 with lst_cmd_ := r.2 }

/-- `void ShortLinkTaskManager::__BatchErrorRespHandle(…)`. -/
def batchErrorRespHandle (env : Env) (m : ShortLinkTaskManager) (err_type : ErrCmdType)
    (err_code fail_handle : Int) (src_taskid : Nat) : ShortLinkTaskManager :=
  m.eachTask (batchOne env err_type err_code fail_handle src_taskid)

/-! #### Timeouts -/

def kEctHttpFirstPkgTimeout : Int := -500
def kEctHttpPkgPkgTimeout : Int := -501
def kEctHttpReadWriteTimeout : Int := -502

/-- What a task of `__RunOnTimeout` is given up for, or sent again for. -/
def timeoutOf (env : Env) (first : TaskProfile) : Option (ErrCmdType × Int) :=
  let t := first.transfer_profile
  let sending := first.running_id ≠ 0 ∧ 0 < t.start_send_time
  if first.Overdue env.now then some (.kEctLocal, kEctLocalTaskTimeout)
  else if sending ∧ env.now - t.start_send_time ≥ t.read_write_timeout then
    some (.kEctHttp, kEctHttpReadWriteTimeout)
  else if sending ∧ t.last_receive_pkg_time = 0 ∧
      env.now - t.start_send_time ≥ t.first_pkg_timeout then
    some (.kEctHttp, kEctHttpFirstPkgTimeout)
  else if sending ∧ 0 < t.last_receive_pkg_time ∧
      env.now - t.last_receive_pkg_time ≥ packageInterval env.netInfo then
    some (.kEctHttp, kEctHttpPkgPkgTimeout)
  else none

/-- The manager after one of its tasks. -/
def andCall (r : ShortLinkTaskManager × Option TaskProfile) (c : Call) :
    ShortLinkTaskManager × Option TaskProfile :=
  (r.1.call c, r.2)

/-- One turn of the loop of `__RunOnTimeout`. -/
def timeoutOne (env : Env) (m : ShortLinkTaskManager) (first : TaskProfile) :
    ShortLinkTaskManager × Option TaskProfile :=
  match timeoutOf env first with
  | none => (m, some first)
  | some (err_type, socket_timeout_code) =>
      let m := m.call (.cgiTaskStatistic first.task.cgi kDynTimeTaskFailedPkgLen 0)
      andCall (m.singleRespHandle env first.setLastFailedStatus err_type socket_timeout_code
        (if err_type = .kEctLocal then kTaskFailHandleTaskTimeout else kTaskFailHandleDefault))
        (.notifyNetworkErr err_type socket_timeout_code)

/-- `void ShortLinkTaskManager::__RunOnTimeout()`. -/
def runOnTimeout (env : Env) (m : ShortLinkTaskManager) : ShortLinkTaskManager :=
  m.eachTask (timeoutOne env)

/-! #### Sending -/

/-- The manager in the loop of `__RunOnStartTask`, at the `n`-th task. -/
structure Starts where
  m : ShortLinkTaskManager
  n : Nat
  sent_count : Nat

/-- The task goes on as `r` says, at the next place of the list. -/
def Starts.go (s : Starts) (r : ShortLinkTaskManager × Option TaskProfile) :
    Starts × Option TaskProfile :=
  (⟨r.1, s.n + 1, s.sent_count⟩, r.2)

/-- The task as its request of `len` bytes is handed to a new worker. -/
def prepared (env : Env) (ans : ShortLinkAnswer) (default_use_proxy_ : Bool) (sent_count : Nat)
    (first : TaskProfile) (len : UInt32) : TaskProfile :=
  let first_pkg_timeout := firstPkgTimeout env.netInfo first.task.server_process_cost len sent_count
    env.dynStatus
  { first with
    transfer_profile := { first.transfer_profile with
      loop_start_task_time := env.now
      first_pkg_timeout
      read_write_timeout := readWriteTimeout env.netInfo first_pkg_timeout
      send_data_size := len }
    current_dyntime_status :=
      some (if first.task.server_process_cost ≤ 0 then env.dynStatus else .kEValuating)
    use_proxy :=
      if first.remain_retry_count = 0 ∧ first.task.retry_count > 0 then !default_use_proxy_
      else default_use_proxy_
    running_id := ans.worker }

/-- The end of a turn. -/
def transmit (env : Env) (ans : ShortLinkAnswer) (s : Starts) (first : TaskProfile)
    (len : UInt32) : Starts × Option TaskProfile :=
  let first := prepared env ans s.m.default_use_proxy_ s.sent_count first len
  if ans.worker = 0 then s.go (s.m, some first)
  else
    { s with sent_count := s.sent_count + 1 }.go (s.m.call (.send first.task.taskid), some first)

/-- One turn of the loop of `__RunOnStartTask`. -/
def startOne (env : Env) (answers : Nat → ShortLinkAnswer) (s : Starts) (first : TaskProfile) :
    Starts × Option TaskProfile :=
  let ans := answers s.n
  if first.running_id ≠ 0 then { s with sent_count := s.sent_count + 1 }.go (s.m, some first)
  else if first.retry_time_interval > env.now - first.retry_start_time then s.go (s.m, some first)
  else if first.task.need_authed ∧ ¬ env.makesureAuthed then s.go (s.m, some first)
  else
    let s := { s with m := s.m.call (.req2Buf first.task.taskid) }
    match ans.req.checked with
    | .error (err_type, err_code) =>
        s.go (s.m.singleRespHandle env first err_type err_code kTaskFailHandleTaskEnd)
    | .ok len => transmit env ans s first len

/-- `void ShortLinkTaskManager::__RunOnStartTask()`. -/
def runOnStartTask (env : Env) (answers : Nat → ShortLinkAnswer) (m : ShortLinkTaskManager) :
    ShortLinkTaskManager :=
  let r := sweep (startOne env answers) ⟨m, 0, 0⟩ m.lst_cmd_
  { r.1.m with lst_cmd_ := r.2 }

/-- `void ShortLinkTaskManager::__RunLoop()`; it calls itself again in a second while there are
tasks. -/
def runLoop (env : Env) (answers : Nat → ShortLinkAnswer) (m : ShortLinkTaskManager) :
    ShortLinkTaskManager :=
  if m.lst_cmd_.isEmpty then m else (m.runOnTimeout env).runOnStartTask env answers

/-! #### What NetCore and the workers call -/

/-- `bool ShortLinkTaskManager::StartTask(const Task& _task)`. -/
def startTask (env : Env) (answers : Nat → ShortLinkAnswer) (m : ShortLinkTaskManager)
    (task : Task) : ShortLinkTaskManager × Bool :=
  if task.send_only then (m, false)
  else
    ({ m with lst_cmd_ := pushAndSort m.lst_cmd_ (.ofTask env.now task) }.runLoop env answers, true)

/-- `bool ShortLinkTaskManager::StopTask(uint32_t _taskid)`. -/
def stopTask (m : ShortLinkTaskManager) (taskid : Nat) : ShortLinkTaskManager × Bool :=
  match m.lst_cmd_.find? (·.task.taskid = taskid) with
  | none => (m, false)
  | some first =>
      ({ m.deleteShortLink first.running_id with
        lst_cmd_ := m.lst_cmd_.eraseP (·.task.taskid = taskid) }, true)

/-- `bool ShortLinkTaskManager::HasTask(uint32_t _taskid) const`. -/
def hasTask (m : ShortLinkTaskManager) (taskid : Nat) : Bool :=
  m.lst_cmd_.any (·.task.taskid = taskid)

/-- `__DeleteShortLink` for each of the tasks. -/
def deleteShortLinks (m : ShortLinkTaskManager) : ShortLinkTaskManager :=
  m.lst_cmd_.foldl (fun m p => m.deleteShortLink p.running_id) m

/-- `void ShortLinkTaskManager::ClearTasks()`. -/
def clearTasks (m : ShortLinkTaskManager) : ShortLinkTaskManager :=
  { m.deleteShortLinks with lst_cmd_ := [] }

/-- `void ShortLinkTaskManager::RedoTasks()`. -/
def redoTasks (env : Env) (answers : Nat → ShortLinkAnswer) (m : ShortLinkTaskManager) :
    ShortLinkTaskManager :=
  { m.deleteShortLinks with lst_cmd_ := m.lst_cmd_.map TaskProfile.redo }.runLoop env answers

/-- `void ShortLinkTaskManager::RetryTasks(…)`. -/
def retryTasks (env : Env) (answers : Nat → ShortLinkAnswer) (m : ShortLinkTaskManager)
    (err_type : ErrCmdType) (err_code fail_handle : Int) (src_taskid : Nat) :
    ShortLinkTaskManager :=
  (m.batchErrorRespHandle env err_type err_code fail_handle src_taskid).runLoop env answers

/-- `__LocateBySeq`, and what is done with the task it finds. -/
def located (m : ShortLinkTaskManager) (worker : Nat)
    (f : ShortLinkTaskManager → TaskProfile → ShortLinkTaskManager × Option TaskProfile) :
    ShortLinkTaskManager :=
  if worker = 0 then m
  else
    let r := atFirst (·.running_id = worker) f m m.lst_cmd_
    { r.1 with lst_cmd_ := r.2 }

/-- `void ShortLinkTaskManager::__OnSend(ShortLinkInterface* _worker)`. -/
def onSend (env : Env) (m : ShortLinkTaskManager) (worker : Nat) : ShortLinkTaskManager :=
  m.located worker fun m it => (m, some (it.sentAt env.now))

/-- `void ShortLinkTaskManager::__OnRecv(…)`. -/
def onRecv (env : Env) (m : ShortLinkTaskManager) (worker : Nat)
    (cached_size total_size : UInt32) : ShortLinkTaskManager :=
  m.located worker fun m it => (m, some (it.receivedAt env.now cached_size total_size))

def kEctSocketMakeSocketPrepared : Int := -10087

/-- A response that is an error of the link. -/
def onError (env : Env) (err_type : ErrCmdType) (status : Int) (m : ShortLinkTaskManager)
    (it : TaskProfile) : ShortLinkTaskManager × Option TaskProfile :=
  if err_type = .kEctSocket ∧ status = kEctSocketMakeSocketPrepared then
    (m.call (.cgiTaskStatistic it.task.cgi kDynTimeTaskFailedPkgLen 0)).singleRespHandle env
      it.setLastFailedStatus err_type status kTaskFailHandleDefault
  else m.singleRespHandle env it err_type status kTaskFailHandleDefault

/-- The task a response has come for: `_cancel_retry` takes one attempt from it. -/
def answered (env : Env) (body_len : UInt32) (cancel_retry : Bool) (it : TaskProfile) :
    TaskProfile :=
  let it := it.receivedAt env.now body_len body_len
  if cancel_retry ∧ it.remain_retry_count > 0 then
    { it with remain_retry_count := it.remain_retry_count - 1 }
  else it

/-- `void ShortLinkTaskManager::__OnResponse(…)`, with the call of `fun_notify_retry_all_tasks` it
may end with. -/
def onResponse (env : Env) (m : ShortLinkTaskManager) (worker : Nat) (err_type : ErrCmdType)
    (status : Int) (body_len : UInt32) (cancel_retry : Bool) (ans : RespAnswer) :
    ShortLinkTaskManager × Option RetryAll :=
  if worker = 0 then (m, none)
  else
    match m.lst_cmd_.find? (·.running_id = worker) with
    | none => (m, none)
    | some it =>
        if err_type ≠ .kEctOK then (m.located worker (onError env err_type status), none)
        else
          let m := m.located worker fun m it =>
            (m.call (.buf2Resp it.task.taskid), some (answered env body_len cancel_retry it))
          if ans.handle_type = kTaskFailHandleNoError then
            let m := m.call (.cgiTaskStatistic it.task.cgi
              (it.transfer_profile.send_data_size + body_len)
              (env.now - it.transfer_profile.start_send_time))
            let m := m.located worker fun m it =>
              m.singleRespHandle env it .kEctOK ans.err_code ans.handle_type
            (m.call (.notifyNetworkErr .kEctOK ans.err_code), none)
          else if ans.handle_type = kTaskFailHandleSessionTimeout ∨
              ans.handle_type = kTaskFailHandleRetryAllTasks then
            (m, some ⟨.kEctEnDecode, ans.err_code, ans.handle_type, it.task.taskid⟩)
          else
            let m := m.located worker fun m it =>
              m.singleRespHandle env it .kEctEnDecode ans.err_code ans.handle_type
            if ans.handle_type = kTaskFailHandleTaskEnd then (m, none)
            else (m.call (.notifyNetworkErr .kEctEnDecode ans.handle_type), none)

/-! ### What the functions do -/

section
variable {env : Env} {answers : Nat → ShortLinkAnswer}

/-- `DidBy`, from one state of the manager to another. -/
abbrev To (V : TaskProfile → List Call → Option TaskProfile → Prop) (m m' : ShortLinkTaskManager) :
    Prop := DidBy V m.lst_cmd_ m.calls m'.lst_cmd_ m'.calls

/-- What a turn for the task `p` does. -/
abbrev Turn (now : UInt64) (m : ShortLinkTaskManager) (p : TaskProfile)
    (r : ShortLinkTaskManager × Option TaskProfile) : Prop :=
  Did now [p] m.calls r.2.toList r.1.calls

@[simp] theorem calls_call (m : ShortLinkTaskManager) (c : Call) :
    (m.call c).calls = m.calls ++ [c] := rfl

theorem did_deleteShortLink (l : List TaskProfile) (m : ShortLinkTaskManager) (running_id : Nat) :
    Did env.now l m.calls l (m.deleteShortLink running_id).calls := by
  rw [deleteShortLink]
  split
  · exact .refl ..
  · exact .call ..

theorem did_deleteShortLinks (m : ShortLinkTaskManager) (l : List TaskProfile) :
    Did env.now l m.calls l m.deleteShortLinks.calls := by
  rw [deleteShortLinks]
  generalize m.lst_cmd_ = deleted
  induction deleted generalizing m with
  | nil => exact .refl ..
  | cons p deleted ih => exact (did_deleteShortLink l m p.running_id).trans (ih _)

theorem turn_singleRespHandle (m : ShortLinkTaskManager) (it : TaskProfile)
    (err_type : ErrCmdType) (err_code fail_handle : Int) :
    Turn env.now m it (m.singleRespHandle env it err_type err_code fail_handle) := by
  rw [singleRespHandle]
  generalize hm : (if err_type = .kEctOK then _ else _ : ShortLinkTaskManager) = m'
  have hcalls : m'.calls = m.calls := by
    rw [← hm]
    split <;> rfl
  split
  · rename_i why
    have hfinish : Did env.now [it] m.calls [] (m'.call (.callBack err_type err_code fail_handle
        it.task (env.now - it.start_task_time).toUInt32)).calls :=
      ⟨[_], by rw [calls_call, hcalls], .one (Move.finish why)⟩
    exact hfinish.trans (did_deleteShortLink [] _ it.running_id)
  · rename_i why
    have hleft : 0 < it.remain_retry_count := not_le.mp fun h => why (.inl h)
    have hdelete : Did env.now [it] m'.calls [it] (m'.deleteShortLink it.running_id).calls :=
      did_deleteShortLink [it] m' it.running_id
    rw [hcalls] at hdelete
    exact hdelete.trans ⟨[], (List.append_nil _).symm, .one (.retry hleft rfl rfl rfl)⟩

theorem did_eachTask {f} (hf : ∀ m it, Turn env.now m it (f m it)) (m : ShortLinkTaskManager) :
    To (Move env.now) m (m.eachTask f) := sweep_works calls hf m m.lst_cmd_

theorem to_located {V f} (hf : ∀ (m : ShortLinkTaskManager) it,
      DidBy V [it] m.calls (f m it).2.toList (f m it).1.calls) (m : ShortLinkTaskManager)
    (worker : Nat) : To V m (m.located worker f) := by
  rw [located]
  split
  · exact .refl ..
  · exact atFirst_works calls (fun m it _ => hf m it) m m.lst_cmd_

theorem did_batchErrorRespHandle (m : ShortLinkTaskManager) (err_type : ErrCmdType)
    (err_code fail_handle : Int) (src_taskid : Nat) :
    To (Move env.now) m (m.batchErrorRespHandle env err_type err_code fail_handle src_taskid) := by
  refine did_eachTask (fun m first => ?_) m
  rw [batchOne]
  split
  · exact .refl ..
  · split
    · exact .refl ..
    · split <;> exact turn_singleRespHandle ..

theorem turn_timeoutOne (m : ShortLinkTaskManager) (first : TaskProfile) :
    Turn env.now m first (timeoutOne env m first) := by
  rw [timeoutOne]
  split
  · exact .refl ..
  · have hcall : Did env.now [first] m.calls [first]
        (m.call (.cgiTaskStatistic first.task.cgi kDynTimeTaskFailedPkgLen 0)).calls := .call ..
    exact ((hcall.trans (Did.write (written_setLastFailedStatus first) _)).trans
      (turn_singleRespHandle ..)).trans (.call ..)

theorem did_runOnTimeout (m : ShortLinkTaskManager) :
    To (Move env.now) m (m.runOnTimeout env) := did_eachTask turn_timeoutOne m

/-- What a turn of the loop of `__RunOnStartTask` does. -/
abbrev StartTurn (now : UInt64) (s : Starts) (p : TaskProfile) (r : Starts × Option TaskProfile) :
    Prop := Did now [p] s.m.calls r.2.toList r.1.m.calls

theorem startTurn_transmit (ans : ShortLinkAnswer) (s : Starts) {first : TaskProfile}
    (hidle : first.running_id = 0) (len : UInt32) :
    StartTurn env.now s first (transmit env ans s first len) := by
  rw [transmit]
  generalize hp : prepared env ans s.m.default_use_proxy_ s.sent_count first len = p
  have hfixed : p.fixed = first.fixed := by rw [← hp]; rfl
  have hretry : p.remain_retry_count = first.remain_retry_count := by rw [← hp]; rfl
  have hid : p.running_id = ans.worker := by rw [← hp]; rfl
  split
  · rename_i hworker
    exact .write ⟨hfixed, hretry, by rw [hid, hworker, hidle]⟩ _
  · rename_i hworker
    have hbusy : p.running_id ≠ 0 := fun h => hworker (hid.symm.trans h)
    have htask : p.task = first.task := congrArg Prod.fst hfixed
    have hsent : Did env.now [first] s.m.calls [p] (s.m.calls ++ [.send p.task.taskid]) := by
      rw [htask]
      exact .one (Move.send hidle hbusy hfixed hretry) s.m.calls
    exact hsent

theorem startTurn_startOne (s : Starts) (first : TaskProfile) :
    StartTurn env.now s first (startOne env answers s first) := by
  rw [startOne]
  split
  · exact .refl ..
  · rename_i hidle
    have hidle : first.running_id = 0 := not_ne_iff.mp hidle
    have hcall : Did env.now [first] s.m.calls [first]
        (s.m.call (.req2Buf first.task.taskid)).calls := .call ..
    split
    · exact .refl ..
    · split
      · exact .refl ..
      · dsimp only
        split
        · exact hcall.trans (turn_singleRespHandle ..)
        · exact hcall.trans (startTurn_transmit _ { s with m := s.m.call _ } hidle _)

theorem did_runOnStartTask (m : ShortLinkTaskManager) :
    To (Move env.now) m (m.runOnStartTask env answers) :=
  sweep_works (fun s : Starts => s.m.calls) startTurn_startOne ⟨m, 0, 0⟩ m.lst_cmd_

theorem did_runLoop (m : ShortLinkTaskManager) :
    To (Move env.now) m (m.runLoop env answers) := by
  rw [runLoop]
  split
  · exact .refl ..
  · exact (did_runOnTimeout m).trans (did_runOnStartTask _)

variable (env answers) in
theorem did_retryTasks (m : ShortLinkTaskManager) (err_type : ErrCmdType)
    (err_code fail_handle : Int) (src_taskid : Nat) :
    To (Move env.now) m
      (m.retryTasks env answers err_type err_code fail_handle src_taskid) :=
  (did_batchErrorRespHandle ..).trans (did_runLoop _)

/-- `StartTask`, from the list with the new task in it on. -/
theorem did_startTask {m : ShortLinkTaskManager} {task : Task}
    (h : (m.startTask env answers task).2 = true) :
    Did env.now (pushAndSort m.lst_cmd_ (.ofTask env.now task)) m.calls
      (m.startTask env answers task).1.lst_cmd_ (m.startTask env answers task).1.calls := by
  rw [startTask] at h ⊢
  split
  · rw [if_pos ‹_›] at h
    cases h
  · exact did_runLoop _

theorem startTask_eq_self {m : ShortLinkTaskManager} {task : Task}
    (h : (m.startTask env answers task).2 = false) : (m.startTask env answers task).1 = m := by
  rw [startTask] at h ⊢
  split
  · rfl
  · rw [if_neg ‹_›] at h
    cases h

variable (env answers) in
/-- `RedoTasks`, from the list on in which no task is being sent. -/
theorem did_redoTasks (m : ShortLinkTaskManager) :
    Did env.now (m.lst_cmd_.map .redo) m.calls (m.redoTasks env answers).lst_cmd_
      (m.redoTasks env answers).calls :=
  (did_deleteShortLinks m _).trans (did_runLoop _)

theorem did_onSend (m : ShortLinkTaskManager) (worker : Nat) :
    To (Move env.now) m (m.onSend env worker) :=
  to_located (fun _ it => Did.write (written_sentAt it) _) m worker

theorem did_onRecv (m : ShortLinkTaskManager) (worker : Nat) (cached_size total_size : UInt32) :
    To (Move env.now) m (m.onRecv env worker cached_size total_size) :=
  to_located (fun _ it => Did.write (written_receivedAt it cached_size total_size) _) m worker

theorem turn_onError (err_type : ErrCmdType) (status : Int) (m : ShortLinkTaskManager)
    (it : TaskProfile) : Turn env.now m it (onError env err_type status m it) := by
  rw [onError]
  split
  · have hcall : Did env.now [it] m.calls [it]
        (m.call (.cgiTaskStatistic it.task.cgi kDynTimeTaskFailedPkgLen 0)).calls := .call ..
    exact (hcall.trans (Did.write (written_setLastFailedStatus it) _)).trans
      (turn_singleRespHandle ..)
  · exact turn_singleRespHandle ..

theorem act_answered (body_len : UInt32) (cancel_retry : Bool) (it : TaskProfile)
    (calls : List Call) :
    DidBy (Act env.now) [it] calls [answered env body_len cancel_retry it]
      (calls ++ [.buf2Resp it.task.taskid]) := by
  rw [answered]
  split
  · rename_i hcancel
    have hact : Act env.now it [.buf2Resp it.task.taskid] (some
        { it.receivedAt env.now body_len body_len with
          remain_retry_count := it.remain_retry_count - 1 }) :=
      .answer rfl (.inr ⟨hcancel.2, rfl⟩) rfl
    exact .one hact calls
  · exact answer_of_written (written_receivedAt it _ _) calls

theorem act_onResponse (m : ShortLinkTaskManager) (worker : Nat) (err_type : ErrCmdType)
    (status : Int) (body_len : UInt32) (cancel_retry : Bool) (ans : RespAnswer) :
    To (Act env.now) m
      (m.onResponse env worker err_type status body_len cancel_retry ans).1 := by
  have hsingle (m : ShortLinkTaskManager) (err_type : ErrCmdType) :
      To (Act env.now) m (m.located worker fun m it =>
        m.singleRespHandle env it err_type ans.err_code ans.handle_type) :=
    Did.act (to_located
      (fun m it => turn_singleRespHandle m it err_type ans.err_code ans.handle_type) m worker)
  have hanswered : To (Act env.now) m (m.located worker fun m it =>
      (m.call (.buf2Resp it.task.taskid), some (answered env body_len cancel_retry it))) :=
    to_located (fun m it => act_answered body_len cancel_retry it m.calls) m worker
  rw [onResponse]
  split
  · exact .refl ..
  · split
    · exact .refl ..
    · split
      · exact Did.act (to_located (turn_onError err_type status) m worker)
      · dsimp only
        split
        · exact ((hanswered.trans (.call ..)).trans (hsingle _ .kEctOK)).trans (.call ..)
        · split
          · exact hanswered
          · split
            · exact hanswered.trans (hsingle _ .kEctEnDecode)
            · exact (hanswered.trans (hsingle _ .kEctEnDecode)).trans (.call ..)

end

end ShortLinkTaskManager

end MicroChat.Stn
