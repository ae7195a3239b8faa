import MicroChat.Longlink.Packer
import MicroChat.Stn.TaskList

/-!
# Stn — LongLinkTaskManager

The tasks that go over the long link.

* `LongLinkTaskManager`: the manager, with the functions of the source.
* `To`: what each function does, in moves of single tasks.
-/

namespace MicroChat.Stn
open Support

/-- The answers a task is given in a pass of `LongLinkTaskManager::__RunOnStartTask`: the request is
asked for twice where the first one was empty. -/
structure LongLinkAnswer where
  first : ReqAnswer
  makeSureConnected : Bool
  start_time : UInt64
  second : ReqAnswer
  send : Bool

/-! ### The manager -/

/-- `calls` are those of the message that is being handled. -/
structure LongLinkTaskManager where
  lst_cmd_ : List TaskProfile
  lastbatcherrortime_ : UInt64
  retry_interval_ : UInt64
  tasks_continuous_fail_count_ : UInt32
  calls : List Call

namespace LongLinkTaskManager

def call (m : LongLinkTaskManager) (c : Call) : LongLinkTaskManager :=
  { m with calls := m.calls ++ [c] }

/-- `bool LongLinkTaskManager::__SingleRespHandle(…)`: the task ends, or is to be sent again. -/
def singleRespHandle (env : Env) (m : LongLinkTaskManager) (it : TaskProfile)
    (err_type : ErrCmdType) (err_code fail_handle : Int) :
    LongLinkTaskManager × Option TaskProfile :=
  let m :=
    if err_type = .kEctOK then { m with retry_interval_ := 0, tasks_continuous_fail_count_ := 0 }
    else { m with tasks_continuous_fail_count_ := m.tasks_continuous_fail_count_ + 1 }
  if it.remain_retry_count ≤ 0 ∨ err_type = .kEctOK ∨ fail_handle = kTaskFailHandleTaskEnd ∨
      fail_handle = kTaskFailHandleTaskTimeout then
    (m.call (.callBack err_type err_code fail_handle it.task
      (env.now - it.start_task_time).toUInt32), none)
  else (m, some { it with remain_retry_count := it.remain_retry_count - 1 }.initSendParam)

/-- The tasks `__BatchErrorRespHandle` comes to; `_callback_runing_task_only` is true. -/
def batchOne (env : Env) (err_type : ErrCmdType) (err_code fail_handle : Int) (src_taskid : Nat)
    (m : LongLinkTaskManager) (first : TaskProfile) : LongLinkTaskManager × Option TaskProfile :=
  if first.running_id = 0 then (m, some first)
  else if src_taskid = kInvalidTaskID ∨ src_taskid = first.task.taskid then
    m.singleRespHandle env first err_type err_code fail_handle
  else m.singleRespHandle env first err_type 0 fail_handle

/-- A loop over `lst_cmd_`. -/
def eachTask (m : LongLinkTaskManager)
    (f : LongLinkTaskManager → TaskProfile → LongLinkTaskManager × Option TaskProfile) :
    LongLinkTaskManager :=
  let r := sweep f m m.lst_cmd_
  { r.1 with lst_cmd_ := r.2 }

/-- What `__BatchErrorRespHandle` does after its loop.  The messages it cancels are those that have
not come. -/
def afterBatch (env : Env) (err_type : ErrCmdType) (fail_handle : Int) (m : LongLinkTaskManager) :
    LongLinkTaskManager :=
  let retryAll :=
    fail_handle = kTaskFailHandleSessionTimeout ∨ fail_handle = kTaskFailHandleRetryAllTasks
  -- an error of the link itself has disconnected it already
  let decodeErr :=
    fail_handle = kTaskFailHandleDefault ∧ err_type ≠ .kEctDns ∧ err_type ≠ .kEctSocket
  { m with
    lastbatcherrortime_ := env.now
    retry_interval_ :=
      if retryAll then 0
      else if err_type ≠ .kEctLocal ∧ ¬ m.lst_cmd_.isEmpty then 1000
      else m.retry_interval_
    calls := m.calls ++ (if retryAll then [.disconnect] else []) ++
      (if decodeErr then [.disconnect] else []) ++
      (if err_type = .kEctNetMsgXP then [.disconnect] else []) }

/-- `void LongLinkTaskManager::__BatchErrorRespHandle(…)`. -/
def batchErrorRespHandle (env : Env) (m : LongLinkTaskManager) (err_type : ErrCmdType)
    (err_code fail_handle : Int) (src_taskid : Nat) : LongLinkTaskManager :=
  (m.eachTask (batchOne env err_type err_code fail_handle src_taskid)).afterBatch env err_type
    fail_handle

/-! #### Timeouts -/

def kEctLongFirstPkgTimeout : Int := -500
def kEctLongPkgPkgTimeout : Int := -501
def kEctLongReadWriteTimeout : Int := -502
def kEctLongTaskTimeout : Int := -503

/-- The manager in the loop of `__RunOnTimeout`. -/
structure Timeouts where
  m : LongLinkTaskManager
  socket_timeout_code : Int
  istasktimeout : Bool

/-- The request of the task has been sent, at least in part. -/
def Sending (p : TaskProfile) : Prop :=
  p.running_id ≠ 0 ∧ 0 < p.transfer_profile.start_send_time

instance (p : TaskProfile) : Decidable (Sending p) := inferInstanceAs (Decidable (_ ∧ _))

/-- Nothing of the response has come in time. -/
def FirstPkgTimeout (env : Env) (p : TaskProfile) : Prop :=
  Sending p ∧ p.transfer_profile.last_receive_pkg_time = 0 ∧
    env.now - p.transfer_profile.start_send_time ≥ p.transfer_profile.first_pkg_timeout

instance (env : Env) (p : TaskProfile) : Decidable (FirstPkgTimeout env p) :=
  inferInstanceAs (Decidable (_ ∧ _))

/-- What `socket_timeout_code` is after a task; the last of its timeouts counts. -/
def socketTimeoutCode (env : Env) (code : Int) (p : TaskProfile) : Int :=
  let t := p.transfer_profile
  if Sending p ∧ env.now - t.start_send_time ≥ t.read_write_timeout then kEctLongReadWriteTimeout
  else if Sending p ∧ 0 < t.last_receive_pkg_time ∧
      env.now - t.last_receive_pkg_time ≥ packageInterval env.netInfo then kEctLongPkgPkgTimeout
  else if FirstPkgTimeout env p then kEctLongFirstPkgTimeout
  else code

/-- The task after the loop has looked at its first package. -/
def markFirstPkg (env : Env) (p : TaskProfile) : TaskProfile :=
  if FirstPkgTimeout env p then p.setLastFailedStatus else p

/-- One turn of the loop of `__RunOnTimeout`. -/
def timeoutOne (env : Env) (s : Timeouts) (first : TaskProfile) : Timeouts × Option TaskProfile :=
  let code := socketTimeoutCode env s.socket_timeout_code first
  if first.Overdue env.now then
    let r := s.m.singleRespHandle env (markFirstPkg env first) .kEctLocal kEctLocalTaskTimeout
      kTaskFailHandleTaskTimeout
    (⟨r.1, code, true⟩, r.2)
  else (⟨s.m, code, s.istasktimeout⟩, some (markFirstPkg env first))

/-- The loop of `__RunOnTimeout`. -/
def timeoutLoop (env : Env) (m : LongLinkTaskManager) : Timeouts :=
  let r := sweep (timeoutOne env) ⟨m, 0, false⟩ m.lst_cmd_
  { r.1 with m := { r.1.m with lst_cmd_ := r.2 } }

/-- `void LongLinkTaskManager::__RunOnTimeout()`. -/
def runOnTimeout (env : Env) (m : LongLinkTaskManager) : LongLinkTaskManager :=
  let s := m.timeoutLoop env
  if s.socket_timeout_code ≠ 0 then
    ((s.m.call (.cgiTaskStatistic [] kDynTimeTaskFailedPkgLen 0)).batchErrorRespHandle env
      .kEctNetMsgXP s.socket_timeout_code kTaskFailHandleDefault kInvalidTaskID).call
      (.notifyNetworkErr .kEctNetMsgXP s.socket_timeout_code)
  else if s.istasktimeout then
    s.m.batchErrorRespHandle env .kEctNetMsgXP kEctLongTaskTimeout kTaskFailHandleDefault
      kInvalidTaskID
  else s.m

/-! #### Sending -/

/-- The manager in the loop of `__RunOnStartTask`, at the `n`-th task. -/
structure Starts where
  m : LongLinkTaskManager
  n : Nat
  sent_count : Nat

/-- The task goes on as `r` says, at the next place of the list. -/
def Starts.go (s : Starts) (r : LongLinkTaskManager × Option TaskProfile) :
    Starts × Option TaskProfile :=
  (⟨r.1, s.n + 1, s.sent_count⟩, r.2)

/-- The task as its request of `len` bytes is handed to the link. -/
def prepared (env : Env) (ans : LongLinkAnswer) (sent_count : Nat) (first : TaskProfile)
    (len : UInt32) : TaskProfile :=
  let first_pkg_timeout := firstPkgTimeout env.netInfo first.task.server_process_cost len sent_count
    env.dynStatus
  { first with
    transfer_profile := { first.transfer_profile with
      loop_start_task_time := env.now
      first_pkg_timeout
      read_write_timeout := readWriteTimeout env.netInfo first_pkg_timeout
      send_data_size := len }
    current_dyntime_status :=
      some (if first.task.server_process_cost ≤ 0 then env.dynStatus else .kEValuating)
    running_id := if ans.send then 1 else 0 }

/-- The end of a turn. -/
def transmit (env : Env) (ans : LongLinkAnswer) (s : Starts) (first : TaskProfile) (len : UInt32) :
    Starts × Option TaskProfile :=
  let first := prepared env ans s.sent_count first len
  if ¬ ans.send then s.go (s.m, some first)
  else
    let s := { s with m := s.m.call (.send first.task.taskid), sent_count := s.sent_count + 1 }
    if first.task.send_only then
      s.go (s.m.singleRespHandle env first .kEctOK 0 kTaskFailHandleNoError)
    else s.go (s.m, some first)

/-- The request of the task, asked for now: `k` is what follows where there is one. -/
def request (env : Env) (a : ReqAnswer) (s : Starts) (first : TaskProfile)
    (k : Starts → UInt32 → Starts × Option TaskProfile) : Starts × Option TaskProfile :=
  let s := { s with m := s.m.call (.req2Buf first.task.taskid) }
  match a.checked with
  | .error (err_type, err_code) =>
      s.go (s.m.singleRespHandle env first err_type err_code kTaskFailHandleTaskEnd)
  | .ok len => k s len

/-- The middle of a turn: the link, for a task whose request has `len` bytes so far. -/
def connect (env : Env) (ans : LongLinkAnswer) (s : Starts) (first : TaskProfile) (len : UInt32) :
    Starts × Option TaskProfile :=
  if ¬ ans.makeSureConnected then
    if first.task.channel_id ≠ 0 then
      s.go (s.m.singleRespHandle env first .kEctLocal kEctLocalChannelID kTaskFailHandleTaskEnd)
    else s.go (s.m, some first)
  else if first.task.channel_id ≠ 0 ∧ ans.start_time ≠ first.task.channel_id then
    s.go (s.m.singleRespHandle env first .kEctLocal kEctLocalChannelID kTaskFailHandleTaskEnd)
  else if len = 0 then
    request env ans.second s first fun s len => transmit env ans s first len
  else transmit env ans s first len

/-- One turn of the loop of `__RunOnStartTask`. -/
def startOne (env : Env) (answers : Nat → LongLinkAnswer) (canretry : Bool) (s : Starts)
    (first : TaskProfile) : Starts × Option TaskProfile :=
  let ans := answers s.n
  if first.running_id ≠ 0 then { s with sent_count := s.sent_count + 1 }.go (s.m, some first)
  else if first.task.retry_count > first.remain_retry_count ∧ ¬ canretry then
    s.go (s.m, some first)
  else if first.task.need_authed ∧ ¬ env.makesureAuthed then s.go (s.m, some first)
  else if ¬ first.antiavalanche_checked then
    request env ans.first s first fun s len =>
      connect env ans s { first with antiavalanche_checked := true } len
  else connect env ans s first 0

/-- `void LongLinkTaskManager::__RunOnStartTask()`. -/
def runOnStartTask (env : Env) (answers : Nat → LongLinkAnswer) (m : LongLinkTaskManager) :
    LongLinkTaskManager :=
  let canretry : Bool := env.now - m.lastbatcherrortime_ ≥ m.retry_interval_
  let r := sweep (startOne env answers canretry) ⟨m, 0, 0⟩ m.lst_cmd_
  { r.1.m with lst_cmd_ := r.2 }

/-- `void LongLinkTaskManager::__RunLoop()`; it calls itself again in a second while there are
tasks. -/
def runLoop (env : Env) (answers : Nat → LongLinkAnswer) (m : LongLinkTaskManager) :
    LongLinkTaskManager :=
  if m.lst_cmd_.isEmpty then m else (m.runOnTimeout env).runOnStartTask env answers

/-! #### What NetCore and the link call -/

/-- `bool LongLinkTaskManager::StartTask(const Task& _task)`, which is always true. -/
def startTask (env : Env) (answers : Nat → LongLinkAnswer) (m : LongLinkTaskManager)
    (task : Task) : LongLinkTaskManager :=
  { m with lst_cmd_ := pushAndSort m.lst_cmd_ (.ofTask env.now task) }.runLoop env answers

/-- `bool LongLinkTaskManager::StopTask(uint32_t _taskid)`. -/
def stopTask (m : LongLinkTaskManager) (taskid : Nat) : LongLinkTaskManager × Bool :=
  if m.lst_cmd_.any (·.task.taskid = taskid) then
    ({ m.call (.stop taskid) with
      lst_cmd_ := m.lst_cmd_.eraseP (·.task.taskid = taskid) }, true)
  else (m, false)

/-- `bool LongLinkTaskManager::HasTask(uint32_t _taskid) const`. -/
def hasTask (m : LongLinkTaskManager) (taskid : Nat) : Bool :=
  m.lst_cmd_.any (·.task.taskid = taskid)

/-- `void LongLinkTaskManager::ClearTasks()`. -/
def clearTasks (m : LongLinkTaskManager) : LongLinkTaskManager :=
  { m.call .disconnect with lst_cmd_ := [] }

/-- `void LongLinkTaskManager::RedoTasks()`. -/
def redoTasks (env : Env) (answers : Nat → LongLinkAnswer) (m : LongLinkTaskManager) :
    LongLinkTaskManager :=
  { m with
    lst_cmd_ := m.lst_cmd_.map TaskProfile.redo
    retry_interval_ := 0 }.runLoop env answers

/-- `void LongLinkTaskManager::RetryTasks(…)`. -/
def retryTasks (env : Env) (answers : Nat → LongLinkAnswer) (m : LongLinkTaskManager)
    (err_type : ErrCmdType) (err_code fail_handle : Int) (src_taskid : Nat) :
    LongLinkTaskManager :=
  (m.batchErrorRespHandle env err_type err_code fail_handle src_taskid).runLoop env answers

/-- `__Locate`, and what is done with the task it finds. -/
def located (m : LongLinkTaskManager) (taskid : Nat)
    (f : LongLinkTaskManager → TaskProfile → LongLinkTaskManager × Option TaskProfile) :
    LongLinkTaskManager :=
  if taskid = kInvalidTaskID then m
  else
    let r := atFirst (·.task.taskid = taskid) f m m.lst_cmd_
    { r.1 with lst_cmd_ := r.2 }

/-- `void LongLinkTaskManager::__OnSend(uint32_t _taskid)`. -/
def onSend (env : Env) (m : LongLinkTaskManager) (taskid : Nat) : LongLinkTaskManager :=
  m.located taskid fun m it => (m, some (it.sentAt env.now))

/-- `void LongLinkTaskManager::__OnRecv(…)`. -/
def onRecv (env : Env) (m : LongLinkTaskManager) (taskid : Nat) (cachedsize totalsize : UInt32) :
    LongLinkTaskManager :=
  m.located taskid fun m it => (m, some (it.receivedAt env.now cachedsize totalsize))

/-- `void LongLinkTaskManager::__OnResponse(…)`, with the call of `fun_notify_retry_all_tasks` it
may end with. -/
def onResponse (env : Env) (m : LongLinkTaskManager) (error_type : ErrCmdType) (error_code : Int)
    (cmdid : UInt32) (taskid : Nat) (body_len : UInt32) (ans : RespAnswer) :
    LongLinkTaskManager × Option RetryAll :=
  if error_type = .kEctOK ∧ longlinkIspush cmdid taskid then (m.call (.onPush cmdid), none)
  else if error_type ≠ .kEctOK then
    (m.batchErrorRespHandle env error_type error_code kTaskFailHandleDefault 0, none)
  else if taskid = kInvalidTaskID then (m, none)
  else
    match m.lst_cmd_.find? (·.task.taskid = taskid) with
    | none => (m, none)
    | some it =>
        let m := m.located taskid fun m it =>
          (m.call (.buf2Resp it.task.taskid), some (it.receivedAt env.now body_len body_len))
        if ans.handle_type = kTaskFailHandleNoError then
          let m := m.call (.cgiTaskStatistic it.task.cgi
            (it.transfer_profile.send_data_size + body_len)
            (env.now - it.transfer_profile.start_send_time))
          let m := m.located taskid fun m it =>
            m.singleRespHandle env it .kEctOK ans.err_code ans.handle_type
          (m.call (.notifyNetworkErr .kEctOK ans.err_code), none)
        else if ans.handle_type = kTaskFailHandleSessionTimeout ∨
            ans.handle_type = kTaskFailHandleRetryAllTasks then
          (m, some ⟨.kEctEnDecode, ans.err_code, ans.handle_type, taskid⟩)
        else if ans.handle_type = kTaskFailHandleTaskEnd then
          (m.located taskid fun m it =>
            m.singleRespHandle env it .kEctEnDecode ans.err_code ans.handle_type, none)
        else
          let m := m.batchErrorRespHandle env .kEctEnDecode ans.err_code ans.handle_type taskid
          -- an error that is no handle is reported with the handle in place of its code
          (m.call (.notifyNetworkErr .kEctEnDecode
            (if ans.handle_type = kTaskFailHandleDefault then ans.err_code else ans.handle_type)),
            none)

/-! ### What the functions do -/

section
variable {env : Env} {answers : Nat → LongLinkAnswer}

/-- `DidBy`, from one state of the manager to another. -/
abbrev To (V : TaskProfile → List Call → Option TaskProfile → Prop) (m m' : LongLinkTaskManager) :
    Prop := DidBy V m.lst_cmd_ m.calls m'.lst_cmd_ m'.calls

/-- What a turn for the task `p` does. -/
abbrev Turn (now : UInt64) (m : LongLinkTaskManager) (p : TaskProfile)
    (r : LongLinkTaskManager × Option TaskProfile) : Prop :=
  Did now [p] m.calls r.2.toList r.1.calls

@[simp] theorem calls_call (m : LongLinkTaskManager) (c : Call) :
    (m.call c).calls = m.calls ++ [c] := rfl

theorem did_call (m : LongLinkTaskManager) {c : Call} (hc : c.Plain := by trivial) :
    To (Move env.now) m (m.call c) := .call _ _ hc

theorem turn_singleRespHandle (m : LongLinkTaskManager) (it : TaskProfile)
    (err_type : ErrCmdType) (err_code fail_handle : Int) :
    Turn env.now m it (m.singleRespHandle env it err_type err_code fail_handle) := by
  rw [singleRespHandle]
  generalize hm : (if err_type = .kEctOK then _ else _ : LongLinkTaskManager) = m'
  have hcalls : m'.calls = m.calls := by
    rw [← hm]
    split <;> rfl
  split
  · rename_i why
    exact ⟨[_], by rw [calls_call, hcalls], .one (.finish why)⟩
  · rename_i why
    have hleft : 0 < it.remain_retry_count := not_le.mp fun h => why (.inl h)
    exact ⟨[], by rw [hcalls, List.append_nil], .one (.retry hleft rfl rfl rfl)⟩

theorem did_eachTask {f} (hf : ∀ m it, Turn env.now m it (f m it)) (m : LongLinkTaskManager) :
    To (Move env.now) m (m.eachTask f) := sweep_works calls hf m m.lst_cmd_

theorem to_located {V f} (hf : ∀ (m : LongLinkTaskManager) it,
      DidBy V [it] m.calls (f m it).2.toList (f m it).1.calls) (m : LongLinkTaskManager)
    (taskid : Nat) : To V m (m.located taskid f) := by
  rw [located]
  split
  · exact .refl ..
  · exact atFirst_works calls (fun m it _ => hf m it) m m.lst_cmd_

theorem turn_batchOne (err_type : ErrCmdType) (err_code fail_handle : Int) (src_taskid : Nat)
    (m : LongLinkTaskManager) (first : TaskProfile) :
    Turn env.now m first (batchOne env err_type err_code fail_handle src_taskid m first) := by
  rw [batchOne]
  split
  · exact .refl ..
  · split <;> exact turn_singleRespHandle ..

theorem did_afterBatch (err_type : ErrCmdType) (fail_handle : Int) (m : LongLinkTaskManager) :
    To (Move env.now) m (m.afterBatch env err_type fail_handle) := by
  have hcall (b : Prop) [Decidable b] (calls : List Call) : Did env.now m.lst_cmd_ calls
      m.lst_cmd_ (calls ++ if b then [.disconnect] else []) := by
    split
    · exact .call ..
    · rw [List.append_nil]
      exact .refl ..
  rw [afterBatch]
  exact ((hcall _ _).trans (hcall _ _)).trans (hcall _ _)

theorem did_batchErrorRespHandle (m : LongLinkTaskManager) (err_type : ErrCmdType)
    (err_code fail_handle : Int) (src_taskid : Nat) :
    To (Move env.now) m
      (m.batchErrorRespHandle env err_type err_code fail_handle src_taskid) :=
  (did_eachTask (turn_batchOne err_type err_code fail_handle src_taskid) m).trans
    (did_afterBatch err_type fail_handle _)

theorem written_markFirstPkg (p : TaskProfile) : Written p (markFirstPkg env p) := by
  rw [markFirstPkg]
  split
  · exact written_setLastFailedStatus p
  · exact ⟨rfl, rfl, rfl⟩

theorem did_timeoutLoop (m : LongLinkTaskManager) :
    To (Move env.now) m (m.timeoutLoop env).m := by
  refine sweep_works (fun s : Timeouts => s.m.calls) (fun s first => ?_) ⟨m, 0, false⟩ m.lst_cmd_
  have hmark : Did env.now [first] s.m.calls [markFirstPkg env first] s.m.calls :=
    .write (written_markFirstPkg first) _
  rw [timeoutOne]
  dsimp only
  split
  · exact hmark.trans (turn_singleRespHandle ..)
  · exact hmark

theorem did_runOnTimeout (m : LongLinkTaskManager) :
    To (Move env.now) m (m.runOnTimeout env) := by
  refine (did_timeoutLoop m).trans ?_
  rw [runOnTimeout]
  split
  · exact ((did_call _).trans (did_batchErrorRespHandle ..)).trans (did_call _)
  · split
    · exact did_batchErrorRespHandle ..
    · exact .refl ..

/-- What a turn of the loop of `__RunOnStartTask` does. -/
abbrev StartTurn (now : UInt64) (s : Starts) (p : TaskProfile) (r : Starts × Option TaskProfile) :
    Prop := Did now [p] s.m.calls r.2.toList r.1.m.calls

theorem startTurn_transmit (ans : LongLinkAnswer) (s : Starts) {first : TaskProfile}
    (hidle : first.running_id = 0) (len : UInt32) :
    StartTurn env.now s first (transmit env ans s first len) := by
  rw [transmit]
  dsimp only
  generalize hp : prepared env ans s.sent_count first len = p
  have hfixed : p.fixed = first.fixed := by rw [← hp]; rfl
  have hretry : p.remain_retry_count = first.remain_retry_count := by rw [← hp]; rfl
  have hid : p.running_id = if ans.send then 1 else 0 := by rw [← hp]; rfl
  split
  · rename_i hsend
    exact .write ⟨hfixed, hretry, by rw [hid, if_neg hsend, hidle]⟩ _
  · rename_i hsend
    have hbusy : p.running_id ≠ 0 := by
      rw [hid, if_pos (Classical.not_not.mp hsend)]
      exact one_ne_zero
    have htask : p.task = first.task := congrArg Prod.fst hfixed
    have hsent : Did env.now [first] s.m.calls [p] (s.m.calls ++ [.send p.task.taskid]) := by
      rw [htask]
      exact .one (Move.send hidle hbusy hfixed hretry) s.m.calls
    split
    · exact hsent.trans (turn_singleRespHandle (s.m.call (.send p.task.taskid)) p .kEctOK 0
        kTaskFailHandleNoError)
    · exact hsent

theorem startTurn_request (a : ReqAnswer) (s : Starts) (first : TaskProfile)
    {k : Starts → UInt32 → Starts × Option TaskProfile}
    (hk : ∀ s len, StartTurn env.now s first (k s len)) :
    StartTurn env.now s first (request env a s first k) := by
  have hcall : Did env.now [first] s.m.calls [first]
      (s.m.call (.req2Buf first.task.taskid)).calls := .call ..
  rw [request]
  dsimp only
  split
  · exact hcall.trans (turn_singleRespHandle ..)
  · exact hcall.trans (hk _ _)

theorem startTurn_connect (ans : LongLinkAnswer) (s : Starts) {first : TaskProfile}
    (hidle : first.running_id = 0) (len : UInt32) :
    StartTurn env.now s first (connect env ans s first len) := by
  rw [connect]
  split
  · split
    · exact turn_singleRespHandle ..
    · exact .refl ..
  · split
    · exact turn_singleRespHandle ..
    · split
      · exact startTurn_request _ s first fun s len => startTurn_transmit ans s hidle len
      · exact startTurn_transmit ans s hidle len

theorem startTurn_startOne (canretry : Bool) (s : Starts) (first : TaskProfile) :
    StartTurn env.now s first (startOne env answers canretry s first) := by
  rw [startOne]
  split
  · exact .refl ..
  · rename_i hidle
    have hidle : first.running_id = 0 := not_ne_iff.mp hidle
    split
    · exact .refl ..
    · split
      · exact .refl ..
      · split
        · have hchecked : Written first { first with antiavalanche_checked := true } :=
            ⟨rfl, rfl, rfl⟩
          exact startTurn_request _ s first fun s len =>
            (Did.write hchecked _).trans (startTurn_connect _ s (by exact hidle) len)
        · exact startTurn_connect _ s hidle 0

theorem did_runOnStartTask (m : LongLinkTaskManager) :
    To (Move env.now) m (m.runOnStartTask env answers) :=
  sweep_works (fun s : Starts => s.m.calls) (startTurn_startOne _) ⟨m, 0, 0⟩ m.lst_cmd_

theorem did_runLoop (m : LongLinkTaskManager) :
    To (Move env.now) m (m.runLoop env answers) := by
  rw [runLoop]
  split
  · exact .refl ..
  · exact (did_runOnTimeout m).trans (did_runOnStartTask _)

variable (env answers) in
theorem did_retryTasks (m : LongLinkTaskManager) (err_type : ErrCmdType)
    (err_code fail_handle : Int) (src_taskid : Nat) :
    To (Move env.now) m
      (m.retryTasks env answers err_type err_code fail_handle src_taskid) :=
  (did_batchErrorRespHandle ..).trans (did_runLoop _)

theorem did_onSend (m : LongLinkTaskManager) (taskid : Nat) :
    To (Move env.now) m (m.onSend env taskid) :=
  to_located (fun _ it => Did.write (written_sentAt it) _) m taskid

theorem did_onRecv (m : LongLinkTaskManager) (taskid : Nat) (cachedsize totalsize : UInt32) :
    To (Move env.now) m (m.onRecv env taskid cachedsize totalsize) :=
  to_located (fun _ it => Did.write (written_receivedAt it cachedsize totalsize) _) m taskid

variable (env answers) in
/-- `StartTask`, from the list with the new task in it on. -/
theorem did_startTask (m : LongLinkTaskManager) (task : Task) :
    Did env.now (pushAndSort m.lst_cmd_ (.ofTask env.now task)) m.calls
      (m.startTask env answers task).lst_cmd_ (m.startTask env answers task).calls := did_runLoop _

variable (env answers) in
/-- `RedoTasks`, from the list on in which no task is being sent. -/
theorem did_redoTasks (m : LongLinkTaskManager) :
    Did env.now (m.lst_cmd_.map .redo) m.calls (m.redoTasks env answers).lst_cmd_
      (m.redoTasks env answers).calls := did_runLoop _

theorem act_onResponse (m : LongLinkTaskManager) (error_type : ErrCmdType) (error_code : Int)
    (cmdid : UInt32) (taskid : Nat) (body_len : UInt32) (ans : RespAnswer) :
    To (Act env.now) m
      (m.onResponse env error_type error_code cmdid taskid body_len ans).1 := by
  have hsingle (m : LongLinkTaskManager) (err_type : ErrCmdType) :
      To (Act env.now) m (m.located taskid fun m it =>
        m.singleRespHandle env it err_type ans.err_code ans.handle_type) :=
    Did.act (to_located
      (fun m it => turn_singleRespHandle m it err_type ans.err_code ans.handle_type) m taskid)
  have hbatch (m : LongLinkTaskManager) (err_type : ErrCmdType) (err_code fail_handle : Int)
      (src_taskid : Nat) : To (Act env.now) m
        (m.batchErrorRespHandle env err_type err_code fail_handle src_taskid) :=
    Did.act (did_batchErrorRespHandle m err_type err_code fail_handle src_taskid)
  have hreceived : To (Act env.now) m (m.located taskid fun m it =>
      (m.call (.buf2Resp it.task.taskid), some (it.receivedAt env.now body_len body_len))) :=
    to_located (fun m it => answer_of_written (written_receivedAt it _ _) m.calls) m taskid
  rw [onResponse]
  split
  · exact .call ..
  · split
    · exact hbatch ..
    · split
      · exact .refl ..
      · split
        · exact .refl ..
        · dsimp only
          split
          · exact ((hreceived.trans (.call ..)).trans (hsingle _ .kEctOK)).trans (.call ..)
          · split
            · exact hreceived
            · split
              · exact hreceived.trans (hsingle _ .kEctEnDecode)
              · exact (hreceived.trans (hbatch ..)).trans (.call ..)

end

end LongLinkTaskManager

end MicroChat.Stn
