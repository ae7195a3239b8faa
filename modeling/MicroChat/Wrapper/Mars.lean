import MicroChat.Db.LoadDB
import MicroChat.Stn.Responses
import MicroChat.Wrapper.NetworkService

/-!
# Wrapper — Mars

The service and mars together: what the application starts is posted to mars, and mars calls the
service.

* `ctask`, `posted`: the tasks of mars the service starts.
* `Client`, `Client.Step`: the application, the service and mars, one call after another.
* `Client.Reachable.marsReachable`: mars calls the service the way `MarsReachable` says.
* `Client.Reachable.tasks_agree`: the service's tasks are those of mars.
* `Client.Reachable.reports_each`: the callback is called once about each task with a response.
-/

namespace MicroChat
open Support
open Stn (NetCore Output)

/-! ### Tasks of mars -/

def ChannelType_ShortConn : Int32 := 1
def ChannelType_LongConn : Int32 := 2

/-- The `channel_select_` a task of a class is made with. -/
def CGITask.channel_select_ : CGITask → Int32
  | .manualAuth _ _ | .newSync _ | .reportSyncKV => ChannelType_LongConn
  | .newInit _ | .searchContact _ | .getContact _ | .verifyUser _ _ | .bind _ _ | .newSend _ =>
      ChannelType_ShortConn

/-- The `cgi_` a task of a class is made with. -/
def CGITask.cgi_ : CGITask → Bytes
  | .manualAuth _ _ => ascii "/cgi-bin/micromsg-bin/manualauth"
  | .newInit _ => ascii "/cgi-bin/micromsg-bin/newinit"
  | .newSync _ => ascii "/cgi-bin/micromsg-bin/newsync"
  | .searchContact _ => ascii "/cgi-bin/micromsg-bin/searchcontact"
  | .getContact _ => ascii "/cgi-bin/micromsg-bin/getcontact"
  | .verifyUser _ _ => ascii "/cgi-bin/micromsg-bin/verifyuser"
  | .bind _ _ => ascii "/cgi-bin/micromsg-bin/bindopmobileforreg"
  | .newSend _ => ascii "/cgi-bin/micromsg-bin/newsendmsg"
  | .reportSyncKV => []

/-- The `bSendOnly` a task of a class is started with. -/
def CGITask.sendOnly : CGITask → Bool
  | .reportSyncKV => true
  | _ => false

/-- The task of mars `startTask` makes for a task. -/
def ctask (taskid : Nat) (task : Task) : Stn.Task :=
  { Stn.Task.ofId taskid with
    cmdid := task.cmdid_
    channel_select := task.impl.channel_select_
    cgi := task.impl.cgi_
    send_only := task.impl.sendOnly }

namespace NetworkService

/-- The tasks that have been started between two states of the service, as they are posted. -/
def posted (s s' : NetworkService) : List Stn.Task :=
  (List.range' s.gs_taskid (s'.gs_taskid - s.gs_taskid)).filterMap fun t =>
    (s'.map_task_ t).map (ctask t)

/-- `void NetworkService::OnPush(…)`: with a sync key, a push asks for a sync.  `none` where the
program is ended. -/
def onPush (env : CgiEnv) (s : NetworkService) (mem : Memory) : Option NetworkService :=
  let (db, key) := CMicroChatDB.getSyncKey env.sqlite s.state.db
  key.map fun strSyncKey =>
    let s := { s with state := { s.state with db } }
    if (hex2bin strSyncKey).length ≠ 0 then s.newSync mem else s

/-- What a call of mars gets from outside: the members `Req2Buf` leaves in the object, the response,
and the memory of a new task. -/
structure CallInput where
  impl : CGITask
  response : CgiInput
  mem : Memory

/-- A call of mars; a request that is handed to a link is none. -/
def serve (env : CgiEnv) (s : NetworkService) (i : CallInput) : Output → Option NetworkService
  | .req2Buf taskid => some (s.req2Buf taskid i.impl)
  | .buf2Resp taskid => s.buf2Resp env taskid i.response i.mem
  | .onTaskEnd taskid _ _ => some (s.onTaskEnd taskid i.mem)
  | .onPush _ => s.onPush env i.mem
  | .send _ => some s

/-! ### What a call does to the tasks -/

/-- Whether a task is registered, as a number. -/
def registered (s : NetworkService) (t : Nat) : Nat := if (s.map_task_ t).isSome then 1 else 0

/-- At most one task has been started, and no task has been taken out. -/
inductive Starts (s s' : NetworkService) : Prop where
  | none (hid : s'.gs_taskid = s.gs_taskid)
      (htasks : ∀ t, (s'.map_task_ t).isSome = (s.map_task_ t).isSome)
  | one (hid : s'.gs_taskid = s.gs_taskid + 1)
      (htasks : ∀ t, (s'.map_task_ t).isSome = (t == s.gs_taskid || (s.map_task_ t).isSome))

theorem isSome_update (s : NetworkService) (taskid : Nat) (o : Option Task) (t : Nat) :
    (Function.update s.map_task_ taskid o t).isSome =
      if t = taskid then o.isSome else (s.map_task_ t).isSome := by
  rw [Function.update_apply]
  split <;> rfl

theorem starts_startTask (s : NetworkService) (task : Task) : Starts s (s.startTask task) := by
  refine .one rfl fun t => ?_
  rw [startTask, isSome_update]
  by_cases he : t = s.gs_taskid <;> simp [he]

/-- Whatever is written beside the tasks. -/
theorem Starts.congr {s s₁ s₂ s' : NetworkService} (h : Starts s₁ s₂)
    (hid : s₁.gs_taskid = s.gs_taskid)
    (htasks : ∀ t, (s₁.map_task_ t).isSome = (s.map_task_ t).isSome)
    (hid' : s'.gs_taskid = s₂.gs_taskid) (htasks' : s'.map_task_ = s₂.map_task_) : Starts s s' := by
  cases h with
  | none hsame hmap =>
      exact .none (hid'.trans (hsame.trans hid)) fun t => by rw [htasks', hmap, htasks]
  | one hnext hmap =>
      exact .one (by rw [hid', hnext, hid]) fun t => by rw [htasks', hmap, htasks, hid]

theorem starts_newSync (s : NetworkService) (mem : Memory) : Starts s (s.newSync mem) := by
  rw [newSync, isSyncing]
  cases s.s_bSyncing with
  | true => exact .none rfl fun _ => rfl
  | false =>
      exact (starts_startTask { s with s_bSyncing := true }
        (createTask mem (.newSync {}))).congr rfl
        (fun _ => rfl) rfl rfl

theorem starts_req2Buf (s : NetworkService) (taskid : Nat) (impl : CGITask) :
    Starts s (s.req2Buf taskid impl) := by
  refine .none rfl fun t => ?_
  rw [req2Buf, isSome_update]
  by_cases he : t = taskid <;> simp [he]

theorem starts_buf2Resp {env : CgiEnv} {s s' : NetworkService} {taskid : Nat} {i : CgiInput}
    {mem : Memory} (h : s.buf2Resp env taskid i mem = some s') : Starts s s' := by
  cases ht : s.map_task_ taskid with
  | none =>
      rw [buf2Resp, ht] at h
      cases h
      exact .none rfl fun _ => rfl
  | some task =>
      obtain ⟨r, s₁, -, hs₁, rfl⟩ := buf2Resp_of_task ht h
      have hput (t : Nat) (o : Option Task) (ho : o.isSome = true) :
          (Function.update s.map_task_ taskid o t).isSome = (s.map_task_ t).isSome := by
        rw [isSome_update]
        by_cases he : t = taskid
        · rw [if_pos he, he, ht, ho]
          rfl
        · rw [if_neg he]
      rcases hs₁ with rfl | ⟨impl, rfl⟩
      · exact .none rfl fun t => hput t _ rfl
      · have hstart := starts_startTask { s with
            map_task_ := Function.update s.map_task_ taskid
              (some { task with impl := r.task, m_res := (r.res.map .result).getD task.m_res })
            state := r.state } (createTask mem impl)
        exact hstart.congr rfl (fun t => hput t _ rfl) rfl rfl

theorem starts_onPush {env : CgiEnv} {s s' : NetworkService} {mem : Memory}
    (h : s.onPush env mem = some s') : Starts s s' := by
  obtain ⟨hex, -, rfl⟩ := Option.map_eq_some_iff.mp h
  dsimp only
  split
  · have hsync := starts_newSync { s with
        state := { s.state with db := (CMicroChatDB.getSyncKey env.sqlite s.state.db).1 } } mem
    exact hsync.congr rfl (fun _ => rfl) rfl rfl
  · exact .none rfl fun _ => rfl

/-- The end of a task: it is taken out, and a sync may be started. -/
theorem starts_onTaskEnd (s : NetworkService) (taskid : Nat) (mem : Memory) :
    Starts { s with map_task_ := Function.update s.map_task_ taskid none }
      (s.onTaskEnd taskid mem) := by
  rw [onTaskEnd]
  dsimp only
  split
  · rw [isNeedReSync]
    cases s.s_bNeedReSync with
    | true =>
        exact (starts_startTask _ (createTask mem (.newSync {}))).congr rfl (fun _ => rfl) rfl rfl
    | false => exact .none rfl fun _ => rfl
  · exact .none rfl fun _ => rfl

/-- The task that has been started is posted. -/
theorem posted_one {s s' : NetworkService} (hid : s'.gs_taskid = s.gs_taskid + 1)
    (htasks : ∀ t, (s'.map_task_ t).isSome = (t == s.gs_taskid || (s.map_task_ t).isSome)) :
    ∃ task, s.posted s' = [ctask s.gs_taskid task] := by
  have hnew : (s'.map_task_ s.gs_taskid).isSome = true := by simp [htasks]
  obtain ⟨task, htask⟩ := Option.isSome_iff_exists.mp hnew
  refine ⟨task, ?_⟩
  rw [posted, hid, Nat.add_sub_cancel_left]
  simp [htask]

theorem posted_none {s s' : NetworkService} (hid : s'.gs_taskid = s.gs_taskid) :
    s.posted s' = [] := by
  rw [posted, hid, Nat.sub_self]
  rfl

/-- What is registered is posted. -/
theorem Starts.posted {s s' : NetworkService} (h : Starts s s')
    (hlt : ∀ t task, s.map_task_ t = some task → t < s.gs_taskid) (t : Nat) :
    s'.registered t = s.registered t + NetCore.postedOf t (s.posted s') := by
  cases h with
  | none hid htasks =>
      rw [registered, htasks, posted_none hid]
      rfl
  | one hid htasks =>
      obtain ⟨task, hposted⟩ := posted_one hid htasks
      have hpost : NetCore.postedOf t [ctask s.gs_taskid task] =
          if s.gs_taskid = t then 1 else 0 := rfl
      rw [hposted, hpost, registered, htasks, registered]
      by_cases he : t = s.gs_taskid
      · have hfree : (s.map_task_ s.gs_taskid).isSome = false := by
          by_contra hsome
          obtain ⟨task, htask⟩ := Option.isSome_iff_exists.mp (Bool.of_not_eq_false hsome)
          exact lt_irrefl _ (hlt _ _ htask)
        simp [he, hfree]
      · simp [he, Ne.symm he]

/-- A task that is posted is new. -/
theorem Starts.posted_of_lt {s s' : NetworkService} (h : Starts s s') {t : Nat}
    (ht : t < s.gs_taskid) : NetCore.postedOf t (s.posted s') = 0 := by
  cases h with
  | none hid _ =>
      rw [posted_none hid]
      rfl
  | one hid htasks =>
      obtain ⟨task, hposted⟩ := posted_one hid htasks
      rw [hposted]
      exact if_neg (Nat.ne_of_gt ht)

theorem registered_le_one (s : NetworkService) (t : Nat) : s.registered t ≤ 1 := by
  rw [registered]
  split <;> omega

theorem some_of_registered {s : NetworkService} {t : Nat} (h : s.registered t ≠ 0) :
    ∃ task, s.map_task_ t = some task := by
  rw [registered] at h
  split at h
  · exact Option.isSome_iff_exists.mp ‹_›
  · exact absurd rfl h

end NetworkService

/-! ### The client -/

/-- `answered` are the tasks that have had their `Buf2Resp`, `todo` are the calls the message that
mars is handling has still to make. -/
structure Client where
  service : NetworkService
  answered : Set Nat
  core : NetCore
  todo : List Output

inductive ClientEvent where
  /-- a function of `interface.cpp` other than `NewSync` -/
  | start (impl : CGITask) (mem : Memory)
  | newSync (mem : Memory)
  /-- whatever else writes to `CAuthInfo` or to the database -/
  | other (state : CgiState)
  /-- mars handles a message -/
  | message (a : Stn.Answers) (msg : NetCore.Message)
  /-- mars makes the next call of the message -/
  | call (i : NetworkService.CallInput)

/-- The messages mars gets in this client: it neither stops nor clears tasks, and its `Buf2Resp`
returns `kTaskFailHandleNoError` for every response. -/
def OfClient : NetCore.Message → Prop
  | .stopTask _ | .clearTasks => False
  | msg => msg.NoError

/-- The tasks an output brings a response to. -/
def answersOf : Output → Set Nat
  | .buf2Resp taskid => {taskid}
  | _ => ∅

namespace Client

/-- The service has gone on, and what it has started is posted. -/
def ran (c : Client) (service : NetworkService) : Client :=
  { c with
    service
    core := { c.core with starting := c.core.starting ++ c.service.posted service } }

/-- The call `o` has been made, and `todo` are left. -/
def called (c : Client) (o : Output) (todo : List Output) (service : NetworkService) : Client :=
  { c.ran service with answered := c.answered ∪ answersOf o, todo }

/-- The application may act between any two calls of mars; mars handles one message after
another. -/
inductive Step (env : CgiEnv) : Client → ClientEvent → Client → Prop where
  | start (c : Client) (impl : CGITask) (mem : Memory) :
      Step env c (.start impl mem) (c.ran (c.service.startTask (createTask mem impl)))
  | newSync (c : Client) (mem : Memory) :
      Step env c (.newSync mem) (c.ran (c.service.newSync mem))
  | other (c : Client) (state : CgiState) :
      Step env c (.other state) { c with service := { c.service with state } }
  | message {c : Client} {core : NetCore} {a : Stn.Answers} {msg : NetCore.Message}
      (hidle : c.todo = []) (hmsg : OfClient msg) (hcore : c.core.handle a msg = core) :
      Step env c (.message a msg) { c with core := core.flush, todo := core.out }
  | call {c : Client} {o : Output} {todo : List Output} {i : NetworkService.CallInput}
      {service : NetworkService} (htodo : c.todo = o :: todo)
      (hserve : c.service.serve env i o = some service) :
      Step env c (.call i) (c.called o todo service)

/-- Nothing has been started. -/
structure Initial (c : Client) : Prop where
  service : c.service.Started
  answered : c.answered = ∅
  rest : c.core.AtRest
  core : c.core.taskids = []
  out : c.core.out = []
  todo : c.todo = []

/-- The states of all runs. -/
def Reachable (env : CgiEnv) : Client → Prop := Support.Reachable Initial (Step env)

/-! ### The service and mars agree -/

/-- A registered task is in one of the lists of mars, once, or about to end, and no other task is;
the tasks of mars have had no response, and neither has the one mars is about to hand over. -/
structure Linked (c : Client) : Prop where
  rest : c.core.AtRest
  out : c.core.out = []
  registered : ∀ t, c.service.registered t = c.core.held t + NetCore.endedOf t c.todo
  answered : ∀ t ∈ c.answered, c.core.held t = 0
  answering : Stn.Answering c.todo
  fresh : ∀ t todo, c.todo = .buf2Resp t :: todo → t ∉ c.answered

section
variable {env : CgiEnv} {c : Client}

/-- The tasks of mars, with those that have been posted. -/
theorem held_posted (c : Client) (service : NetworkService) (t : Nat) :
    (c.ran service).core.held t =
      c.core.held t + NetCore.postedOf t (c.service.posted service) := by
  simp only [ran, NetCore.held, NetCore.postedOf_append]
  omega

/-- The service starts a task. -/
theorem Linked.ran (h : c.Linked) (hinv : c.service.Inv c.answered) {service : NetworkService}
    (hs : c.service.Starts service) : (c.ran service).Linked where
  rest := ⟨h.rest.long, h.rest.short⟩
  out := h.out
  registered t := by
    have hposted := hs.posted hinv.task_lt t
    rw [h.registered t] at hposted
    rw [held_posted, show (c.ran service).service = service from rfl, hposted,
      show (c.ran service).todo = c.todo from rfl]
    omega
  answered t ht := by
    rw [held_posted, h.answered t ht, hs.posted_of_lt (hinv.answered_lt t ht)]
  answering := h.answering
  fresh := h.fresh

/-- The end of the task a response is handed over for is yet to come. -/
theorem one_le_endedOf {t : Nat} {todo : List Output}
    (h : Stn.Answering (.buf2Resp t :: todo)) : 1 ≤ NetCore.endedOf t (.buf2Resp t :: todo) := by
  cases h with
  | silent hsilent => exact (hsilent _ List.mem_cons_self).elim
  | response _ err_code _ =>
      have hend : Output.endOf t (.onTaskEnd t .kEctOK err_code) = 1 := if_pos rfl
      simp only [NetCore.endedOf, List.map_cons, List.sum_cons, hend]
      omega

/-- mars handles a message. -/
theorem Linked.message (h : c.Linked) (hidle : c.todo = []) {a : Stn.Answers}
    {msg : NetCore.Message} (hmsg : OfClient msg) :
    ({ c with core := (c.core.handle a msg).flush, todo := (c.core.handle a msg).out }).Linked := by
  have hno : msg.NoError ∧ c.core.removedBy msg = [] := by
    cases msg with
    | stopTask | clearTasks => exact hmsg.elim
    | start | redo | longRunLoop | shortRunLoop | timerChecker | longSend | longRecv
    | longConnStatus
      | shortSend | shortRecv | networkReport => exact ⟨trivial, rfl⟩
    | longResponse | shortResponse => exact ⟨hmsg, rfl⟩
  have htotal (t : Nat) : (c.core.handle a msg).held t +
      NetCore.endedOf t (c.core.handle a msg).out = c.core.held t := by
    have htotal := NetCore.total_handle t a h.rest msg
    rw [hno.2, NetCore.total, NetCore.total, h.out] at htotal
    exact htotal
  have hanswering := NetCore.answering_handle a h.rest h.out hno.1
  refine ⟨(NetCore.atRest_handle a h.rest msg).flush, rfl, fun t => ?_, fun t ht => ?_, hanswering,
    fun t todo htodo ht => ?_⟩
  · have hreg := h.registered t
    rw [hidle] at hreg
    rw [hreg, ← htotal t]
    rfl
  · have hheld := htotal t
    rw [h.answered t ht] at hheld
    exact (Nat.add_eq_zero_iff.mp hheld).1
  · -- mars has had the task when it got the message
    have hheld := htotal t
    rw [h.answered t ht] at hheld
    dsimp only at htodo
    rw [htodo] at hheld hanswering
    have hend := one_le_endedOf hanswering
    omega

theorem silent_tail {o : Output} {todo : List Output} (h : Stn.Answering (o :: todo)) :
    ∀ o ∈ todo, o.Silent := by
  cases h with
  | silent h => exact fun o' ho' => h o' (List.mem_cons_of_mem o ho')
  | response taskid err_code h => exact List.forall_mem_cons.mpr ⟨trivial, h⟩

/-- A call that neither ends a task nor brings a response. -/
theorem Linked.tail (h : c.Linked) {o : Output} {todo : List Output} (htodo : c.todo = o :: todo)
    (hend : ∀ t, o.endOf t = 0) : ({ c with todo }).Linked where
  rest := h.rest
  out := h.out
  registered t := by
    have hreg := h.registered t
    rw [htodo, NetCore.endedOf, List.map_cons, List.sum_cons, hend, zero_add] at hreg
    exact hreg
  answered := h.answered
  answering := .silent (silent_tail (htodo ▸ h.answering))
  fresh t todo' htodo' := by
    have hsilent := silent_tail (htodo ▸ h.answering)
    dsimp only at htodo'
    rw [htodo'] at hsilent
    exact (hsilent _ List.mem_cons_self).elim

/-- The task mars is about to hand over a response for: it is registered, is in none of the lists of
mars any more, and has had no response. -/
theorem Linked.of_buf2Resp (h : c.Linked) {t : Nat} {todo : List Output}
    (htodo : c.todo = .buf2Resp t :: todo) :
    t ∉ c.answered ∧ c.core.held t = 0 ∧ ∃ task, c.service.map_task_ t = some task := by
  have hanswering := h.answering
  have hreg := h.registered t
  have hone := c.service.registered_le_one t
  rw [htodo] at hanswering hreg
  have hend := one_le_endedOf hanswering
  exact ⟨h.fresh t todo htodo, by omega, NetworkService.some_of_registered (by omega)⟩

/-- The service reads a response. -/
theorem Linked.buf2Resp (h : c.Linked) (hinv : c.service.Inv c.answered) {t : Nat}
    {todo : List Output} (htodo : c.todo = .buf2Resp t :: todo) {service : NetworkService}
    (hs : c.service.Starts service) :
    ({ c.ran service with answered := c.answered ∪ {t}, todo }).Linked := by
  obtain ⟨-, hheld, task, htask⟩ := h.of_buf2Resp htodo
  have htail : ({ c.ran service with todo }).Linked :=
    (h.ran hinv hs).tail (o := .buf2Resp t) htodo fun _ => rfl
  refine ⟨htail.rest, htail.out, htail.registered, fun t' ht' => ?_, htail.answering,
    fun t' todo' htodo' => ?_⟩
  · rcases ht' with ht' | rfl
    · exact htail.answered t' ht'
    · have hnew := hs.posted_of_lt (hinv.task_lt t' task htask)
      have hran := held_posted c service t'
      rw [hheld, hnew] at hran
      exact hran
  · have hsilent := silent_tail (htodo ▸ h.answering)
    dsimp only at htodo'
    rw [htodo'] at hsilent
    exact (hsilent _ List.mem_cons_self).elim

/-- A task ends. -/
theorem Linked.onTaskEnd (h : c.Linked) (hinv : c.service.Inv c.answered) {t : Nat}
    {error_type : Stn.ErrCmdType} {error_code : Int} {todo : List Output}
    (htodo : c.todo = .onTaskEnd t error_type error_code :: todo) (mem : Memory) :
    ({ c.ran (c.service.onTaskEnd t mem) with todo }).Linked := by
  have hout : ({ c with
      service := { c.service with map_task_ := Function.update c.service.map_task_ t none }
      todo } : Client).Linked := by
    have hsilent := silent_tail (htodo ▸ h.answering)
    refine ⟨h.rest, h.out, fun t' => ?_, h.answered, .silent hsilent, fun t' todo' htodo' => ?_⟩
    · have hreg := h.registered t'
      have hone := c.service.registered_le_one t'
      rw [htodo, NetCore.endedOf, List.map_cons, List.sum_cons, Output.endOf] at hreg
      rw [NetworkService.registered, NetworkService.isSome_update]
      by_cases he : t' = t
      · rw [if_pos he.symm] at hreg
        rw [if_pos he, NetCore.endedOf]
        simp only [Option.isSome_none, Bool.false_eq_true, if_false]
        omega
      · rw [if_neg (Ne.symm he), zero_add] at hreg
        rw [if_neg he]
        exact hreg
    · dsimp only at htodo'
      rw [htodo'] at hsilent
      exact (hsilent _ List.mem_cons_self).elim
  have hinvOut : ({ c.service with
      map_task_ := Function.update c.service.map_task_ t none } : NetworkService).Inv c.answered :=
    hinv.of_tasks rfl rfl rfl fun t' task ht => ⟨task, (of_erase_eq_some ht).2, rfl⟩
  exact hout.ran hinvOut (c.service.starts_onTaskEnd t mem)

/-- The service and mars: each runs as it should, and they agree. -/
structure Inv (env : CgiEnv) (c : Client) : Prop where
  service : NetworkService.MarsReachable env (c.service, c.answered)
  linked : c.Linked

/-- A step of the service that is no response. -/
theorem marsReachable_of_step {s s' : NetworkService} {answered : Set Nat}
    {e : NetworkService.Event} (h : NetworkService.MarsReachable env (s, answered))
    (hs : NetworkService.step env s e = some s') (he : e.answers = ∅) :
    NetworkService.MarsReachable env (s', answered) := by
  refine Support.Reachable.next (e := e) h ⟨hs, ?_, ?_⟩
  · rw [he, Set.union_empty]
  · rw [he]
    exact fun t ht => absurd ht (Set.notMem_empty t)

/-- The service is called, for a task that has not just had its response. -/
theorem Inv.serve (h : c.Inv env) {o : Output} {todo : List Output} (htodo : c.todo = o :: todo)
    {service : NetworkService} (hend : ∀ t, o.endOf t = 0) (hno : answersOf o = ∅)
    (hs : c.service.Starts service)
    (hr : NetworkService.MarsReachable env (service, c.answered)) :
    (c.called o todo service).Inv env := by
  rw [called, hno, Set.union_empty]
  exact ⟨hr, (h.linked.ran h.service.inv hs).tail htodo hend⟩

/-- The next call of mars. -/
theorem Inv.call (h : c.Inv env) {o : Output} {todo : List Output} (htodo : c.todo = o :: todo)
    {i : NetworkService.CallInput} {service : NetworkService}
    (hserve : c.service.serve env i o = some service) :
    (c.called o todo service).Inv env := by
  cases o with
  | req2Buf taskid =>
      cases hserve
      exact h.serve htodo (fun _ => rfl) rfl (NetworkService.starts_req2Buf ..)
        (marsReachable_of_step (e := .req2Buf taskid i.impl) h.service rfl rfl)
  | buf2Resp taskid =>
      obtain ⟨hfresh, -, htask⟩ := h.linked.of_buf2Resp htodo
      refine ⟨.next (e := .buf2Resp taskid i.response i.mem) h.service
        ⟨hserve, rfl, fun t ht => ?_⟩,
        h.linked.buf2Resp h.service.inv htodo (NetworkService.starts_buf2Resp hserve)⟩
      cases ht
      exact ⟨hfresh, htask⟩
  | onTaskEnd taskid error_type error_code =>
      cases hserve
      rw [called, show answersOf (.onTaskEnd taskid error_type error_code) = ∅ from rfl,
        Set.union_empty]
      exact ⟨marsReachable_of_step (e := .onTaskEnd taskid i.mem) h.service rfl rfl,
        h.linked.onTaskEnd h.service.inv htodo i.mem⟩
  | onPush cmdid =>
      refine h.serve htodo (fun _ => rfl) rfl (NetworkService.starts_onPush hserve) ?_
      obtain ⟨hex, -, rfl⟩ := Option.map_eq_some_iff.mp hserve
      have hread := marsReachable_of_step (e := .other { c.service.state with
        db := (CMicroChatDB.getSyncKey env.sqlite c.service.state.db).1 }) h.service rfl rfl
      dsimp only
      split
      · exact marsReachable_of_step (e := .newSync i.mem) hread rfl rfl
      · exact hread
  | send taskid =>
      cases hserve
      exact h.serve htodo (fun _ => rfl) rfl (.none rfl fun _ => rfl) h.service

/-- **One step** keeps the two in agreement. -/
theorem Inv.step {c' : Client} {e : ClientEvent} (h : c.Inv env) (hs : c.Step env e c') :
    c'.Inv env := by
  cases hs with
  | start impl mem =>
      exact ⟨marsReachable_of_step (e := .start impl mem) h.service rfl rfl,
        h.linked.ran h.service.inv (NetworkService.starts_startTask ..)⟩
  | newSync mem =>
      exact ⟨marsReachable_of_step (e := .newSync mem) h.service rfl rfl,
        h.linked.ran h.service.inv (NetworkService.starts_newSync ..)⟩
  | other state =>
      exact ⟨marsReachable_of_step (e := .other state) h.service rfl rfl,
        h.linked.rest, h.linked.out, h.linked.registered, h.linked.answered, h.linked.answering,
        h.linked.fresh⟩
  | message hidle hmsg hcore =>
      cases hcore
      exact ⟨h.service, h.linked.message hidle hmsg⟩
  | call htodo hserve => exact h.call htodo hserve

theorem Initial.inv (h : c.Initial) : c.Inv env := by
  have hheld (t : Nat) : c.core.held t = 0 := by
    rw [← NetCore.count_taskids, h.core]
    rfl
  refine ⟨.start ⟨h.service, h.answered⟩, h.rest, h.out, fun t => ?_, fun t _ => hheld t, ?_, ?_⟩
  · rw [hheld, h.todo, NetworkService.registered, h.service.2.2 t]
    rfl
  · rw [h.todo]
    exact .silent (List.forall_mem_nil _)
  · rw [h.todo]
    exact fun _ _ hnil => absurd hnil.symm (List.cons_ne_nil _ _)

theorem Reachable.inv (h : Reachable env c) : c.Inv env :=
  Support.Reachable.invariant (Inv env) (fun _ hc => hc.inv) (fun _ _ _ hc hs => hc.step hs) h

end

/-! ### A run -/

/-- The client before its first task. -/
def idle : Client := ⟨NetworkService.idle, ∅, .idle, []⟩

/-- A sync has been started. -/
def started : Client :=
  idle.ran (idle.service.startTask (createTask ⟨1, 0, false⟩ (.newSync {})))

/-- Its task is on its way. -/
def sending : Client :=
  let core := started.core.handle Stn.plainAnswers .start
  { started with core := core.flush, todo := core.out }

/-- The calls of that message have been made. -/
def sent : Client :=
  (sending.called (.req2Buf 1) [.send 1] (sending.service.req2Buf 1 (.newSync {}))).called (.send 1)
    [] (sending.service.req2Buf 1 (.newSync {}))

/-- A response has come. -/
def received : Client :=
  let core := sent.core.handle Stn.plainAnswers
    (.longResponse .kEctOK 0 1000000121 1 10 ⟨Stn.kTaskFailHandleNoError, 0⟩)
  { sent with core := core.flush, todo := core.out }

theorem todo_sending : sending.todo = [.req2Buf 1, .send 1] := by decide +kernel

theorem todo_received : received.todo = [.buf2Resp 1, .onTaskEnd 1 .kEctOK 0] := by decide +kernel

theorem reachable_sent : Reachable plainCgiEnv sent := by
  have hidle : Reachable plainCgiEnv idle :=
    .start ⟨⟨rfl, rfl, fun _ => rfl⟩, rfl, ⟨rfl, rfl⟩, rfl, rfl, rfl⟩
  have hstarted : Reachable plainCgiEnv started :=
    hidle.next (.start idle (.newSync {}) ⟨1, 0, false⟩)
  have hsending : Reachable plainCgiEnv sending :=
    hstarted.next (@Step.message _ _ _ Stn.plainAnswers .start rfl trivial rfl)
  exact (hsending.next (.call (i := ⟨.newSync {}, headerOnly, .zeroed⟩) todo_sending rfl)).next
    (.call (i := ⟨.newSync {}, headerOnly, .zeroed⟩) rfl rfl)

theorem reachable_received : Reachable plainCgiEnv received :=
  reachable_sent.next (@Step.message _ _ _ Stn.plainAnswers
    (.longResponse .kEctOK 0 1000000121 1 10 ⟨Stn.kTaskFailHandleNoError, 0⟩) rfl rfl rfl)

/-- The response has been read. -/
theorem reachable_answered : ∃ c, Reachable plainCgiEnv c ∧ 1 ∈ c.answered := by
  have hread : (received.service.buf2Resp plainCgiEnv 1 headerOnly .zeroed).isSome = true := by
    decide +kernel
  obtain ⟨service, hservice⟩ := Option.isSome_iff_exists.mp hread
  exact ⟨_, reachable_received.next
    (.call (i := ⟨.newSync {}, headerOnly, .zeroed⟩) todo_received hservice), .inr rfl⟩

/-! ### Results -/

/-- **mars calls the service as it is taken to.**  In every run of the client the service gets at
most one response for a task, and only while the task is started: the service is in a state of its
own runs. -/
theorem Reachable.marsReachable {env : CgiEnv} {c : Client} (h : Reachable env c) :
    NetworkService.MarsReachable env (c.service, c.answered) := h.inv.service

theorem marsReachable_answered : ∃ c : Client, 1 ∈ c.answered ∧
    NetworkService.MarsReachable plainCgiEnv (c.service, c.answered) := by
  obtain ⟨c, hc, hans⟩ := reachable_answered
  exact ⟨c, hans, Reachable.marsReachable hc⟩

/-- **The tasks of the service are those of mars.**  In every state of every run, a task that is
registered is in the lists of mars or its end is yet to be called, once and not both; any other
task is in neither, and no task that has had its response is in the lists of mars. -/
theorem Reachable.tasks_agree {env : CgiEnv} {c : Client} (h : Reachable env c) (t : Nat) :
    c.core.taskids.count t + (Stn.endedIn c.todo).count t =
        (if (c.service.map_task_ t).isSome then 1 else 0) ∧
      (t ∈ c.answered → t ∉ c.core.taskids) := by
  rw [NetCore.count_taskids, Stn.count_endedIn]
  refine ⟨(h.inv.linked.registered t).symm, fun ht => ?_⟩
  rw [← List.count_eq_zero, NetCore.count_taskids]
  exact h.inv.linked.answered t ht

theorem tasks_agree_received : received.core.taskids.count 1 + (Stn.endedIn received.todo).count 1 =
      (if (received.service.map_task_ 1).isSome then 1 else 0) ∧
    (1 ∈ received.answered → 1 ∉ received.core.taskids) :=
  Reachable.tasks_agree reachable_received 1

end Client

namespace NetworkService
variable {env : CgiEnv}

/-- Only a response calls the callback. -/
theorem called_of_step {s s' : NetworkService} {e : Event} (h : step env s e = some s')
    (he : e.answers = ∅) : s'.called = s.called := by
  cases e with
  | start | req2Buf | other =>
      cases h
      rfl
  | newSync mem =>
      cases h
      rw [newSync, isSyncing]
      cases s.s_bSyncing <;> rfl
  | buf2Resp taskid i mem => exact absurd he (Set.singleton_ne_empty taskid)
  | onTaskEnd taskid mem =>
      cases h
      rw [onTaskEnd]
      dsimp only
      split
      · rw [isNeedReSync]
        cases s.s_bNeedReSync <;> rfl
      · rfl

/-- The tasks that have had a response have been reported once, those that have ended since as
well. -/
theorem MarsReachable.callsAbout_answered {c : NetworkService × Set Nat} (h : MarsReachable env c)
    {t : Nat} (ht : t ∈ c.2) : (c.1.callsAbout t).length = 1 := by
  have hall : NetworkService.Inv c.1 c.2 ∧ ∀ t ∈ c.2, (c.1.callsAbout t).length = 1 := by
    clear ht
    induction h with
    | start hc =>
        refine ⟨@MarsReachable.inv env _ (.start hc), fun t ht => ?_⟩
        rw [hc.2] at ht
        exact absurd ht (Set.notMem_empty t)
    | @next c c' e hr hs ih =>
        obtain ⟨hinv, hone⟩ := ih
        refine ⟨hinv.step hs, fun t ht => ?_⟩
        obtain ⟨s, answered⟩ := c
        obtain ⟨s', answered'⟩ := c'
        obtain ⟨hstep, rfl, hmars⟩ := hs
        dsimp only at hinv hone hstep hmars ht ⊢
        by_cases he : e.answers = ∅
        · rw [callsAbout, called_of_step hstep he]
          rw [he, Set.union_empty] at ht
          exact hone t ht
        · obtain ⟨taskid, i, mem, rfl⟩ : ∃ taskid i mem, e = .buf2Resp taskid i mem := by
            cases e with
            | buf2Resp taskid i mem => exact ⟨taskid, i, mem, rfl⟩
            | start | newSync | req2Buf | onTaskEnd | other => exact absurd rfl he
          obtain ⟨hfresh, task, htask⟩ := hmars taskid rfl
          obtain ⟨r, -, hcalled⟩ := called_buf2Resp hinv.registered htask hstep
          rw [callsAbout, hcalled, List.filter_append]
          rcases ht with ht | rfl
          · have hne : taskid ≠ t := fun heq => hfresh (heq ▸ ht)
            have hold := hone t ht
            rw [callsAbout] at hold
            simp [hold, hne]
          · have hold := hinv.silent t hfresh
            rw [callsAbout] at hold
            simp [hold]
  exact hall.2 t ht

end NetworkService

/-- **Each response is reported once.**  In every run of the client, whatever the links, the timers
and the application do, the callback has been called once about a task that has had its response,
and never about any other. -/
theorem Client.Reachable.reports_each {env : CgiEnv} {c : Client} (h : Reachable env c) (t : Nat) :
    (t ∈ c.answered → (c.service.callsAbout t).length = 1) ∧
      (t ∉ c.answered → c.service.callsAbout t = []) :=
  ⟨fun ht => h.inv.service.callsAbout_answered ht, h.inv.service.inv.silent t⟩

theorem Client.reports_each_answered : ∃ c : Client, 1 ∈ c.answered ∧
    (c.service.callsAbout 1).length = 1 := by
  obtain ⟨c, hc, hans⟩ := reachable_answered
  exact ⟨c, hans, (Reachable.reports_each hc 1).1 hans⟩

end MicroChat
