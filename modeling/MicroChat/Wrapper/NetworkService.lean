import Mathlib.Data.Set.Insert
import Mathlib.Logic.Function.Basic
import MicroChat.Business.Tasks
import MicroChat.Support.Runs

/-!
# Wrapper — NetworkService

The service between the tasks and mars: which tasks are started, what mars calls, and what the
registered callback is told.

* `Task`, `createTask`: a task object, with the members nothing initialises.
* `NetworkService`, `Event`, `step`: the service.
* `MarsReachable`: the states of its runs, as mars calls it.
* `reportedOnce_iff`: which tasks have been reported, once and under their own id, when they end.
-/

namespace MicroChat
open Support

/-! ### Task objects -/

/-- What the memory of a new object holds; of the pointer only whether it is null. -/
structure Memory where
  taskid_ : Nat
  cgitype_ : UInt32
  m_resIsNull : Bool

/-- Memory that is all zero. -/
def Memory.zeroed : Memory := ⟨0, 0, true⟩

/-- The value of a `void *m_res`: `wild` is one that nothing has been assigned to, and not null. -/
inductive ResPtr where
  | null
  | wild
  | result (res : CgiResult)

/-- An object of a class over `CGITask`. -/
structure Task where
  taskid_ : Nat
  cmdid_ : UInt32
  cgitype_ : UInt32
  m_res : ResPtr
  impl : CGITask

/-- The `cmdid_` a task of a class is made with. -/
def CGITask.cmdid_ : CGITask → UInt32
  | .manualAuth _ _ => 253
  | .newInit _ => 139
  | .newSync _ => 121
  | .searchContact _ => 106
  | .getContact _ => 182
  | .verifyUser _ _ => 30
  | .bind _ _ => 145
  | .newSend _ => 522
  | .reportSyncKV => 1000000190

/-- The `cgitype_` a task of a class is made with, `none` where it is left as it is. -/
def CGITask.cgitype_ : CGITask → Option UInt32
  | .manualAuth _ _ => some 701
  | .newInit _ => some 139
  | .newSync _ => some 138
  | .searchContact _ => some 106
  | .getContact _ => some 182
  | .verifyUser _ _ => some 30
  | .bind _ _ => some 145
  | .newSend _ | .reportSyncKV => none

/-- A task as the client makes it: `CGITask` has no constructor, and nothing sets `taskid_` or
`m_res`. -/
def createTask (mem : Memory) (impl : CGITask) : Task where
  taskid_ := mem.taskid_
  cmdid_ := impl.cmdid_
  cgitype_ := impl.cgitype_.getD mem.cgitype_
  m_res := if mem.m_resIsNull then .null else .wild
  impl

/-! ### The service -/

/-- One call of the callback.  `origin` is the id of the task it is about, as mars has it. -/
structure Notice where
  origin : Nat
  result : ResPtr
  nCgiType : UInt32
  nTaskId : Nat
  nCode : Int

/-- The started tasks by their ids, whether a callback is registered and its calls so far, the
flags of `NewSyncCGITask`, and what the tasks work on.  `gs_taskid` is the next id mars gives. -/
structure NetworkService where
  gs_taskid : Nat
  map_task_ : Nat → Option Task
  m_cgiCallBack : Bool
  called : List Notice
  s_bSyncing : Bool
  s_bNeedReSync : Bool
  state : CgiState

namespace NetworkService

/-- `int NetworkService::startTask(CGITask* task, bool bSendOnly)`. -/
def startTask (s : NetworkService) (task : Task) : NetworkService :=
  { s with
    gs_taskid := s.gs_taskid + 1
    map_task_ := Function.update s.map_task_ s.gs_taskid (some task) }

/-- `void NetworkService::DoCallBack(…)`, for the task with the id `origin`. -/
def doCallBack (s : NetworkService) (origin : Nat) (result : ResPtr) (nCgiType : UInt32)
    (nTaskId : Nat) (nCode : Int) : NetworkService :=
  { s with
    called := s.called ++ if s.m_cgiCallBack then [⟨origin, result, nCgiType, nTaskId, nCode⟩]
      else [] }

/-- `bool NetworkService::Req2Buf(…)`: what it changes of the object are the members of its
class. -/
def req2Buf (s : NetworkService) (taskid : Nat) (impl : CGITask) : NetworkService :=
  { s with
    map_task_ := Function.update s.map_task_ taskid
      ((s.map_task_ taskid).map fun pTask => { pTask with impl }) }

/-- `int NetworkService::Buf2Resp(…)`; `mem` is the memory of the task the object's `Buf2Resp`
starts, if it does. -/
def buf2Resp (env : CgiEnv) (s : NetworkService) (taskid : Nat) (i : CgiInput) (mem : Memory) :
    Option NetworkService :=
  match s.map_task_ taskid with
  | none => some s
  | some pTask => (pTask.impl.buf2Resp env s.state i).map fun r =>
      let pTask := { pTask with impl := r.task, m_res := (r.res.map .result).getD pTask.m_res }
      let s := { s with
        map_task_ := Function.update s.map_task_ taskid (some pTask)
        state := r.state }
      let s := match r.started with
        | some impl => s.startTask (createTask mem impl)
        | none => s
      s.doCallBack taskid pTask.m_res pTask.cgitype_ pTask.taskid_ r.errorCode

/-- `bool NewSyncCGITask::IsSyncing()`. -/
def isSyncing (s : NetworkService) : Bool × NetworkService :=
  if s.s_bSyncing then (true, { s with s_bNeedReSync := true })
  else (false, { s with s_bSyncing := true })

/-- `bool NewSyncCGITask::IsNeedReSync()`. -/
def isNeedReSync (s : NetworkService) : Bool × NetworkService :=
  if s.s_bNeedReSync then (true, { s with s_bSyncing := true, s_bNeedReSync := false })
  else (false, { s with s_bSyncing := false, s_bNeedReSync := false })

/-- `void NewSync()`. -/
def newSync (s : NetworkService) (mem : Memory) : NetworkService :=
  let (bRet, s) := s.isSyncing
  if !bRet then s.startTask (createTask mem (.newSync {})) else s

/-- `int NetworkService::OnTaskEnd(…)`; the error it is given is not looked at. -/
def onTaskEnd (s : NetworkService) (taskid : Nat) (mem : Memory) : NetworkService :=
  let cmdid := ((s.map_task_ taskid).map Task.cmdid_).getD 0
  let s := { s with map_task_ := Function.update s.map_task_ taskid none }
  if 1000000190 = cmdid then
    let (bRet, s) := s.isNeedReSync
    if bRet then s.startTask (createTask mem (.newSync {})) else s
  else s

/-! ### Runs -/

/-- What happens to the service. -/
inductive Event where
  /-- a function of `interface.cpp` other than `NewSync` -/
  | start (impl : CGITask) (mem : Memory)
  | newSync (mem : Memory)
  | req2Buf (taskid : Nat) (impl : CGITask)
  | buf2Resp (taskid : Nat) (i : CgiInput) (mem : Memory)
  | onTaskEnd (taskid : Nat) (mem : Memory)
  /-- whatever else writes to `CAuthInfo` or to the database -/
  | other (state : CgiState)

/-- `none` where the program is ended. -/
def step (env : CgiEnv) (s : NetworkService) : Event → Option NetworkService
  | .start impl mem => some (s.startTask (createTask mem impl))
  | .newSync mem => some (s.newSync mem)
  | .req2Buf taskid impl => some (s.req2Buf taskid impl)
  | .buf2Resp taskid i mem => s.buf2Resp env taskid i mem
  | .onTaskEnd taskid mem => some (s.onTaskEnd taskid mem)
  | .other state => some { s with state }

/-- A callback is registered, and no task has been started. -/
def Started (s : NetworkService) : Prop :=
  s.m_cgiCallBack = true ∧ s.called = [] ∧ ∀ taskid, s.map_task_ taskid = none

/-- The tasks an event brings a response to. -/
def Event.answers : Event → Set Nat
  | .buf2Resp taskid _ _ => {taskid}
  | _ => ∅

/-- A step of the service and of the set of tasks that have had their `Buf2Resp`, as mars takes
it: one `Buf2Resp` for a task at most, and only while it is started. -/
def MarsStep (env : CgiEnv) (c : NetworkService × Set Nat) (e : Event)
    (c' : NetworkService × Set Nat) : Prop :=
  step env c.1 e = some c'.1 ∧ c'.2 = c.2 ∪ e.answers ∧
    ∀ t ∈ e.answers, t ∉ c.2 ∧ ∃ task, c.1.map_task_ t = some task

/-- The states of the runs, with the tasks that have had their `Buf2Resp`. -/
def MarsReachable (env : CgiEnv) : NetworkService × Set Nat → Prop :=
  Reachable (fun c => Started c.1 ∧ c.2 = ∅) (MarsStep env)

/-- The calls of the callback about a task. -/
def callsAbout (s : NetworkService) (taskid : Nat) : List Notice :=
  s.called.filter fun n => n.origin == taskid

/-- The callback has been called once about the task, with the id of the task. -/
def ReportedOnce (s : NetworkService) (taskid : Nat) : Prop :=
  ∃ n, s.callsAbout taskid = [n] ∧ n.nTaskId = taskid

/-! ### The invariant -/

/-- Ids not yet given are not in use; a task that has had its `Buf2Resp` has been reported once,
under the id its object holds, and no other task has. -/
structure Inv (s : NetworkService) (answered : Set Nat) : Prop where
  registered : s.m_cgiCallBack = true
  task_lt : ∀ t task, s.map_task_ t = some task → t < s.gs_taskid
  answered_lt : ∀ t ∈ answered, t < s.gs_taskid
  silent : ∀ t, t ∉ answered → s.callsAbout t = []
  reported : ∀ t task, s.map_task_ t = some task → t ∈ answered →
    ∃ n, s.callsAbout t = [n] ∧ n.nTaskId = task.taskid_

section
variable {env : CgiEnv} {s : NetworkService} {answered : Set Nat}

/-- A task with a new id. -/
theorem Inv.startTask (h : Inv s answered) (task : Task) : Inv (s.startTask task) answered where
  registered := h.registered
  task_lt t task' ht := by
    rcases of_update_eq_some ht with ⟨rfl, -⟩ | ⟨-, ht⟩
    · exact Nat.lt_succ_self _
    · exact (h.task_lt t task' ht).trans (Nat.lt_succ_self _)
  answered_lt t ht := (h.answered_lt t ht).trans (Nat.lt_succ_self _)
  silent := h.silent
  reported t task' ht hans :=
    h.reported t task'
      ((Function.update_of_ne (Nat.ne_of_lt (h.answered_lt t hans)) ..).symm.trans ht) hans

/-- Tasks that are taken out, or get other members than their id. -/
theorem Inv.of_tasks (h : Inv s answered) {s' : NetworkService}
    (hreg : s'.m_cgiCallBack = s.m_cgiCallBack) (hid : s'.gs_taskid = s.gs_taskid)
    (hcalled : s'.called = s.called)
    (htasks : ∀ t task', s'.map_task_ t = some task' →
      ∃ task, s.map_task_ t = some task ∧ task'.taskid_ = task.taskid_) : Inv s' answered where
  registered := hreg.trans h.registered
  task_lt t task' ht := by
    obtain ⟨task, ht, -⟩ := htasks t task' ht
    rw [hid]
    exact h.task_lt t task ht
  answered_lt t ht := by
    rw [hid]
    exact h.answered_lt t ht
  silent t ht := by
    rw [callsAbout, hcalled]
    exact h.silent t ht
  reported t task' ht hans := by
    obtain ⟨task, ht, heq⟩ := htasks t task' ht
    rw [callsAbout, hcalled, heq]
    exact h.reported t task ht hans

theorem called_doCallBack (hreg : s.m_cgiCallBack = true) (origin : Nat)
    (result : ResPtr) (nCgiType : UInt32) (nTaskId : Nat) (nCode : Int) :
    (s.doCallBack origin result nCgiType nTaskId nCode).called =
      s.called ++ [⟨origin, result, nCgiType, nTaskId, nCode⟩] := by
  rw [doCallBack]
  dsimp only
  rw [if_pos hreg]

/-- What a call of the callback adds for each task. -/
theorem callsAbout_doCallBack (hreg : s.m_cgiCallBack = true) (origin : Nat)
    (result : ResPtr) (nCgiType : UInt32) (nTaskId : Nat) (nCode : Int) (t : Nat) :
    (s.doCallBack origin result nCgiType nTaskId nCode).callsAbout t =
      s.callsAbout t ++
        if origin = t then [⟨origin, result, nCgiType, nTaskId, nCode⟩] else [] := by
  rw [callsAbout, called_doCallBack hreg, List.filter_append, callsAbout]
  by_cases he : origin = t <;> simp [he]

/-- The callback about a task that has had no response yet. -/
theorem Inv.doCallBack (h : Inv s answered) {t : Nat} {task : Task}
    (ht : s.map_task_ t = some task) (hna : t ∉ answered) (result : ResPtr)
    (nCgiType : UInt32) (nCode : Int) :
    Inv (s.doCallBack t result nCgiType task.taskid_ nCode) (answered ∪ {t}) where
  registered := h.registered
  task_lt := h.task_lt
  answered_lt t' ht' := by
    rcases ht' with ht' | rfl
    · exact h.answered_lt t' ht'
    · exact h.task_lt t' task ht
  silent t' ht' := by
    rw [Set.mem_union, not_or] at ht'
    rw [callsAbout_doCallBack h.registered, h.silent t' ht'.1, if_neg fun he => ht'.2 he.symm]
    rfl
  reported t' task' htask' hans := by
    rw [callsAbout_doCallBack h.registered]
    by_cases he : t = t'
    · subst he
      cases ht.symm.trans htask'
      rw [h.silent t hna, if_pos rfl]
      exact ⟨_, rfl, rfl⟩
    · rw [if_neg he, List.append_nil]
      exact h.reported t' task' htask' (hans.resolve_right fun hmem => he hmem.symm)

/-- What the response to a started task does: new members for the object, maybe a new task, and
the callback. -/
theorem buf2Resp_of_task {s' : NetworkService} {t : Nat} {task : Task} {i : CgiInput}
    {mem : Memory} (ht : s.map_task_ t = some task) (h : s.buf2Resp env t i mem = some s') :
    ∃ r s₁, task.impl.buf2Resp env s.state i = some r ∧
      let task' := { task with impl := r.task, m_res := (r.res.map .result).getD task.m_res }
      (s₁ = { s with
          map_task_ := Function.update s.map_task_ t (some task')
          state := r.state } ∨
        ∃ impl, s₁ = ({ s with
          map_task_ := Function.update s.map_task_ t (some task')
          state := r.state } : NetworkService).startTask (createTask mem impl)) ∧
      s' = s₁.doCallBack t task'.m_res task'.cgitype_ task'.taskid_ r.errorCode := by
  rw [buf2Resp, ht] at h
  obtain ⟨r, hr, rfl⟩ := Option.map_eq_some_iff.mp h
  refine ⟨r, _, hr, ?_, rfl⟩
  cases r.started with
  | none => exact .inl rfl
  | some impl => exact .inr ⟨impl, rfl⟩

/-- What the callback is told of the response to a started task. -/
theorem called_buf2Resp (hreg : s.m_cgiCallBack = true) {s' : NetworkService} {t : Nat}
    {task : Task} {i : CgiInput} {mem : Memory} (ht : s.map_task_ t = some task)
    (h : s.buf2Resp env t i mem = some s') :
    ∃ r, task.impl.buf2Resp env s.state i = some r ∧
      s'.called = s.called ++
        [⟨t, (r.res.map .result).getD task.m_res, task.cgitype_, task.taskid_, r.errorCode⟩] := by
  obtain ⟨r, s₁, hr, hs₁, rfl⟩ := buf2Resp_of_task ht h
  rcases hs₁ with rfl | ⟨impl, rfl⟩ <;> exact ⟨r, hr, called_doCallBack hreg ..⟩

/-- A response to a task that has had none. -/
theorem Inv.buf2Resp (h : Inv s answered) {s' : NetworkService} {t : Nat} {task : Task}
    {i : CgiInput} {mem : Memory} (ht : s.map_task_ t = some task) (hna : t ∉ answered)
    (hs : s.buf2Resp env t i mem = some s') : Inv s' (answered ∪ {t}) := by
  obtain ⟨r, s₁, -, hs₁, rfl⟩ := buf2Resp_of_task ht hs
  have hput : Inv ({ s with
      map_task_ := Function.update s.map_task_ t
        (some { task with impl := r.task, m_res := (r.res.map .result).getD task.m_res })
      state := r.state }) answered := by
    refine h.of_tasks rfl rfl rfl ?_
    intro t' task' ht'
    rcases of_update_eq_some ht' with ⟨rfl, htask⟩ | ⟨-, hold⟩
    · cases htask
      exact ⟨task, ht, rfl⟩
    · exact ⟨task', hold, rfl⟩
  rcases hs₁ with rfl | ⟨impl, rfl⟩
  · exact hput.doCallBack (Function.update_self ..) hna _ _ _
  · -- the task it starts has an id of its own
    refine (hput.startTask _).doCallBack ?_ hna _ _ _
    exact (Function.update_of_ne (Nat.ne_of_lt (h.task_lt t task ht)) ..).trans
      (Function.update_self ..)

/-- The end of a task, and the sync it may start. -/
theorem Inv.onTaskEnd (h : Inv s answered) (t : Nat) (mem : Memory) :
    Inv (s.onTaskEnd t mem) answered := by
  have hout (b₁ b₂ : Bool) : Inv { s with
      map_task_ := Function.update s.map_task_ t none
      s_bSyncing := b₁
      s_bNeedReSync := b₂ } answered :=
    h.of_tasks rfl rfl rfl fun t' task' ht' => ⟨task', (of_erase_eq_some ht').2, rfl⟩
  rw [NetworkService.onTaskEnd]
  dsimp only
  split
  · -- a report has ended, and a sync was asked for meanwhile or not
    rw [isNeedReSync]
    cases s.s_bNeedReSync with
    | true => exact (hout true false).startTask _
    | false => exact hout false false
  · exact hout _ _

/-- **One step** keeps the invariant. -/
theorem Inv.step {c c' : NetworkService × Set Nat} {e : Event} (h : Inv c.1 c.2)
    (hs : MarsStep env c e c') : Inv c'.1 c'.2 := by
  obtain ⟨s, answered⟩ := c
  obtain ⟨s', answered'⟩ := c'
  obtain ⟨hstep, rfl, hmars⟩ := hs
  dsimp only at h hstep hmars ⊢
  -- only a response adds to the tasks that have had one
  have hsame (hinv : Inv s' answered) (he : e.answers = ∅) : Inv s' (answered ∪ e.answers) := by
    rw [he, Set.union_empty]
    exact hinv
  cases e with
  | start impl mem =>
      cases hstep
      exact hsame (h.startTask _) rfl
  | newSync mem =>
      cases hstep
      refine hsame ?_ rfl
      have hflags (b₁ b₂ : Bool) :
          Inv { s with s_bSyncing := b₁, s_bNeedReSync := b₂ } answered :=
        h.of_tasks rfl rfl rfl fun t task ht => ⟨task, ht, rfl⟩
      rw [NetworkService.newSync, isSyncing]
      cases s.s_bSyncing with
      | true => exact hflags _ _
      | false => exact (hflags _ _).startTask _
  | req2Buf taskid impl =>
      cases hstep
      refine hsame (h.of_tasks rfl rfl rfl fun t task' ht => ?_) rfl
      rcases of_update_eq_some ht with ⟨rfl, htask⟩ | ⟨-, hold⟩
      · obtain ⟨task, hold, rfl⟩ := Option.map_eq_some_iff.mp htask
        exact ⟨task, hold, rfl⟩
      · exact ⟨task', hold, rfl⟩
  | buf2Resp taskid i mem =>
      obtain ⟨hna, task, ht⟩ := hmars taskid rfl
      exact h.buf2Resp ht hna hstep
  | onTaskEnd taskid mem =>
      cases hstep
      exact hsame (h.onTaskEnd taskid mem) rfl
  | other state =>
      cases hstep
      exact hsame (h.of_tasks rfl rfl rfl fun t task ht => ⟨task, ht, rfl⟩) rfl

/-- **The invariant holds in every state** of a run. -/
theorem MarsReachable.inv {c : NetworkService × Set Nat} (h : MarsReachable env c) :
    Inv c.1 c.2 := by
  refine Reachable.invariant (fun c => Inv c.1 c.2) (fun c hc => ?_)
    (fun _ _ _ h hs => h.step hs) h
  obtain ⟨⟨hreg, hcalled, htasks⟩, hans⟩ := hc
  refine ⟨hreg, fun t task ht => ?_, fun t ht => ?_, fun t _ => ?_, fun t task ht => ?_⟩
  · rw [htasks t] at ht
    cases ht
  · rw [hans] at ht
    exact absurd ht (Set.notMem_empty t)
  · rw [callsAbout, hcalled]
    rfl
  · rw [htasks t] at ht
    cases ht

end

/-- **Which tasks are reported.**  Of the tasks that are started in any state of any run, so in
particular of one that is about to end, those have been reported once and under their own id that
have had their `Buf2Resp` and whose object happens to hold that id. -/
theorem reportedOnce_iff {env : CgiEnv} {c : NetworkService × Set Nat} (h : MarsReachable env c)
    {t : Nat} {task : Task} (ht : c.1.map_task_ t = some task) :
    c.1.ReportedOnce t ↔ t ∈ c.2 ∧ task.taskid_ = t := by
  constructor
  · rintro ⟨n, hn, hid⟩
    by_cases hans : t ∈ c.2
    · obtain ⟨n', hn', hid'⟩ := h.inv.reported t task ht hans
      cases hn.symm.trans hn'
      exact ⟨hans, hid'.symm.trans hid⟩
    · cases hn.symm.trans (h.inv.silent t hans)
  · rintro ⟨hans, hid⟩
    obtain ⟨n, hn, hid'⟩ := h.inv.reported t task ht hans
    exact ⟨n, hn, hid'.trans hid⟩

/-- The service before its first task. -/
def idle : NetworkService := ⟨1, fun _ => none, true, [], false, false, ⟨{}, ⟨none, 0⟩⟩⟩

/-- A service with one task, started with the id 1. -/
def firstTask (mem : Memory) : NetworkService := idle.startTask (createTask mem (.newSync {}))

theorem map_firstTask (mem : Memory) :
    (firstTask mem).map_task_ 1 = some (createTask mem (.newSync {})) :=
  Function.update_self (f := idle.map_task_) 1 _

theorem marsReachable_firstTask (env : CgiEnv) (mem : Memory) :
    MarsReachable env (firstTask mem, ∅) := by
  have hidle : MarsReachable env (idle, ∅) := .start ⟨⟨rfl, rfl, fun _ => rfl⟩, rfl⟩
  exact hidle.next (e := .start (.newSync {}) mem) ⟨rfl, (Set.union_empty _).symm, nofun⟩

/-- A task whose object holds the id 1 by chance, after its response. -/
theorem reportedOnce_first : ∃ s, MarsReachable plainCgiEnv (s, ∅ ∪ {1}) ∧ s.ReportedOnce 1 := by
  have hid : (buf2Resp plainCgiEnv (firstTask ⟨1, 0, false⟩) 1 headerOnly .zeroed).map
      (fun s => (s.map_task_ 1).map Task.taskid_) = some (some 1) := by decide +kernel
  obtain ⟨s, hs, hid⟩ := Option.map_eq_some_iff.mp hid
  obtain ⟨task, ht, hid⟩ := Option.map_eq_some_iff.mp hid
  have hr : MarsReachable plainCgiEnv (s, ∅ ∪ {1}) := by
    refine Reachable.next (e := .buf2Resp 1 headerOnly .zeroed)
      (marsReachable_firstTask _ ⟨1, 0, false⟩) ⟨hs, rfl, fun t ht => ?_⟩
    cases ht
    exact ⟨Set.notMem_empty 1, _, map_firstTask _⟩
  exact ⟨s, hr, (reportedOnce_iff hr ht).mpr ⟨.inr rfl, hid⟩⟩

/-- A task that ends without a response is not reported. -/
theorem not_reportedOnce : ¬ ∀ (env : CgiEnv) (c c' : NetworkService × Set Nat) (t : Nat)
    (mem : Memory) (task : Task), MarsReachable env c → MarsStep env c (.onTaskEnd t mem) c' →
    c.1.map_task_ t = some task → task.impl ≠ .reportSyncKV → c.1.ReportedOnce t := by
  intro h
  obtain ⟨n, hn, -⟩ := h plainCgiEnv (firstTask .zeroed, ∅)
    ((firstTask .zeroed).onTaskEnd 1 .zeroed, ∅) 1 .zeroed _ (marsReachable_firstTask _ _)
    ⟨rfl, (Set.union_empty _).symm, nofun⟩ (map_firstTask _) (by nofun)
  cases hn

end NetworkService

end MicroChat
