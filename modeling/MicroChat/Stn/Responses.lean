import MicroChat.Stn.Conservation

/-!
# Stn — Responses

What comes out of mars when a response has come that the application reads without an error.

* `Silent`: whatever is not the hand-over of a response.
* `answering_handle`: a response that is handed over is the first thing that comes out of its
  message, and the end of its task the second.
-/

namespace MicroChat.Stn
open Support

/-- No response is handed over. -/
def Call.Silent : Call → Prop
  | .buf2Resp _ => False
  | _ => True

/-- No response is handed over. -/
def Output.Silent : Output → Prop
  | .buf2Resp _ => False
  | _ => True

theorem Call.Plain.silent {c : Call} (h : c.Plain) : c.Silent := by
  cases c <;> trivial

/-- Only responses that have come are handed over. -/
theorem Did.silent {now : UInt64} {l l' : List TaskProfile} {calls calls' : List Call}
    (h : Did now l calls l' calls') :
    ∃ cs, calls' = calls ++ cs ∧ ∀ c ∈ cs, c.Silent := by
  obtain ⟨cs, rfl, hw⟩ := h
  refine ⟨cs, rfl, (hw.invariant (Q := fun _ => True) (fun hm _ => ⟨fun c hc => ?_, ?_⟩)
    Call.Plain.silent fun _ _ => trivial).1⟩
  · cases hm with
    | write | retry => cases hc
    | send | finish =>
        cases List.mem_singleton.mp hc
        trivial
  · exact fun _ _ => trivial

/-- The calls of a task manager for a response it has found a task for: the response is read, and
the task ends. -/
inductive Responding (calls : List Call) : List Call → Prop where
  | intro (task : Task) (cgi : Bytes) (total_size : UInt32) (cost_time : UInt64)
      (err_code fail_handle : Int) (taskcosttime : UInt32) {cs : List Call}
      (h : ∀ c ∈ cs, c.Silent) : Responding calls (calls ++ [.buf2Resp task.taskid] ++
        [.cgiTaskStatistic cgi total_size cost_time] ++
        [.callBack .kEctOK err_code fail_handle task taskcosttime] ++ cs)

/-! ### The managers -/

namespace LongLinkTaskManager
variable {env : Env} {m : LongLinkTaskManager}

/-- The first task with an id. -/
theorem located_append {l₁ l₂ : List TaskProfile} {it : TaskProfile} {taskid : Nat}
    (hid : taskid ≠ kInvalidTaskID) (hl : m.lst_cmd_ = l₁ ++ it :: l₂)
    (hfirst : ∀ p ∈ l₁, decide (p.task.taskid = taskid) = false) (hit : it.task.taskid = taskid)
    (f : LongLinkTaskManager → TaskProfile → LongLinkTaskManager × Option TaskProfile) :
    (m.located taskid f).calls = (f m it).1.calls ∧
      (m.located taskid f).lst_cmd_ = l₁ ++ ((f m it).2.toList ++ l₂) := by
  rw [located, if_neg hid, hl, atFirst_append hfirst (decide_eq_true hit)]
  exact ⟨rfl, rfl⟩

theorem calls_singleRespHandle_ok (m : LongLinkTaskManager) (it : TaskProfile)
    (err_code fail_handle : Int) :
    (m.singleRespHandle env it .kEctOK err_code fail_handle).1.calls =
      m.calls ++ [.callBack .kEctOK err_code fail_handle it.task
        (env.now - it.start_task_time).toUInt32] := by
  rw [singleRespHandle, if_pos rfl, if_pos (.inr (.inl rfl))]
  rfl

variable (env) in
/-- A response the application reads without an error. -/
theorem onResponse_noError (m : LongLinkTaskManager) (error_type : ErrCmdType) (error_code : Int)
    (cmdid : UInt32) (taskid : Nat) (body_len : UInt32) {ans : RespAnswer}
    (hans : ans.handle_type = kTaskFailHandleNoError) :
    let r := m.onResponse env error_type error_code cmdid taskid body_len ans
    r.2 = none ∧ (To (Move env.now) m r.1 ∨ Responding m.calls r.1.calls) := by
  rw [onResponse]
  split
  · exact ⟨rfl, .inl (did_call m)⟩
  · split
    · exact ⟨rfl, .inl (did_batchErrorRespHandle ..)⟩
    · split
      · exact ⟨rfl, .inl (.refl ..)⟩
      · rename_i hid
        split
        · exact ⟨rfl, .inl (.refl ..)⟩
        · rename_i it hfind
          obtain ⟨hit, l₁, l₂, hl, hfirst⟩ := List.find?_eq_some_iff_append.mp hfind
          have hit : it.task.taskid = taskid := of_decide_eq_true hit
          have hfirst (p : TaskProfile) (hp : p ∈ l₁) :
              decide (p.task.taskid = taskid) = false := by
            simpa using hfirst p hp
          dsimp only
          refine ⟨rfl, .inr ?_⟩
          obtain ⟨hcalls, hl'⟩ := located_append hid hl hfirst hit
            fun m it => (m.call (.buf2Resp it.task.taskid),
              some (it.receivedAt env.now body_len body_len))
          generalize m.located taskid _ = m₁ at hcalls hl'
          generalize hm₂ : m₁.call _ = m₂
          have hl₂ : m₂.lst_cmd_ = l₁ ++ it.receivedAt env.now body_len body_len :: l₂ := by
            rw [← hm₂]
            exact hl'
          obtain ⟨hcalls', -⟩ := located_append hid hl₂ hfirst hit
            fun m it => m.singleRespHandle env it .kEctOK ans.err_code ans.handle_type
          rw [calls_call, hcalls', calls_singleRespHandle_ok, ← hm₂, calls_call, hcalls]
          exact .intro it.task _ _ _ _ _ _ (List.forall_mem_singleton.mpr trivial)

end LongLinkTaskManager

namespace ShortLinkTaskManager
variable {env : Env} {m : ShortLinkTaskManager}

/-- The first task with a worker. -/
theorem located_append {l₁ l₂ : List TaskProfile} {it : TaskProfile} {worker : Nat}
    (hid : worker ≠ 0) (hl : m.lst_cmd_ = l₁ ++ it :: l₂)
    (hfirst : ∀ p ∈ l₁, decide (p.running_id = worker) = false) (hit : it.running_id = worker)
    (f : ShortLinkTaskManager → TaskProfile → ShortLinkTaskManager × Option TaskProfile) :
    (m.located worker f).calls = (f m it).1.calls ∧
      (m.located worker f).lst_cmd_ = l₁ ++ ((f m it).2.toList ++ l₂) := by
  rw [located, if_neg hid, hl, atFirst_append hfirst (decide_eq_true hit)]
  exact ⟨rfl, rfl⟩

theorem calls_singleRespHandle_ok (m : ShortLinkTaskManager) {it : TaskProfile}
    (hid : it.running_id ≠ 0) (err_code fail_handle : Int) :
    (m.singleRespHandle env it .kEctOK err_code fail_handle).1.calls =
      m.calls ++ [.callBack .kEctOK err_code fail_handle it.task
        (env.now - it.start_task_time).toUInt32] ++ [.deleteShortLink it.running_id] := by
  rw [singleRespHandle, if_pos rfl, if_pos (.inr (.inl rfl)), deleteShortLink, if_neg hid]
  rfl

theorem answered_task (body_len : UInt32) (cancel_retry : Bool) (it : TaskProfile) :
    (answered env body_len cancel_retry it).task = it.task := by
  rw [answered]
  split <;> rfl

theorem answered_running_id (body_len : UInt32) (cancel_retry : Bool) (it : TaskProfile) :
    (answered env body_len cancel_retry it).running_id = it.running_id := by
  rw [answered]
  split <;> rfl

variable (env) in
/-- A response the application reads without an error. -/
theorem onResponse_noError (m : ShortLinkTaskManager) (worker : Nat) (err_type : ErrCmdType)
    (status : Int) (body_len : UInt32) (cancel_retry : Bool) {ans : RespAnswer}
    (hans : ans.handle_type = kTaskFailHandleNoError) :
    let r := m.onResponse env worker err_type status body_len cancel_retry ans
    r.2 = none ∧ (To (Move env.now) m r.1 ∨ Responding m.calls r.1.calls) := by
  rw [onResponse]
  split
  · exact ⟨rfl, .inl (.refl ..)⟩
  · rename_i hid
    split
    · exact ⟨rfl, .inl (.refl ..)⟩
    · rename_i it hfind
      split
      · exact ⟨rfl, .inl (to_located (turn_onError err_type status) m worker)⟩
      · obtain ⟨hit, l₁, l₂, hl, hfirst⟩ := List.find?_eq_some_iff_append.mp hfind
        have hit : it.running_id = worker := of_decide_eq_true hit
        have hfirst (p : TaskProfile) (hp : p ∈ l₁) : decide (p.running_id = worker) = false := by
          simpa using hfirst p hp
        have hans' : (answered env body_len cancel_retry it).running_id = worker :=
          (answered_running_id ..).trans hit
        dsimp only
        refine ⟨rfl, .inr ?_⟩
        obtain ⟨hcalls, hl'⟩ := located_append hid hl hfirst hit
          fun m it => (m.call (.buf2Resp it.task.taskid),
            some (answered env body_len cancel_retry it))
        generalize m.located worker _ = m₁ at hcalls hl'
        generalize hm₂ : m₁.call _ = m₂
        have hl₂ : m₂.lst_cmd_ = l₁ ++ answered env body_len cancel_retry it :: l₂ := by
          rw [← hm₂]
          exact hl'
        obtain ⟨hcalls', -⟩ := located_append hid hl₂ hfirst hans'
          fun m it => m.singleRespHandle env it .kEctOK ans.err_code ans.handle_type
        rw [calls_call, hcalls', calls_singleRespHandle_ok _ (hans'.trans_ne hid), answered_task,
          ← hm₂, calls_call, hcalls, List.append_assoc _ [Call.deleteShortLink _]]
        refine .intro it.task _ _ _ _ _ _ fun c hc => ?_
        rcases List.mem_cons.mp hc with rfl | hc
        · trivial
        · cases List.mem_singleton.mp hc
          trivial

end ShortLinkTaskManager

/-! ### What comes out -/

/-- What comes out of one message: no response is handed over, or one is, and is followed by the end
of its task at once. -/
inductive Answering : List Output → Prop where
  | silent {out : List Output} (h : ∀ o ∈ out, o.Silent) : Answering out
  | response (taskid : Nat) (err_code : Int) {out : List Output} (h : ∀ o ∈ out, o.Silent) :
      Answering (.buf2Resp taskid :: .onTaskEnd taskid .kEctOK err_code :: out)

namespace NetCore

/-- More has come out, and no response is handed over in it. -/
def Grows (c c' : NetCore) : Prop := ∃ out, c'.out = c.out ++ out ∧ ∀ o ∈ out, o.Silent

theorem Grows.of_out {c c' : NetCore} (h : c'.out = c.out) : Grows c c' :=
  ⟨[], by rw [h, List.append_nil], List.forall_mem_nil _⟩

theorem Grows.rfl {c : NetCore} : Grows c c := .of_out (Eq.refl _)

theorem Grows.trans {c c' c'' : NetCore} (h : Grows c c') (h' : Grows c' c'') : Grows c c'' := by
  obtain ⟨out, hout, hsilent⟩ := h
  obtain ⟨out', hout', hsilent'⟩ := h'
  exact ⟨out ++ out', by rw [hout', hout, List.append_assoc],
    List.forall_mem_append.mpr ⟨hsilent, hsilent'⟩⟩

/-- One more output. -/
theorem grows_out (c : NetCore) {o : Output} (h : o.Silent) :
    Grows c { c with out := c.out ++ [o] } := ⟨[o], rfl, List.forall_mem_singleton.mpr h⟩

section
variable (now : UInt64)

theorem grows_onTaskEnd (c : NetCore) (taskid : Nat) (error_type : ErrCmdType)
    (error_code : Int) : Grows c (c.onTaskEnd taskid error_type error_code) :=
  grows_out c trivial

theorem grows_callBack (c : NetCore) (source : CallFrom) (err_type : ErrCmdType)
    (err_code fail_handle : Int) (task : Task) (taskcosttime : UInt32) :
    Grows c (c.callBack now source err_type err_code fail_handle task taskcosttime) := by
  rw [callBack]
  split
  · exact grows_onTaskEnd ..
  · split
    · exact grows_onTaskEnd ..
    · split
      · exact .of_out rfl
      · exact grows_onTaskEnd ..

theorem grows_withZombie (c : NetCore) (r : ZombieTaskManager × List ZombieCall) :
    Grows c (c.withZombie now r) := by
  have hcalls (calls : List ZombieCall) (c : NetCore) :
      Grows c (calls.foldl (zombieCall now) c) := by
    induction calls generalizing c with
    | nil => exact .rfl
    | cons call calls ih =>
        refine Grows.trans ?_ (ih _)
        cases call with
        | startTask task => exact .of_out rfl
        | callBack => exact grows_callBack ..
  have hput : Grows c { c with zombie_task_manager_ := r.1 } := .of_out rfl
  exact hput.trans (hcalls r.2 _)

theorem grows_redoZombies (c : NetCore) : Grows c (c.redoZombies now) := grows_withZombie ..

theorem grows_managerCalls (source : CallFrom) {calls : List Call} (h : ∀ c ∈ calls, c.Silent)
    (c : NetCore) : Grows c (calls.foldl (managerCall now source) c) := by
  induction calls generalizing c with
  | nil => exact .rfl
  | cons call calls ih =>
      have hcall : call.Silent := h call List.mem_cons_self
      refine Grows.trans ?_ (ih (fun c hc => h c (List.mem_cons_of_mem call hc)) _)
      cases call with
      | buf2Resp => exact hcall.elim
      | callBack => exact grows_callBack ..
      | notifyNetworkErr err_type err_code =>
          rw [managerCall]
          split
          · exact grows_redoZombies now c
          · exact .rfl
      | req2Buf | onPush | send => exact grows_out c trivial
      | cgiTaskStatistic | stop | deleteShortLink | disconnect => exact .rfl

theorem grows_withLong {c : NetCore} (hrest : c.AtRest) {l : List TaskProfile}
    {m : LongLinkTaskManager}
    (h : Did now l c.longlink_task_manager_.calls m.lst_cmd_ m.calls) :
    Grows c (c.withLong now m) := by
  obtain ⟨cs, hcs, hsilent⟩ := h.silent
  rw [hrest.long, List.nil_append] at hcs
  have hput : Grows c { c with longlink_task_manager_ := { m with calls := [] } } := .of_out rfl
  exact hput.trans (grows_managerCalls now .long (hcs ▸ hsilent) _)

theorem grows_withShort {c : NetCore} (hrest : c.AtRest) {l : List TaskProfile}
    {m : ShortLinkTaskManager}
    (h : Did now l c.shortlink_task_manager_.calls m.lst_cmd_ m.calls) :
    Grows c (c.withShort now m) := by
  obtain ⟨cs, hcs, hsilent⟩ := h.silent
  rw [hrest.short, List.nil_append] at hcs
  have hput : Grows c { c with shortlink_task_manager_ := { m with calls := [] } } := .of_out rfl
  exact hput.trans (grows_managerCalls now .short (hcs ▸ hsilent) _)

/-- The calls for a response the application has read. -/
theorem out_responding (source : CallFrom) {calls : List Call} (h : Responding [] calls)
    (c : NetCore) : ∃ taskid err_code out,
      (calls.foldl (managerCall now source) c).out =
        c.out ++ .buf2Resp taskid :: .onTaskEnd taskid .kEctOK err_code :: out ∧
      ∀ o ∈ out, o.Silent := by
  obtain @⟨task, cgi, total_size, cost_time, err_code, fail_handle, taskcosttime, cs, hcs⟩ := h
  obtain ⟨out, hout, hsilent⟩ := grows_managerCalls now source hcs
    ((({ c with out := c.out ++ [.buf2Resp task.taskid] } : NetCore)).onTaskEnd task.taskid .kEctOK
      err_code)
  refine ⟨task.taskid, err_code, out, ?_, hsilent⟩
  have hend : ({ c with out := c.out ++ [.buf2Resp task.taskid] } : NetCore).callBack now source
      .kEctOK err_code fail_handle task taskcosttime =
        ({ c with out := c.out ++ [.buf2Resp task.taskid] } : NetCore).onTaskEnd task.taskid .kEctOK
          err_code := by
    rw [callBack, if_pos (.inl rfl)]
  simp only [List.nil_append, List.cons_append, List.foldl_cons, managerCall]
  rw [hend, hout]
  simp only [onTaskEnd, List.append_assoc, List.cons_append, List.nil_append]

end

section
variable (a : Answers) {c : NetCore}

theorem grows_startTask (hrest : c.AtRest) (task : Task) : Grows c (c.startTask a task) := by
  have hon (task : Task) : Grows c (c.startOn a task).1 := by
    have hlong : Grows c
        (c.withLong a.env.now (c.longlink_task_manager_.startTask a.env a.long task)) :=
      grows_withLong _ hrest (LongLinkTaskManager.did_startTask ..)
    have hshort : Grows c
        (c.withShort a.env.now (c.shortlink_task_manager_.startTask a.env a.short task).1) := by
      cases hok : (c.shortlink_task_manager_.startTask a.env a.short task).2 with
      | true => exact grows_withShort _ hrest (ShortLinkTaskManager.did_startTask hok)
      | false =>
          rw [ShortLinkTaskManager.startTask_eq_self hok]
          exact grows_withShort _ hrest (.refl ..)
    rw [startOn]
    dsimp only
    split
    · split
      · exact hlong
      · exact hshort
    · split
      · exact hlong
      · split
        · exact hshort
        · exact .rfl
  rw [startTask]
  split
  · exact grows_onTaskEnd ..
  · rename_i task' _
    split
    · exact grows_onTaskEnd ..
    · split
      · exact grows_onTaskEnd ..
      · dsimp only
        split
        · exact (hon task').trans (grows_onTaskEnd ..)
        · exact (hon task').trans (.of_out rfl)

theorem grows_redoTasks (hrest : c.AtRest) (longRedo : Bool) :
    Grows c (c.redoTasks a longRedo) := by
  have hshort {c : NetCore} (hrest : c.AtRest) : Grows c
      (c.withShort a.env.now (c.shortlink_task_manager_.redoTasks a.env a.short)) :=
    grows_withShort _ hrest (ShortLinkTaskManager.did_redoTasks ..)
  rw [redoTasks]
  split
  · have hlong : Grows c
        (c.withLong a.env.now (c.longlink_task_manager_.redoTasks a.env a.long)) :=
      grows_withLong _ hrest (LongLinkTaskManager.did_redoTasks ..)
    exact (hlong.trans (grows_redoZombies ..)).trans
      (hshort ((hrest.withLong _ _).of_same (same_redoZombies ..)))
  · exact (grows_redoZombies ..).trans (hshort (hrest.of_same (same_redoZombies ..)))

/-- The application reads the response the message is about, if it is about one, without an
error. -/
def Message.NoError : Message → Prop
  | .longResponse _ _ _ _ _ ans | .shortResponse _ _ _ _ _ ans =>
      ans.handle_type = kTaskFailHandleNoError
  | _ => True

theorem Grows.answering {c' : NetCore} (h : Grows c c') (hout : c.out = []) : Answering c'.out := by
  obtain ⟨out, hout', hsilent⟩ := h
  rw [hout', hout]
  exact .silent hsilent

theorem answering_responding (now : UInt64) (source : CallFrom) {calls : List Call}
    (h : Responding [] calls) (hout : c.out = []) :
    Answering (calls.foldl (managerCall now source) c).out := by
  obtain ⟨taskid, err_code, out, hout', hsilent⟩ := out_responding now source h c
  rw [hout', hout]
  exact .response taskid err_code hsilent

/-- **A response is handed over once**: where the application reads it without an error, the task
it is for ends right after that, and nothing else of its message is a response. -/
theorem answering_handle (hrest : c.AtRest) (hout : c.out = []) {msg : Message} (h : msg.NoError) :
    Answering (c.handle a msg).out := by
  have hlong {m} (h : LongLinkTaskManager.To (Move a.env.now) c.longlink_task_manager_ m) :
      Grows c (c.withLong a.env.now m) := grows_withLong _ hrest h
  have hshort {m} (h : ShortLinkTaskManager.To (Move a.env.now) c.shortlink_task_manager_ m) :
      Grows c (c.withShort a.env.now m) := grows_withShort _ hrest h
  cases msg with
  | start =>
      rw [handle]
      split
      · exact Grows.rfl.answering hout
      · rename_i task starting _
        have hpop : { c with starting }.AtRest := ⟨hrest.long, hrest.short⟩
        exact (grows_startTask a hpop task).answering hout
  | stopTask taskid =>
      rw [handle, stopTask]
      dsimp only
      refine Grows.answering (.of_out ?_) hout
      split
      · rfl
      · split <;> rfl
  | clearTasks => exact Grows.answering (.of_out rfl) hout
  | redo longRedo => exact (grows_redoTasks a hrest longRedo).answering hout
  | longRunLoop => exact (hlong (LongLinkTaskManager.did_runLoop _)).answering hout
  | shortRunLoop => exact (hshort (ShortLinkTaskManager.did_runLoop _)).answering hout
  | timerChecker => exact (grows_withZombie ..).answering hout
  | longSend taskid => exact (hlong (LongLinkTaskManager.did_onSend ..)).answering hout
  | longRecv => exact (hlong (LongLinkTaskManager.did_onRecv ..)).answering hout
  | longResponse error_type error_code cmdid taskid body_len ans =>
      obtain ⟨hnone, hto | hresponding⟩ := LongLinkTaskManager.onResponse_noError a.env
        c.longlink_task_manager_ error_type error_code cmdid taskid body_len h
      · rw [handle, hnone]
        exact (hlong hto).answering hout
      · rw [handle, hnone]
        rw [hrest.long] at hresponding
        exact answering_responding _ .long hresponding hout
  | longConnStatus connected =>
      refine Grows.answering ?_ hout
      rw [handle]
      split
      · exact (hlong (LongLinkTaskManager.did_runLoop _)).trans (grows_redoZombies ..)
      · exact .rfl
  | shortSend worker => exact (hshort (ShortLinkTaskManager.did_onSend ..)).answering hout
  | shortRecv => exact (hshort (ShortLinkTaskManager.did_onRecv ..)).answering hout
  | shortResponse worker err_type status body_len cancel_retry ans =>
      obtain ⟨hnone, hto | hresponding⟩ := ShortLinkTaskManager.onResponse_noError a.env
        c.shortlink_task_manager_ worker err_type status body_len cancel_retry h
      · rw [handle, hnone]
        exact (hshort hto).answering hout
      · rw [handle, hnone]
        rw [hrest.short] at hresponding
        exact answering_responding _ .short hresponding hout
  | networkReport err_type =>
      refine Grows.answering ?_ hout
      rw [handle]
      split
      · exact grows_redoZombies ..
      · exact .rfl

end

end NetCore

end MicroChat.Stn
