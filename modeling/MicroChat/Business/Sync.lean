import Mathlib.Data.Set.Insert
import Mathlib.Logic.Function.Basic
import MicroChat.Business.Items
import MicroChat.Support.Runs

/-!
# Business — Sync

Syncing as the client goes through it: `NewSync` of `interface.cpp`, the flags of
`NewSyncCGITask`, and `NetworkService`, which mars calls back.

* `Client`, `Event`, `step`: the system.
* `CleanStep`: the steps that end no `NewSync` task before a response to it was accepted.
* `outstanding_of_clean`: in their runs a sync that is under way has a task.
* `stuck_onTaskEnd`, `Stuck.forever`: what the end of the only `NewSync` task leaves otherwise.
-/

namespace MicroChat.Sync
open Support

/-! ### The client -/

/-- The tasks of a sync, with the members of their headers. -/
inductive CGITask where
  | newSync (header : BaseHeader)
  | reportSyncKV

/-- `SEND_NEWSYNC_CMDID` and `SEND_SYNC_SUCCESS`. -/
def sendNewSyncCmdid : UInt32 := 121
def sendSyncSuccess : UInt32 := 1000000190

def CGITask.cmdid_ : CGITask → UInt32
  | .newSync _ => sendNewSyncCmdid
  | .reportSyncKV => sendSyncSuccess

/-- The flags of `NewSyncCGITask`, the started tasks by their ids, and what else the tasks read.
`gs_taskid` is the next id mars gives. -/
structure Client where
  s_bSyncing : Bool
  s_bNeedReSync : Bool
  gs_taskid : Nat
  map_task_ : Nat → Option CGITask
  session : Session
  db : Sql3

/-- `bool NewSyncCGITask::IsSyncing()`. -/
def isSyncing (s : Client) : Bool × Client :=
  if s.s_bSyncing then (true, { s with s_bNeedReSync := true })
  else (false, { s with s_bSyncing := true })

/-- `bool NewSyncCGITask::IsNeedReSync()`. -/
def isNeedReSync (s : Client) : Bool × Client :=
  if s.s_bNeedReSync then (true, { s with s_bSyncing := true, s_bNeedReSync := false })
  else (false, { s with s_bSyncing := false, s_bNeedReSync := false })

/-- What each answer of the two says about the flags, and does to them. -/
theorem of_isSyncing {s : Client} (h : (isSyncing s).1 = true) :
    s.s_bSyncing = true ∧ (isSyncing s).2 = { s with s_bNeedReSync := true } := by
  have hsync : s.s_bSyncing = true := by
    by_contra hne
    rw [isSyncing, if_neg hne] at h
    cases h
  exact ⟨hsync, by rw [isSyncing, if_pos hsync]⟩

theorem of_not_isSyncing {s : Client} (h : (isSyncing s).1 = false) :
    s.s_bSyncing = false ∧ (isSyncing s).2 = { s with s_bSyncing := true } := by
  have hsync : ¬ s.s_bSyncing = true := by
    intro hs
    rw [isSyncing, if_pos hs] at h
    cases h
  exact ⟨Bool.eq_false_of_not_eq_true hsync, by rw [isSyncing, if_neg hsync]⟩

theorem of_isNeedReSync {s : Client} (h : (isNeedReSync s).1 = true) :
    s.s_bNeedReSync = true ∧
      (isNeedReSync s).2 = { s with s_bSyncing := true, s_bNeedReSync := false } := by
  have hneed : s.s_bNeedReSync = true := by
    by_contra hne
    rw [isNeedReSync, if_neg hne] at h
    cases h
  exact ⟨hneed, by rw [isNeedReSync, if_pos hneed]⟩

theorem of_not_isNeedReSync {s : Client} (h : (isNeedReSync s).1 = false) :
    s.s_bNeedReSync = false ∧
      (isNeedReSync s).2 = { s with s_bSyncing := false, s_bNeedReSync := false } := by
  have hneed : ¬ s.s_bNeedReSync = true := by
    intro hs
    rw [isNeedReSync, if_pos hs] at h
    cases h
  exact ⟨Bool.eq_false_of_not_eq_true hneed, by rw [isNeedReSync, if_neg hneed]⟩

/-- `int NetworkService::startTask(CGITask* task, bool bSendOnly)`. -/
def startTask (s : Client) (task : CGITask) : Client :=
  { s with
    gs_taskid := s.gs_taskid + 1
    map_task_ := Function.update s.map_task_ s.gs_taskid (some task) }

theorem startTask_self (s : Client) (task : CGITask) :
    (startTask s task).map_task_ s.gs_taskid = some task := Function.update_self ..

theorem startTask_of_ne {s : Client} {t : Nat} (h : t ≠ s.gs_taskid) (task : CGITask) :
    (startTask s task).map_task_ t = s.map_task_ t := Function.update_of_ne h ..

/-- `void NewSync()`. -/
def newSync (s : Client) : Client :=
  let (bRet, s) := isSyncing s
  if !bRet then startTask s (.newSync {}) else s

/-- `int NetworkService::Buf2Resp(…)`; `ReportSyncKVCGITask::Buf2Resp` does nothing. -/
def buf2Resp (env : Env) (s : Client) (taskid : Nat) (inbuffer : Bytes) : Option Client :=
  match s.map_task_ taskid with
  | some (.newSync m) =>
      (newSyncBuf2Resp env s.session m s.db inbuffer).map fun r =>
        let s := { s with
          map_task_ := Function.update s.map_task_ taskid (some (.newSync r.header))
          session := r.session
          db := r.db }
        if r.reported then startTask s .reportSyncKV else s
  | some .reportSyncKV | none => some s

/-- `int NetworkService::OnTaskEnd(…)`. -/
def onTaskEnd (s : Client) (taskid : Nat) : Client :=
  let cmdid := ((s.map_task_ taskid).map CGITask.cmdid_).getD 0
  let s := { s with map_task_ := Function.update s.map_task_ taskid none }
  if sendSyncSuccess = cmdid then
    let (bRet, s) := isNeedReSync s
    if bRet then startTask s (.newSync {}) else s
  else s

/-! ### Runs -/

/-- What happens to a client.  `Req2Buf` changes nothing here: a request that cannot be built or
sent is the end of its task. -/
inductive Event where
  /-- a push, a request of mars or the end of `NewInit` -/
  | newSync
  | buf2Resp (taskid : Nat) (inbuffer : Bytes)
  | onTaskEnd (taskid : Nat)
  /-- the other tasks: they take ids, and may log in or write to the database -/
  | other (ids : Nat) (session : Session) (db : Sql3)

/-- `none` where the program is ended. -/
def step (env : Env) (s : Client) : Event → Option Client
  | .newSync => some (newSync s)
  | .buf2Resp taskid inbuffer => buf2Resp env s taskid inbuffer
  | .onTaskEnd taskid => some (onTaskEnd s taskid)
  | .other ids session db => some { s with gs_taskid := s.gs_taskid + ids, session, db }

/-- No sync under way, and no task started. -/
def Started (s : Client) : Prop :=
  s.s_bSyncing = false ∧ s.s_bNeedReSync = false ∧ ∀ taskid, s.map_task_ taskid = none

/-- The states of a client, whatever happens to it. -/
def ClientReachable (env : Env) : Client → Prop :=
  Reachable Started fun s e s' => step env s e = some s'

/-- A `NewSync` or `ReportSyncKV` task is started and not ended. -/
def Outstanding (s : Client) : Prop := ∃ taskid task, s.map_task_ taskid = some task

/-- The event is an accepted response to the `NewSync` task. -/
def AcceptedBy (env : Env) (s : Client) (e : Event) (taskid : Nat) : Prop :=
  ∃ m inbuffer, e = .buf2Resp taskid inbuffer ∧ s.map_task_ taskid = some (.newSync m) ∧
    AcceptedResponse env (newSyncHandler env) s.session m inbuffer

/-- A step of a client and of the set of its tasks that have had an accepted response, where no
other `NewSync` task ends. -/
def CleanStep (env : Env) (c : Client × Set Nat) (e : Event) (c' : Client × Set Nat) : Prop :=
  step env c.1 e = some c'.1 ∧ c'.2 = c.2 ∪ {t | AcceptedBy env c.1 e t} ∧
    ∀ t m, e = .onTaskEnd t → c.1.map_task_ t = some (.newSync m) → t ∈ c.2

/-- The states of the runs of clean steps. -/
def CleanReachable (env : Env) : Client × Set Nat → Prop :=
  Reachable (fun c => Started c.1 ∧ c.2 = ∅) (CleanStep env)

/-- Runs of clean steps are runs. -/
theorem CleanReachable.reachable {env : Env} {c : Client × Set Nat} (h : CleanReachable env c) :
    ClientReachable env c.1 :=
  Reachable.map Prod.fst (fun _ h => h.1) (fun _ _ _ h => h.1) h

/-! ### The invariant -/

/-- Ids not yet given are not in use. -/
structure Fresh (s : Client) (accepted : Set Nat) : Prop where
  accepted_lt : ∀ t ∈ accepted, t < s.gs_taskid
  task_lt : ∀ t task, s.map_task_ t = some task → t < s.gs_taskid

/-- A sync that is under way has a `ReportSyncKV` task, or a `NewSync` task that can still get an
accepted response. -/
structure SyncInv (s : Client) (accepted : Set Nat) : Prop extends Fresh s accepted where
  pending : s.s_bSyncing = true →
    ∃ t task, s.map_task_ t = some task ∧ (task = .reportSyncKV ∨ t ∉ accepted)

section
variable {env : Env} {s : Client} {accepted : Set Nat}

/-- A task that has just been started is one the invariant asks for. -/
theorem Fresh.startTask (h : Fresh s accepted) (task : CGITask) :
    SyncInv (startTask s task) accepted where
  accepted_lt t ht := (h.accepted_lt t ht).trans (Nat.lt_succ_self _)
  task_lt t task' ht := by
    by_cases he : t = s.gs_taskid
    · rw [he]
      exact Nat.lt_succ_self _
    · rw [startTask_of_ne he] at ht
      exact (h.task_lt t task' ht).trans (Nat.lt_succ_self _)
  pending _ := ⟨s.gs_taskid, task, startTask_self s task, .inr fun hmem =>
    absurd (h.accepted_lt _ hmem) (Nat.lt_irrefl _)⟩

theorem SyncInv.newSync (h : SyncInv s accepted) : SyncInv (newSync s) accepted := by
  rw [Sync.newSync, isSyncing]
  cases hb : s.s_bSyncing with
  | true => exact ⟨⟨h.accepted_lt, h.task_lt⟩, fun _ => h.pending hb⟩
  | false =>
      have hf : Fresh { s with s_bSyncing := true } accepted := ⟨h.accepted_lt, h.task_lt⟩
      exact hf.startTask _

/-- The end of a task, if it is not a `NewSync` task still waiting for a response. -/
theorem SyncInv.onTaskEnd (h : SyncInv s accepted) {taskid : Nat}
    (hclean : ∀ m, s.map_task_ taskid = some (.newSync m) → taskid ∈ accepted) :
    SyncInv (onTaskEnd s taskid) accepted := by
  have hf (b₁ b₂ : Bool) : Fresh { s with
      s_bSyncing := b₁
      s_bNeedReSync := b₂
      map_task_ := Function.update s.map_task_ taskid none } accepted := by
    refine ⟨h.accepted_lt, ?_⟩
    intro t task ht
    exact h.task_lt t task (of_erase_eq_some ht).2
  -- what is left of the tasks if the one that ends is none of those the invariant asks for
  have hkeep (hne : s.map_task_ taskid ≠ some .reportSyncKV) :
      SyncInv { s with map_task_ := Function.update s.map_task_ taskid none } accepted := by
    refine ⟨hf _ _, ?_⟩
    intro hsync
    obtain ⟨t, task, ht, hp⟩ := h.pending hsync
    refine ⟨t, task, (Function.update_of_ne ?_ ..).trans ht, hp⟩
    rintro rfl
    cases task with
    | reportSyncKV => exact hne ht
    | newSync m =>
        rcases hp with hp | hp
        · cases hp
        · exact hp (hclean m ht)
  rw [Sync.onTaskEnd]
  cases ht : s.map_task_ taskid with
  | none => exact hkeep (by rw [ht]; nofun)
  | some task =>
      cases task with
      | newSync m => exact hkeep (by rw [ht]; nofun)
      | reportSyncKV =>
          rw [isNeedReSync]
          cases s.s_bNeedReSync with
          | true => exact (hf true false).startTask _
          | false => exact ⟨hf false false, nofun⟩

/-- A response, accepted or not. -/
theorem SyncInv.buf2Resp (h : SyncInv s accepted) {s' : Client} {taskid : Nat} {inbuffer : Bytes}
    (hs : buf2Resp env s taskid inbuffer = some s') :
    SyncInv s' (accepted ∪ {t | AcceptedBy env s (.buf2Resp taskid inbuffer) t}) := by
  rw [Sync.buf2Resp] at hs
  split at hs
  case h_1 m hm =>
    obtain ⟨r, hr, rfl⟩ := Option.map_eq_some_iff.mp hs
    have hf : Fresh { s with
        map_task_ := Function.update s.map_task_ taskid (some (.newSync r.header))
        session := r.session
        db := r.db } (accepted ∪ {t | AcceptedBy env s (.buf2Resp taskid inbuffer) t}) := by
      constructor
      · rintro t (ht | ⟨_, _, he, hm', -⟩)
        · exact h.accepted_lt t ht
        · exact h.task_lt _ _ hm'
      · intro t task ht
        rcases of_update_eq_some ht with ⟨rfl, -⟩ | ⟨-, ht⟩
        · exact h.task_lt t _ hm
        · exact h.task_lt t task ht
    dsimp only
    split
    · exact hf.startTask _
    · rename_i hrep
      refine ⟨hf, ?_⟩
      intro hsync
      obtain ⟨t, task, ht, hp⟩ := h.pending hsync
      -- no `ReportSyncKV` was started, so the response is not an accepted one
      have hnot : ¬ AcceptedBy env s (.buf2Resp taskid inbuffer) t := by
        rintro ⟨m', _, he, hm', hacc⟩
        cases he
        cases hm.symm.trans hm'
        exact hrep ((reported_iff hr).mpr ⟨rfl, hacc⟩)
      by_cases he : t = taskid
      · subst he
        refine ⟨t, .newSync r.header, Function.update_self .., .inr ?_⟩
        rintro (hmem | hmem)
        · rcases hp with rfl | hp
          · cases hm.symm.trans ht
          · exact hp hmem
        · exact hnot hmem
      · refine ⟨t, task, ?_, hp.imp_right fun hp => ?_⟩
        · exact (Function.update_of_ne he ..).trans ht
        · rintro (hmem | hmem)
          · exact hp hmem
          · exact hnot hmem
  all_goals
    cases hs
    have hnone : {t | AcceptedBy env s (.buf2Resp taskid inbuffer) t} = ∅ := by
      ext t
      refine iff_of_false ?_ (Set.notMem_empty t)
      rintro ⟨m, _, he, hm, -⟩
      cases he
      simp_all
    rw [hnone, Set.union_empty]
    exact h

/-- **One clean step** keeps the invariant. -/
theorem SyncInv.step {c c' : Client × Set Nat} {e : Event} (h : SyncInv c.1 c.2)
    (hs : CleanStep env c e c') : SyncInv c'.1 c'.2 := by
  obtain ⟨s, accepted⟩ := c
  obtain ⟨s', accepted'⟩ := c'
  obtain ⟨hstep, rfl, hclean⟩ := hs
  have hnone (he : ∀ taskid inbuffer, e ≠ .buf2Resp taskid inbuffer) :
      {t | AcceptedBy env s e t} = ∅ := by
    ext t
    refine iff_of_false ?_ (Set.notMem_empty t)
    rintro ⟨_, inbuffer, rfl, -⟩
    exact he _ _ rfl
  cases e with
  | newSync =>
      cases hstep
      rw [hnone nofun, Set.union_empty]
      exact h.newSync
  | buf2Resp taskid inbuffer => exact h.buf2Resp hstep
  | onTaskEnd taskid =>
      cases hstep
      rw [hnone nofun, Set.union_empty]
      exact h.onTaskEnd fun m hm => hclean taskid m rfl hm
  | other ids session db =>
      cases hstep
      rw [hnone nofun, Set.union_empty]
      exact ⟨⟨fun t ht => (h.accepted_lt t ht).trans_le (Nat.le_add_right _ _),
        fun t task ht => (h.task_lt t task ht).trans_le (Nat.le_add_right _ _)⟩, h.pending⟩

theorem CleanReachable.syncInv {c : Client × Set Nat} (h : CleanReachable env c) :
    SyncInv c.1 c.2 := by
  refine Reachable.invariant (fun c => SyncInv c.1 c.2) (fun c hc => ?_)
    (fun _ _ _ h hs => h.step hs) h
  obtain ⟨⟨hsync, -, htasks⟩, haccepted⟩ := hc
  refine ⟨⟨fun t ht => ?_, fun t task ht => ?_⟩, fun h => ?_⟩
  · rw [haccepted] at ht
    exact absurd ht (Set.notMem_empty t)
  · rw [htasks t] at ht
    cases ht
  · rw [hsync] at h
    cases h

end

/-- **A sync under way has a task**, in every state of every run in which no `NewSync` task ends
without an accepted response. -/
theorem outstanding_of_clean {env : Env} {c : Client × Set Nat} (h : CleanReachable env c)
    (hsync : c.1.s_bSyncing = true) : Outstanding c.1 := by
  obtain ⟨t, task, ht, -⟩ := h.syncInv.pending hsync
  exact ⟨t, task, ht⟩

/-- The client at its start, before there is a database. -/
def startClient : Client := ⟨false, false, 1, fun _ => none, {}, ⟨none, 0⟩⟩

theorem started_startClient : Started startClient := ⟨rfl, rfl, fun _ => rfl⟩

theorem cleanReachable_newSync (env : Env) : CleanReachable env (newSync startClient, ∅) := by
  have h₀ : CleanReachable env (startClient, ∅) := .start ⟨started_startClient, rfl⟩
  refine Reachable.next (e := .newSync) h₀ ⟨rfl, ?_, nofun⟩
  ext t
  simp [AcceptedBy]

/-- A clean step, with the tasks that have had an accepted response. -/
theorem CleanReachable.andThen {env : Env} {c : Client × Set Nat} {e : Event} {s : Client}
    (h : CleanReachable env c) (hs : step env c.1 e = some s)
    (hclean : ∀ t m, e = .onTaskEnd t → c.1.map_task_ t = some (.newSync m) → t ∈ c.2) :
    CleanReachable env (s, c.2 ∪ {t | AcceptedBy env c.1 e t}) :=
  h.next ⟨hs, rfl, hclean⟩

/-- The client after a login. -/
def loggedIn : Client := { startClient with session := { authInfo := { m_Session := brokenKey } } }

/-- A sync that is answered, and asked for again before it has been reported. -/
theorem outstanding_second_newSync : ∃ s₁ s,
    buf2Resp itemsEnv (newSync loggedIn) 1 (responseOf 53 itemsBody) = some s₁ ∧
      s = onTaskEnd (newSync (onTaskEnd s₁ 1)) 2 ∧ s.s_bSyncing = true ∧ Outstanding s := by
  have hrun : (buf2Resp itemsEnv (newSync loggedIn) 1 (responseOf 53 itemsBody)).map (fun s =>
      ((onTaskEnd (newSync (onTaskEnd s 1)) 2).s_bSyncing,
        ((newSync (onTaskEnd s 1)).map_task_ 2).map CGITask.cmdid_)) =
      some (true, some sendSyncSuccess) := by decide +kernel
  obtain ⟨s₁, hs₁, he⟩ := Option.map_eq_some_iff.mp hrun
  obtain ⟨hsync, hcmdid⟩ := Prod.mk.inj he
  have h₀ : CleanReachable itemsEnv (loggedIn, ∅) := .start ⟨⟨rfl, rfl, fun _ => rfl⟩, rfl⟩
  have h₁ := h₀.andThen (e := .newSync) rfl nofun
  have h₂ := h₁.andThen (e := .buf2Resp 1 (responseOf 53 itemsBody)) hs₁ nofun
  -- the response to the first task has been accepted
  have h₃ := h₂.andThen (e := .onTaskEnd 1) rfl fun t m ht _ => by
    cases ht
    exact .inr ⟨{}, _, rfl, startTask_self .., accepted_itemsText⟩
  have h₄ := h₃.andThen (e := .newSync) rfl nofun
  -- and the second one reports it
  have h₅ := h₄.andThen (e := .onTaskEnd 2) rfl fun t m ht hm => by
    cases ht
    rw [show (newSync (onTaskEnd s₁ 1)).map_task_ 2 = some (.newSync m) from hm] at hcmdid
    cases hcmdid
  exact ⟨s₁, _, hs₁, rfl, hsync, outstanding_of_clean h₅ hsync⟩

/-! ### Getting stuck -/

/-- The flag is set and there is no task that could clear it. -/
def Stuck (s : Client) : Prop := s.s_bSyncing = true ∧ ∀ taskid, s.map_task_ taskid = none

/-- **The end of the only task**, a `NewSync`, with the flag set. -/
theorem stuck_onTaskEnd {s : Client} {taskid : Nat} {m : BaseHeader} (hsync : s.s_bSyncing = true)
    (hm : s.map_task_ taskid = some (.newSync m))
    (honly : ∀ t, t ≠ taskid → s.map_task_ t = none) : Stuck (onTaskEnd s taskid) := by
  rw [onTaskEnd, hm]
  refine ⟨hsync, ?_⟩
  intro t
  by_cases he : t = taskid
  · rw [he]
    exact Function.update_self ..
  · exact (Function.update_of_ne he ..).trans (honly t he)

/-- **Stuck for good**: whatever happens next starts no sync. -/
theorem Stuck.step {env : Env} {s s' : Client} {e : Event} (h : Stuck s)
    (hs : step env s e = some s') : Stuck s' := by
  obtain ⟨hsync, htasks⟩ := h
  cases e with
  | newSync =>
      cases hs
      rw [newSync, isSyncing, if_pos hsync]
      exact ⟨hsync, htasks⟩
  | buf2Resp taskid inbuffer =>
      rw [Sync.step, buf2Resp, htasks taskid] at hs
      cases hs
      exact ⟨hsync, htasks⟩
  | onTaskEnd taskid =>
      cases hs
      rw [onTaskEnd, htasks taskid]
      refine ⟨hsync, ?_⟩
      intro t
      by_cases he : t = taskid
      · rw [he]
        exact Function.update_self ..
      · exact (Function.update_of_ne he ..).trans (htasks t)
  | other ids session db =>
      cases hs
      exact ⟨hsync, htasks⟩

/-- A stuck client never syncs again. -/
theorem Stuck.forever {env : Env} {s s' : Client} (h : Stuck s)
    (hr : Reachable (· = s) (fun s e s' => Sync.step env s e = some s') s') : Stuck s' :=
  hr.invariant Stuck (by rintro _ rfl; exact h) fun _ _ _ h hs => h.step hs

/-- A first sync that fails in the network. -/
theorem not_outstanding : ¬ ∀ (env : Env) (s : Client), ClientReachable env s →
    s.s_bSyncing = true → Outstanding s := by
  intro h
  have h₁ : ClientReachable plainEnv (newSync startClient) :=
    (cleanReachable_newSync plainEnv).reachable
  have h₂ : ClientReachable plainEnv (onTaskEnd (newSync startClient) 1) :=
    Reachable.next (e := .onTaskEnd 1) h₁ rfl
  have hstuck : Stuck (onTaskEnd (newSync startClient) 1) :=
    stuck_onTaskEnd rfl (startTask_self ..) fun t ht => startTask_of_ne ht _
  obtain ⟨t, task, ht⟩ := h plainEnv _ h₂ hstuck.1
  rw [hstuck.2 t] at ht
  cases ht

end MicroChat.Sync
