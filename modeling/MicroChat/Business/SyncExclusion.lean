import Mathlib.Data.Set.Card
import MicroChat.Business.Sync

/-!
# Business — SyncExclusion

At most one sync at a time, under the locks the code takes.  A call of `NewSync` or `OnTaskEnd`, or
a response that starts `ReportSyncKV`, goes through several critical sections, and other threads
run between them; so a step here is one critical section.  A response touches the flags in no
other way than through `ReportSyncKV`, and is dealt with in one step.

* `Flight`, `Section`, `SectionStep`: the client with the calls that are between two sections.
* `Exclusive`: a token, held by one of these calls or by one task, or by nobody.
* `one_sync_in_flight`: what the token gives in every state of every run.
* `flightReachable_of_events`: runs of whole calls, the steps of `Sync.lean`, are such runs.
-/

namespace MicroChat.Sync
open Support

/-! ### Critical sections -/

/-- The client, the calls that are under way and the tasks that `Buf2Resp` has been called for. -/
structure Flight where
  client : Client
  /-- calls that have found no sync under way and are about to start a `NewSync` task -/
  starts : Nat
  /-- responses that have been accepted and are about to start a `ReportSyncKV` task -/
  reports : Nat
  /-- ends of `ReportSyncKV` tasks that are about to call `IsNeedReSync` -/
  checks : Nat
  answered : Set Nat

/-- What is done in one step. -/
inductive Section where
  | isSyncing
  | startNewSync
  | buf2Resp (taskid : Nat) (inbuffer : Bytes)
  | startReportSyncKV
  | endTask (taskid : Nat)
  | isNeedReSync
  | other (ids : Nat) (session : Session) (db : Sql3)

/-- The client once a response has been dealt with, up to the start of `ReportSyncKV`. -/
def received (s : Client) (taskid : Nat) (r : SyncResponse) : Client :=
  { s with
    map_task_ := Function.update s.map_task_ taskid (some (.newSync r.header))
    session := r.session
    db := r.db }

/-- One section.  `Buf2Resp` is called once for a task at most. -/
inductive SectionStep (env : Env) : Flight → Section → Flight → Prop where
  | busy {f : Flight} (h : (isSyncing f.client).1 = true) :
      SectionStep env f .isSyncing { f with client := (isSyncing f.client).2 }
  | idle {f : Flight} (h : (isSyncing f.client).1 = false) :
      SectionStep env f .isSyncing
        { f with client := (isSyncing f.client).2, starts := f.starts + 1 }
  | startNewSync {f : Flight} {n : Nat} (h : f.starts = n + 1) :
      SectionStep env f .startNewSync
        { f with client := startTask f.client (.newSync {}), starts := n }
  | answered {f : Flight} {taskid : Nat} {inbuffer : Bytes} {m : BaseHeader} {r : SyncResponse}
      (hnew : taskid ∉ f.answered) (hm : f.client.map_task_ taskid = some (.newSync m))
      (hr : newSyncBuf2Resp env f.client.session m f.client.db inbuffer = some r) :
      SectionStep env f (.buf2Resp taskid inbuffer)
        { f with
          client := received f.client taskid r
          reports := f.reports + r.reported.toNat
          answered := insert taskid f.answered }
  | reportAnswered {f : Flight} {taskid : Nat} {inbuffer : Bytes}
      (hnew : taskid ∉ f.answered) (hm : f.client.map_task_ taskid = some .reportSyncKV) :
      SectionStep env f (.buf2Resp taskid inbuffer) { f with answered := insert taskid f.answered }
  | startReportSyncKV {f : Flight} {n : Nat} (h : f.reports = n + 1) :
      SectionStep env f .startReportSyncKV
        { f with client := startTask f.client .reportSyncKV, reports := n }
  | endTask {f : Flight} {taskid : Nat} {task : CGITask}
      (h : f.client.map_task_ taskid = some task) :
      SectionStep env f (.endTask taskid)
        { f with
          client := { f.client with map_task_ := Function.update f.client.map_task_ taskid none }
          checks := f.checks + if sendSyncSuccess = task.cmdid_ then 1 else 0 }
  | noReSync {f : Flight} {n : Nat} (h : f.checks = n + 1)
      (hn : (isNeedReSync f.client).1 = false) :
      SectionStep env f .isNeedReSync { f with client := (isNeedReSync f.client).2, checks := n }
  | reSync {f : Flight} {n : Nat} (h : f.checks = n + 1)
      (hn : (isNeedReSync f.client).1 = true) :
      SectionStep env f .isNeedReSync
        { f with client := (isNeedReSync f.client).2, checks := n, starts := f.starts + 1 }
  | other {f : Flight} (ids : Nat) (session : Session) (db : Sql3) :
      SectionStep env f (.other ids session db)
        { f with
          client := { f.client with gs_taskid := f.client.gs_taskid + ids, session, db } }

/-- A client at its start, with no call under way. -/
def Flight.Start (f : Flight) : Prop :=
  Started f.client ∧ f.starts = 0 ∧ f.reports = 0 ∧ f.checks = 0 ∧ f.answered = ∅

/-- The states of the runs of sections. -/
def FlightReachable (env : Env) : Flight → Prop := Reachable Flight.Start (SectionStep env)

/-- The `NewSync` tasks that still await an answer. -/
def Flight.awaiting (f : Flight) : Set Nat :=
  {t | ∃ m, f.client.map_task_ t = some (.newSync m) ∧ t ∉ f.answered}

/-- The outstanding `ReportSyncKV` tasks. -/
def Flight.reporting (f : Flight) : Set Nat := {t | f.client.map_task_ t = some .reportSyncKV}

/-- The two together. -/
def Flight.inFlight (f : Flight) : Set Nat := f.awaiting ∪ f.reporting

/-- The calls that are under way. -/
def Flight.calls (f : Flight) : Nat := f.starts + f.reports + f.checks

/-! ### The token -/

/-- One task is in flight, or one call under way, or nothing; and `s_bSyncing` says so. -/
structure Exclusive (f : Flight) : Prop where
  task_lt : ∀ t task, f.client.map_task_ t = some task → t < f.client.gs_taskid
  answered_lt : ∀ t ∈ f.answered, t < f.client.gs_taskid
  calls_le : f.calls ≤ 1
  inFlight_eq : 0 < f.calls → f.inFlight = ∅
  subsingleton : f.inFlight.Subsingleton
  syncing_of_call : 0 < f.calls → f.client.s_bSyncing = true
  syncing_of_task : f.inFlight.Nonempty → f.client.s_bSyncing = true
  syncing_of_need : f.client.s_bNeedReSync = true → f.client.s_bSyncing = true

section
variable {env : Env} {f f' : Flight}

/-- With no sync under way nobody holds the token. -/
theorem Exclusive.free (h : Exclusive f) (hs : f.client.s_bSyncing = false) :
    f.calls = 0 ∧ f.inFlight = ∅ := by
  constructor
  · by_contra hne
    rw [h.syncing_of_call (Nat.pos_of_ne_zero hne)] at hs
    cases hs
  · by_contra hne
    rw [h.syncing_of_task (Set.nonempty_iff_ne_empty.mpr hne)] at hs
    cases hs

/-- A task in flight holds the only token. -/
theorem Exclusive.alone (h : Exclusive f) {taskid : Nat} (hmem : taskid ∈ f.inFlight) :
    f.calls = 0 ∧ ∀ t ∈ f.inFlight, t = taskid := by
  refine ⟨?_, fun t ht => h.subsingleton ht hmem⟩
  by_contra hne
  rw [h.inFlight_eq (Nat.pos_of_ne_zero hne)] at hmem
  exact hmem

/-- A section that gives no token away: the flags, the ids and the calls stay, and no task gets
into flight. -/
theorem Exclusive.mono (h : Exclusive f) (hflag : f'.client.s_bSyncing = f.client.s_bSyncing)
    (hneed : f'.client.s_bNeedReSync = true → f.client.s_bSyncing = true)
    (hcalls : f'.calls = f.calls) (hsub : f'.inFlight ⊆ f.inFlight)
    (htask : ∀ t task, f'.client.map_task_ t = some task → t < f'.client.gs_taskid)
    (hans : ∀ t ∈ f'.answered, t < f'.client.gs_taskid) : Exclusive f' where
  task_lt := htask
  answered_lt := hans
  calls_le := hcalls ▸ h.calls_le
  inFlight_eq hpos := Set.subset_empty_iff.mp (h.inFlight_eq (hcalls ▸ hpos) ▸ hsub)
  subsingleton := h.subsingleton.anti hsub
  syncing_of_call hpos := hflag ▸ h.syncing_of_call (hcalls ▸ hpos)
  syncing_of_task hne := hflag ▸ h.syncing_of_task (hne.mono hsub)
  syncing_of_need hn := hflag ▸ hneed hn

/-- The token in the hand of the only call. -/
theorem Exclusive.of_call (hflag : f.client.s_bSyncing = true) (hcalls : f.calls ≤ 1)
    (hnone : f.inFlight = ∅)
    (htask : ∀ t task, f.client.map_task_ t = some task → t < f.client.gs_taskid)
    (hans : ∀ t ∈ f.answered, t < f.client.gs_taskid) : Exclusive f where
  task_lt := htask
  answered_lt := hans
  calls_le := hcalls
  inFlight_eq _ := hnone
  subsingleton := hnone ▸ Set.subsingleton_empty
  syncing_of_call _ := hflag
  syncing_of_task _ := hflag
  syncing_of_need _ := hflag

/-- A call hands the token to the task it starts. -/
theorem Exclusive.startTask (h : Exclusive f) {task : CGITask} (hpos : f.calls = 1)
    (hclient : f'.client = startTask f.client task) (hans : f'.answered = f.answered)
    (hcalls : f'.calls = 0) : Exclusive f' := by
  have hempty := h.inFlight_eq (by omega)
  have hsync := h.syncing_of_call (by omega)
  have hflag : f'.client.s_bSyncing = true := by
    rw [hclient]
    exact hsync
  have hsub : f'.inFlight ⊆ {f.client.gs_taskid} := by
    intro t ht
    by_contra hne
    have hmap : f'.client.map_task_ t = f.client.map_task_ t := by
      rw [hclient]
      exact startTask_of_ne hne task
    have : t ∈ f.inFlight := by
      change (∃ m, f'.client.map_task_ t = some (.newSync m) ∧ t ∉ f'.answered) ∨
        f'.client.map_task_ t = some .reportSyncKV at ht
      rwa [hmap, hans] at ht
    rw [hempty] at this
    exact this
  refine ⟨fun t task' ht => ?_, fun t ht => ?_, by omega, fun hlt => absurd hlt (by omega),
    Set.subsingleton_singleton.anti hsub, fun _ => hflag, fun _ => hflag, fun _ => hflag⟩
  · rw [hclient] at ht ⊢
    by_cases he : t = f.client.gs_taskid
    · rw [he]
      exact Nat.lt_succ_self _
    · rw [startTask_of_ne he] at ht
      exact (h.task_lt t task' ht).trans (Nat.lt_succ_self _)
  · rw [hclient]
    exact (h.answered_lt t (hans ▸ ht)).trans (Nat.lt_succ_self _)

/-- A response: the task that awaited it hands the token to the report, if there is one. -/
theorem Exclusive.answered (h : Exclusive f) {taskid : Nat} {m : BaseHeader}
    (hnew : taskid ∉ f.answered) (hm : f.client.map_task_ taskid = some (.newSync m))
    (r : SyncResponse) :
    Exclusive { f with
      client := received f.client taskid r
      reports := f.reports + r.reported.toNat
      answered := insert taskid f.answered } := by
  have hmem : taskid ∈ f.inFlight := .inl ⟨m, hm, hnew⟩
  have heq : f.calls = f.starts + f.reports + f.checks := rfl
  obtain ⟨hzero, honly⟩ := h.alone hmem
  refine .of_call (h.syncing_of_task ⟨taskid, hmem⟩) ?_ ?_ ?_ ?_
  · change f.starts + (f.reports + r.reported.toNat) + f.checks ≤ 1
    have := r.reported.toNat_le
    omega
  · refine Set.eq_empty_of_forall_notMem ?_
    intro t ht
    -- the task that was answered was the only one in flight
    rcases ht with ⟨m', hm', hnot⟩ | hrep
    · rcases of_update_eq_some hm' with ⟨rfl, -⟩ | ⟨he, hold⟩
      · exact hnot (Set.mem_insert t _)
      · exact he (honly t (.inl ⟨m', hold, fun hmem => hnot (Set.mem_insert_of_mem _ hmem)⟩))
    · rcases of_update_eq_some hrep with ⟨-, hnew⟩ | ⟨he, hold⟩
      · cases hnew
      · exact he (honly t (.inr hold))
  · intro t task ht
    rcases of_update_eq_some ht with ⟨rfl, -⟩ | ⟨-, ht⟩
    · exact h.task_lt _ _ hm
    · exact h.task_lt t task ht
  · rintro t (rfl | ht)
    · exact h.task_lt _ _ hm
    · exact h.answered_lt t ht

/-- A task that has ended is in flight no more, and no other gets there. -/
theorem of_inFlight_endTask {taskid checks : Nat} {t : Nat}
    (ht : t ∈ Flight.inFlight { f with
      client := { f.client with map_task_ := Function.update f.client.map_task_ taskid none }
      checks }) : t ≠ taskid ∧ t ∈ f.inFlight := by
  rcases ht with ⟨m, hm, hnot⟩ | hrep
  · obtain ⟨hne, hold⟩ := of_erase_eq_some hm
    exact ⟨hne, .inl ⟨m, hold, hnot⟩⟩
  · obtain ⟨hne, hold⟩ := of_erase_eq_some hrep
    exact ⟨hne, .inr hold⟩

/-- The end of a task: one that reported hands the token to the call that ends it. -/
theorem Exclusive.endTask (h : Exclusive f) {taskid : Nat} {task : CGITask}
    (htask : f.client.map_task_ taskid = some task) :
    Exclusive { f with
      client := { f.client with map_task_ := Function.update f.client.map_task_ taskid none }
      checks := f.checks + if sendSyncSuccess = task.cmdid_ then 1 else 0 } := by
  have heq : f.calls = f.starts + f.reports + f.checks := rfl
  cases task with
  | newSync m =>
      exact h.mono rfl h.syncing_of_need rfl (fun t ht => (of_inFlight_endTask ht).2)
        (fun t task ht => h.task_lt t task (of_erase_eq_some ht).2) h.answered_lt
  | reportSyncKV =>
      have hmem : taskid ∈ f.inFlight := .inr htask
      obtain ⟨hzero, honly⟩ := h.alone hmem
      refine .of_call (h.syncing_of_task ⟨taskid, hmem⟩) ?_ ?_ ?_ h.answered_lt
      · change f.starts + f.reports + (f.checks + 1) ≤ 1
        omega
      · refine Set.eq_empty_of_forall_notMem ?_
        intro t ht
        obtain ⟨hne, hold⟩ := of_inFlight_endTask ht
        exact hne (honly t hold)
      · exact fun t task ht => h.task_lt t task (of_erase_eq_some ht).2

/-- **One section** keeps the invariant. -/
theorem Exclusive.step {e : Section} (h : Exclusive f) (hs : SectionStep env f e f') :
    Exclusive f' := by
  have hcalls := h.calls_le
  have heq : f.calls = f.starts + f.reports + f.checks := rfl
  cases hs with
  | busy hb =>
      obtain ⟨hsync, hclient⟩ := of_isSyncing hb
      rw [hclient]
      exact h.mono rfl (fun _ => hsync) rfl subset_rfl h.task_lt h.answered_lt
  | idle hb =>
      obtain ⟨hsync, hclient⟩ := of_not_isSyncing hb
      obtain ⟨hzero, hnone⟩ := h.free hsync
      rw [hclient]
      refine .of_call rfl ?_ hnone h.task_lt h.answered_lt
      change f.starts + 1 + f.reports + f.checks ≤ 1
      omega
  | @startNewSync n hn =>
      refine h.startTask (by omega) rfl rfl ?_
      change n + f.reports + f.checks = 0
      omega
  | @startReportSyncKV n hn =>
      refine h.startTask (by omega) rfl rfl ?_
      change f.starts + n + f.checks = 0
      omega
  | answered hnew hm _ => exact h.answered hnew hm _
  | @reportAnswered taskid inbuffer hnew hm =>
      refine h.mono rfl h.syncing_of_need rfl ?_ h.task_lt ?_
      · rintro t (⟨m, hm, hnot⟩ | hrep)
        · exact .inl ⟨m, hm, fun hmem => hnot (Set.mem_insert_of_mem _ hmem)⟩
        · exact .inr hrep
      · rintro t (rfl | ht)
        · exact h.task_lt _ _ hm
        · exact h.answered_lt t ht
  | endTask htask => exact h.endTask htask
  | @noReSync n hn hneed =>
      have hnone := h.inFlight_eq (by omega)
      rw [(of_not_isNeedReSync hneed).2]
      have hzero : ¬ 0 < f.starts + f.reports + n := by omega
      exact ⟨h.task_lt, h.answered_lt, by change f.starts + f.reports + n ≤ 1; omega,
        fun hpos => absurd hpos hzero, hnone ▸ Set.subsingleton_empty,
        fun hpos => absurd hpos hzero, fun hne => absurd hnone hne.ne_empty,
        fun hneed => absurd hneed Bool.false_ne_true⟩
  | @reSync n hn hneed =>
      rw [(of_isNeedReSync hneed).2]
      refine .of_call rfl ?_ (h.inFlight_eq (by omega)) h.task_lt h.answered_lt
      change f.starts + 1 + f.reports + n ≤ 1
      omega
  | other ids session db =>
      exact h.mono rfl h.syncing_of_need rfl subset_rfl
        (fun t task ht => (h.task_lt t task ht).trans_le (Nat.le_add_right _ _))
        fun t ht => (h.answered_lt t ht).trans_le (Nat.le_add_right _ _)

theorem FlightReachable.exclusive (h : FlightReachable env f) : Exclusive f := by
  refine Reachable.invariant Exclusive (fun f hf => ?_) (fun _ _ _ h hs => h.step hs) h
  obtain ⟨⟨hsync, hneed, htasks⟩, h₁, h₂, h₃, hans⟩ := hf
  have hcalls : f.calls = 0 := by
    rw [Flight.calls, h₁, h₂, h₃]
  have hnone : f.inFlight = ∅ := Set.eq_empty_of_forall_notMem fun t ht => by
    rcases ht with ⟨m, hm, -⟩ | hrep
    · cases (htasks t).symm.trans hm
    · cases (htasks t).symm.trans hrep
  refine ⟨fun t task ht => ?_, fun t ht => ?_, by omega, fun hpos => absurd hpos (by omega),
    hnone ▸ Set.subsingleton_empty, fun hpos => absurd hpos (by omega),
    fun hne => absurd hnone hne.ne_empty, fun hn => ?_⟩
  · cases (htasks t).symm.trans ht
  · rw [hans] at ht
    exact absurd ht (Set.notMem_empty t)
  · cases hneed.symm.trans hn

end

/-- **At most one sync is in flight**, in every state of every run, between any two critical
sections: the `NewSync` tasks without an answer and the `ReportSyncKV` tasks are one at most, and
while there is one, or a sync is asked for again, `s_bSyncing` is set. -/
theorem one_sync_in_flight {env : Env} {f : Flight} (h : FlightReachable env f) :
    f.awaiting.encard + f.reporting.encard ≤ 1 ∧
      (∀ t ∈ f.awaiting ∪ f.reporting, f.client.s_bSyncing = true) ∧
      (f.client.s_bNeedReSync = true → f.client.s_bSyncing = true) := by
  have hE := h.exclusive
  have hdisj : Disjoint f.awaiting f.reporting := by
    rw [Set.disjoint_left]
    rintro t ⟨m, hm, -⟩ hrep
    cases hm.symm.trans hrep
  refine ⟨?_, fun t ht => hE.syncing_of_task ⟨t, ht⟩, hE.syncing_of_need⟩
  rw [← Set.encard_union_eq hdisj]
  exact Set.encard_le_one_iff_subsingleton.mpr hE.subsingleton

/-! ### Whole calls -/

/-- A step of `Sync.lean`, with the tasks `Buf2Resp` has been called for: none of them twice. -/
def AnswerStep (env : Env) (c : Client × Set Nat) (e : Event) (c' : Client × Set Nat) : Prop :=
  step env c.1 e = some c'.1 ∧ c'.2 = c.2 ∪ {t | ∃ inbuffer, e = .buf2Resp t inbuffer} ∧
    ∀ t inbuffer, e = .buf2Resp t inbuffer → t ∉ c.2 ∧ c.1.map_task_ t ≠ none

/-- No call is under way. -/
def Flight.between (c : Client × Set Nat) : Flight := ⟨c.1, 0, 0, 0, c.2⟩

section
variable {env : Env}

/-- A call of `NewSync` is one section or two. -/
theorem FlightReachable.newSync {s : Client} {answered : Set Nat}
    (h : FlightReachable env (.between (s, answered))) :
    FlightReachable env (.between (newSync s, answered)) := by
  have hcall : Sync.newSync s = if (isSyncing s).1 then (isSyncing s).2
      else startTask (isSyncing s).2 (.newSync {}) := by
    rw [Sync.newSync]
    rcases isSyncing s with ⟨_ | _, _⟩ <;> rfl
  rw [hcall]
  split
  · exact h.next (.busy ‹_›)
  · exact (h.next (.idle (Bool.eq_false_of_not_eq_true ‹_›))).next (.startNewSync rfl)

/-- The end of a task is one section, two or three. -/
theorem FlightReachable.onTaskEnd {s : Client} {answered : Set Nat} (taskid : Nat)
    (h : FlightReachable env (.between (s, answered))) :
    FlightReachable env (.between (onTaskEnd s taskid, answered)) := by
  rw [Sync.onTaskEnd]
  cases ht : s.map_task_ taskid with
  | none =>
      have hs : { s with map_task_ := Function.update s.map_task_ taskid none } = s := by
        rw [← ht, Function.update_eq_self]
      exact hs.symm ▸ h
  | some task =>
      have h₁ := h.next (.endTask ht)
      cases task with
      | newSync m => exact h₁
      | reportSyncKV =>
          dsimp only
          cases hn : (isNeedReSync
            { s with map_task_ := Function.update s.map_task_ taskid none }).1 with
          | false => exact h₁.next (.noReSync rfl hn)
          | true => exact (h₁.next (.reSync rfl hn)).next (.startNewSync rfl)

/-- A response is one section or two. -/
theorem FlightReachable.buf2Resp {s s' : Client} {answered : Set Nat} {taskid : Nat}
    {inbuffer : Bytes} (h : FlightReachable env (.between (s, answered)))
    (hs : buf2Resp env s taskid inbuffer = some s') (hnew : taskid ∉ answered)
    (hmap : s.map_task_ taskid ≠ none) :
    FlightReachable env (.between (s', insert taskid answered)) := by
  rw [Sync.buf2Resp] at hs
  split at hs
  case h_1 m hm =>
    obtain ⟨r, hr, rfl⟩ := Option.map_eq_some_iff.mp hs
    have h₁ := h.next (.answered hnew hm hr)
    dsimp only
    cases hrep : r.reported with
    | true =>
        rw [hrep] at h₁
        exact h₁.next (.startReportSyncKV rfl)
    | false =>
        rw [hrep] at h₁
        exact h₁
  case h_2 hm =>
    cases hs
    exact h.next (@SectionStep.reportAnswered env _ taskid inbuffer hnew hm)
  case h_3 hm => exact absurd hm hmap

end

/-- **Runs of whole calls** come through states of runs of sections. -/
theorem flightReachable_of_events {env : Env} {c : Client × Set Nat}
    (h : Reachable (fun c => Started c.1 ∧ c.2 = ∅) (AnswerStep env) c) :
    FlightReachable env (.between c) := by
  induction h with
  | start h => exact .start ⟨h.1, rfl, rfl, rfl, h.2⟩
  | @next c c' e _ hs ih =>
      obtain ⟨s, answered⟩ := c
      obtain ⟨s', answered'⟩ := c'
      obtain ⟨hstep, hans, hnew⟩ := hs
      dsimp only at hstep hans hnew
      have hnone (he : ∀ t inbuffer, e ≠ .buf2Resp t inbuffer) : answered' = answered := by
        rw [hans, Set.union_eq_left]
        rintro t ⟨inbuffer, rfl⟩
        exact absurd rfl (he t inbuffer)
      cases e with
      | newSync =>
          cases hstep
          rw [hnone nofun]
          exact ih.newSync
      | buf2Resp taskid inbuffer =>
          obtain ⟨hn, hm⟩ := hnew _ _ rfl
          have hone : {t | ∃ b, Event.buf2Resp taskid inbuffer = .buf2Resp t b} = {taskid} := by
            ext t
            refine ⟨fun ⟨_, he⟩ => (by cases he; rfl), fun ht => ⟨inbuffer, ?_⟩⟩
            rw [Set.mem_singleton_iff.mp ht]
          rw [hans, hone, Set.union_singleton]
          exact ih.buf2Resp hstep hn hm
      | onTaskEnd taskid =>
          cases hstep
          rw [hnone nofun]
          exact ih.onTaskEnd taskid
      | other ids session db =>
          cases hstep
          rw [hnone nofun]
          exact ih.next (.other ids session db)

/-- The first sync, which has been answered and handed over to the task that reports it. -/
theorem one_sync_in_flight_reporting : ∃ s,
    buf2Resp itemsEnv (newSync loggedIn) 1 (responseOf 53 itemsBody) = some s ∧
      2 ∈ (Flight.between (s, insert 1 ∅)).reporting ∧
      (Flight.between (s, insert 1 ∅)).awaiting.encard +
        (Flight.between (s, insert 1 ∅)).reporting.encard ≤ 1 ∧ s.s_bSyncing = true := by
  have hrun : (buf2Resp itemsEnv (newSync loggedIn) 1 (responseOf 53 itemsBody)).map (fun s =>
      (s.map_task_ 2).map CGITask.cmdid_) = some (some sendSyncSuccess) := by decide +kernel
  obtain ⟨s, hs, hcmdid⟩ := Option.map_eq_some_iff.mp hrun
  obtain ⟨task, ht, hcmdid⟩ := Option.map_eq_some_iff.mp hcmdid
  have hreporting : s.map_task_ 2 = some .reportSyncKV := by
    cases task with
    | newSync m => cases hcmdid
    | reportSyncKV => exact ht
  have hstart : FlightReachable itemsEnv (.between (loggedIn, ∅)) :=
    .start ⟨⟨rfl, rfl, fun _ => rfl⟩, rfl, rfl, rfl, rfl⟩
  have hreach := hstart.newSync.buf2Resp hs (Set.notMem_empty 1) (by decide)
  obtain ⟨hone, hflag, -⟩ := one_sync_in_flight hreach
  exact ⟨s, hs, hreporting, hone, hflag 2 (.inr hreporting)⟩

end MicroChat.Sync
