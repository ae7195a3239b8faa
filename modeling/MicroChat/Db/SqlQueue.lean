import Mathlib.Data.Set.Insert
import MicroChat.Db.CodePage
import MicroChat.Support.Runs

/-!
# Db — SqlQueue

The queue of statements of `MicroChatSDK/db/sql.cpp`: threads that queue statements with
`Sql3::ExecSQL(LPCTSTR)` or switch databases with `Init` and `Close`, and the thread of
`ExecSQLThread` that executes the statements.  A step is what one thread does between two points
where others can get in: a section under a lock, or an access to `m_pDB` without one.

* `SqlQueue`, `Call`, `Worker`, `QueueStep`: the system; each statement carries the database that
  was open when it was accepted, which no step looks at.
* `OwnDatabase`: the statements executed on a database are those accepted for it.
* `QuietStep`: the steps that open a database only while nothing is left of the one before.
* `ownDatabase_of_quiet`: in their runs every statement goes to its own database.
-/

namespace MicroChat
open Support Support.Utf16

/-! ### The threads -/

/-- A connection to a database file: its number among all that were opened, and the file. -/
structure Connection where
  number : Nat
  strDbNameUtf8 : Bytes
  deriving DecidableEq

/-- A statement, with the connection it was accepted for. -/
abbrev Queued := Connection × Wide

/-- Where a thread is in its call of `ExecSQL`, `Close` or `Init`; `init` is the file that `Init`
is to open once it is through with `Close`. -/
inductive Call where
  | idle
  /-- `ExecSQL` has found a database open -/
  | queueing (e : Queued)
  /-- `Close` has found a database open, and has committed -/
  | closing (init : Option Bytes)
  /-- behind `sqlite3_close(m_pDB)` -/
  | closed (init : Option Bytes)
  /-- behind `m_pDB = NULL` -/
  | nulled (init : Option Bytes)
  /-- `Init` behind `Close` -/
  | naming (strDbNameUtf8 : Bytes)
  | opening
  /-- `sqlite3_open_v2` behind `*ppDb = 0` -/
  | connecting (strDbNameUtf8 : Bytes)

/-- What a call does behind `Close`. -/
def Call.behindClose : Option Bytes → Call
  | none => .idle
  | some strDbNameUtf8 => .naming strDbNameUtf8

/-- `Close` is between closing the database and clearing the queue. -/
inductive Call.Clearing : Call → Prop where
  | closed (init : Option Bytes) : Clearing (.closed init)
  | nulled (init : Option Bytes) : Clearing (.nulled init)

/-- A call is about neither to queue a statement nor to clear the queue. -/
structure Call.Passive (c : Call) : Prop where
  queueing : ∀ e, c ≠ .queueing e
  clearing : ¬ c.Clearing

namespace Call.Passive

theorem idle : Passive .idle where
  queueing _ he := by cases he
  clearing hc := by cases hc

theorem closing (init : Option Bytes) : Passive (.closing init) where
  queueing _ he := by cases he
  clearing hc := by cases hc

theorem naming (strDbNameUtf8 : Bytes) : Passive (.naming strDbNameUtf8) where
  queueing _ he := by cases he
  clearing hc := by cases hc

theorem opening : Passive .opening where
  queueing _ he := by cases he
  clearing hc := by cases hc

theorem connecting (strDbNameUtf8 : Bytes) : Passive (.connecting strDbNameUtf8) where
  queueing _ he := by cases he
  clearing hc := by cases hc

theorem behindClose (init : Option Bytes) : Passive (.behindClose init) := by
  cases init with
  | none => exact .idle
  | some strDbNameUtf8 => exact .naming strDbNameUtf8

end Call.Passive

/-- Where `ExecSQLThread` is. -/
inductive Worker where
  /-- without `m_cs_sql` -/
  | outside
  /-- with `m_cs_sql`, before the next round of the inner loop -/
  | inside (bNeedCommit : Bool)
  /-- with a statement, before `if (!m_pDB)` in `ExecSQL` -/
  | taken (bNeedCommit : Bool) (e : Queued)
  /-- before `sqlite3_exec` -/
  | tested (bNeedCommit : Bool) (e : Queued)
  /-- behind `ExecSQL` -/
  | executed (bNeedCommit : Bool)

/-- The statement the thread has taken out of the queue. -/
def Worker.held : Worker → List Queued
  | taken _ e | tested _ e => [e]
  | outside | inside _ | executed _ => []

/-- Whether the thread holds `m_cs_sql`. -/
def Worker.locks : Worker → Bool
  | inside _ => true
  | outside | taken _ _ | tested _ _ | executed _ => false

/-- The object, its threads `τ`, and what has come of the statements so far. -/
structure SqlQueue (τ : Type) where
  m_pDB : Option Connection
  m_strDbNameUtf8 : Bytes
  m_SqlList : List Queued
  worker : Worker
  call : τ → Call
  /-- the connections that have been opened and not closed -/
  opened : Set Connection
  openings : Nat
  /-- the statements that got into the queue, in order -/
  accepted : List Queued
  /-- the statements that were executed, in order, with the connection they were executed on -/
  executed : List Queued

/-- What is done in one step. -/
inductive QueueEvent (τ : Type) where
  | accept (t : τ) (strSql : Wide)
  | push (t : τ)
  /-- `Close`, or `Init` of a file -/
  | close (t : τ) (init : Option Bytes)
  | sqlite3Close (t : τ)
  | setNull (t : τ)
  | clear (t : τ)
  | setName (t : τ)
  /-- `sqlite3_open_v2`, which begins with `*ppDb = 0` -/
  | openV2 (t : τ)
  /-- what it leaves: a connection, or a null pointer when there is no memory -/
  | connect (t : τ) (connected : Bool)
  | lock
  /-- the front of the queue, `Begin` before it if that is needed and whether it succeeds -/
  | take (began : Bool)
  | test
  | exec
  | unlock

/-- The two steps of `sqlite3_open_v2`. -/
inductive QueueEvent.Opening {τ : Type} : QueueEvent τ → Prop where
  | openV2 (t : τ) : Opening (.openV2 t)
  | connect (t : τ) (connected : Bool) : Opening (.connect t connected)

section
variable {τ : Type} [DecidableEq τ]

/-- The thread has gone on. -/
def SqlQueue.goto (s : SqlQueue τ) (t : τ) (call : Call) : SqlQueue τ :=
  { s with call := Function.update s.call t call }

/-- One step.  Calls that return at once change nothing; nothing is known of what becomes of a
connection that is used when it has been closed. -/
inductive QueueStep : SqlQueue τ → QueueEvent τ → SqlQueue τ → Prop where
  | accept {s : SqlQueue τ} {t : τ} {strSql : Wide} {db : Connection} (ht : s.call t = .idle)
      (hdb : s.m_pDB = some db) :
      QueueStep s (.accept t strSql) (s.goto t (.queueing (db, strSql)))
  | push {s : SqlQueue τ} {t : τ} {e : Queued} (ht : s.call t = .queueing e)
      (hlock : s.worker.locks = false) :
      QueueStep s (.push t)
        { s.goto t .idle with m_SqlList := s.m_SqlList ++ [e], accepted := s.accepted ++ [e] }
  | closeNothing {s : SqlQueue τ} {t : τ} {init : Option Bytes} (ht : s.call t = .idle)
      (hdb : s.m_pDB = none) : QueueStep s (.close t init) (s.goto t (.behindClose init))
  | close {s : SqlQueue τ} {t : τ} {init : Option Bytes} (ht : s.call t = .idle)
      (hdb : s.m_pDB.isSome) : QueueStep s (.close t init) (s.goto t (.closing init))
  | sqlite3Close {s : SqlQueue τ} {t : τ} {init : Option Bytes} (ht : s.call t = .closing init)
      (hdb : ∀ db ∈ s.m_pDB, db ∈ s.opened) :
      QueueStep s (.sqlite3Close t)
        { s.goto t (.closed init) with opened := {db ∈ s.opened | db ∉ s.m_pDB} }
  | setNull {s : SqlQueue τ} {t : τ} {init : Option Bytes} (ht : s.call t = .closed init) :
      QueueStep s (.setNull t) { s.goto t (.nulled init) with m_pDB := none, m_strDbNameUtf8 := [] }
  | clear {s : SqlQueue τ} {t : τ} {init : Option Bytes} (ht : s.call t = .nulled init)
      (hlock : s.worker.locks = false) :
      QueueStep s (.clear t) { s.goto t (.behindClose init) with m_SqlList := [] }
  | setName {s : SqlQueue τ} {t : τ} {strDbNameUtf8 : Bytes}
      (ht : s.call t = .naming strDbNameUtf8) :
      QueueStep s (.setName t) { s.goto t .opening with m_strDbNameUtf8 := strDbNameUtf8 }
  | openV2 {s : SqlQueue τ} {t : τ} (ht : s.call t = .opening) :
      QueueStep s (.openV2 t) { s.goto t (.connecting s.m_strDbNameUtf8) with m_pDB := none }
  | connected {s : SqlQueue τ} {t : τ} {strDbNameUtf8 : Bytes}
      (ht : s.call t = .connecting strDbNameUtf8) :
      QueueStep s (.connect t true)
        { s.goto t .idle with
          m_pDB := some ⟨s.openings, strDbNameUtf8⟩
          opened := insert ⟨s.openings, strDbNameUtf8⟩ s.opened
          openings := s.openings + 1 }
  | notConnected {s : SqlQueue τ} {t : τ} {strDbNameUtf8 : Bytes}
      (ht : s.call t = .connecting strDbNameUtf8) :
      QueueStep s (.connect t false) { s.goto t .idle with m_pDB := none }
  | lock {s : SqlQueue τ} (hw : s.worker = .outside) :
      QueueStep s .lock { s with worker := .inside false }
  | take {s : SqlQueue τ} {b began : Bool} {e : Queued} {rest : List Queued}
      (hw : s.worker = .inside b) (hlist : s.m_SqlList = e :: rest)
      (hbegan : began = true → b = false ∧ s.m_pDB.isSome) :
      QueueStep s (.take began) { s with worker := .taken (b || began) e, m_SqlList := rest }
  | dropped {s : SqlQueue τ} {b : Bool} {e : Queued} (hw : s.worker = .taken b e)
      (hdb : s.m_pDB = none) : QueueStep s .test { s with worker := .executed b }
  | test {s : SqlQueue τ} {b : Bool} {e : Queued} (hw : s.worker = .taken b e)
      (hdb : s.m_pDB.isSome) : QueueStep s .test { s with worker := .tested b e }
  | misused {s : SqlQueue τ} {b : Bool} {e : Queued} (hw : s.worker = .tested b e)
      (hdb : s.m_pDB = none) : QueueStep s .exec { s with worker := .executed b }
  | exec {s : SqlQueue τ} {b : Bool} {e : Queued} {db : Connection} (hw : s.worker = .tested b e)
      (hdb : s.m_pDB = some db) (hopen : db ∈ s.opened) :
      QueueStep s .exec
        { s with worker := .executed b, executed := s.executed ++ [(db, e.2)] }
  | relock {s : SqlQueue τ} {b : Bool} (hw : s.worker = .executed b) :
      QueueStep s .lock { s with worker := .inside b }
  | unlock {s : SqlQueue τ} {b : Bool} (hw : s.worker = .inside b) (hlist : s.m_SqlList = []) :
      QueueStep s .unlock { s with worker := .outside }

/-- `Sql3()`: no database, no statement, and no call under way. -/
def SqlQueue.Start (s : SqlQueue τ) : Prop :=
  s.m_pDB = none ∧ s.m_SqlList = [] ∧ s.worker = .outside ∧ (∀ t, s.call t = .idle) ∧
    s.opened = ∅ ∧ s.accepted = [] ∧ s.executed = []

/-- The states of all runs. -/
def QueueReachable : SqlQueue τ → Prop := Reachable SqlQueue.Start QueueStep

/-- The statements that are still to be executed. -/
def SqlQueue.pending (s : SqlQueue τ) : List Queued := s.worker.held ++ s.m_SqlList

/-- The statements executed on each database are some of those accepted for it, in order and each
once; and of one that has not been closed all have been executed, but those still to be. -/
structure OwnDatabase (s : SqlQueue τ) : Prop where
  inOrder : ∀ db, (s.executed.filter (·.1 = db)).Sublist (s.accepted.filter (·.1 = db))
  noneMissing : ∀ db ∈ s.opened,
    s.accepted.filter (·.1 = db) = (s.executed ++ s.pending).filter (·.1 = db)

/-- Nothing is left of the database before: no statement, no call that is about to queue one, and
no call that is about to clear the queue. -/
structure Quiet (s : SqlQueue τ) : Prop where
  pending : s.pending = []
  queueing : ∀ t e, s.call t ≠ .queueing e
  clearing : ∀ t, ¬ (s.call t).Clearing

/-- The steps that open a database only then. -/
def QuietStep (s : SqlQueue τ) (e : QueueEvent τ) (s' : SqlQueue τ) : Prop :=
  QueueStep s e s' ∧ (e.Opening → Quiet s)

/-- The states of their runs. -/
def QuietReachable : SqlQueue τ → Prop := Reachable SqlQueue.Start QuietStep

end

/-! ### The invariant -/

section
variable {τ : Type} {s s' : SqlQueue τ}

/-- A statement accepted for the connection is in the queue, with the thread, or about to be
queued. -/
def SqlQueue.Waiting (s : SqlQueue τ) (db : Connection) : Prop :=
  (∃ e ∈ s.pending, e.1 = db) ∨ ∃ t e, s.call t = .queueing e ∧ e.1 = db

/-- What waits was accepted for the connection in `m_pDB`, if there is one, and for no other that
is open; and while the queue is about to be cleared, that one is not open either. -/
structure QueueInv (s : SqlQueue τ) : Prop where
  inOrder : (s.executed ++ s.pending).Sublist s.accepted
  noneMissing : ∀ db ∈ s.opened,
    s.accepted.filter (·.1 = db) = (s.executed ++ s.pending).filter (·.1 = db)
  current : ∀ db, s.Waiting db → ∀ cur ∈ s.m_pDB, db = cur
  opened : ∀ db, s.Waiting db → db ∈ s.opened → s.m_pDB = some db
  clearing : ∀ t, (s.call t).Clearing → ∀ db ∈ s.m_pDB, db ∉ s.opened
  number_lt : ∀ db, s.m_pDB = some db ∨ s.Waiting db ∨ (∃ e ∈ s.accepted, e.1 = db) →
    db.number < s.openings

theorem SqlQueue.start_pending (h : s.Start) : s.pending = [] := by
  obtain ⟨-, hlist, hw, -⟩ := h
  rw [SqlQueue.pending, hlist, hw]
  rfl

theorem QueueInv.start (h : s.Start) : QueueInv s := by
  have hpending := s.start_pending h
  obtain ⟨hdb, -, -, hcall, hopened, hacc, hexec⟩ := h
  have hwait : ∀ db, ¬ s.Waiting db := by
    rintro db (⟨e, he, -⟩ | ⟨t, e, ht, -⟩)
    · rw [hpending] at he
      cases he
    · cases (hcall t).symm.trans ht
  refine ⟨?_, ?_, fun db hw => absurd hw (hwait db), fun db hw => absurd hw (hwait db), ?_, ?_⟩
  · rw [hpending, hexec, hacc]
    exact List.nil_sublist _
  · intro db hmem
    rw [hopened] at hmem
    cases hmem
  · intro t ht
    rw [hcall] at ht
    cases ht
  · rintro db (h | h | ⟨e, he, -⟩)
    · cases hdb.symm.trans h
    · exact absurd h (hwait db)
    · rw [hacc] at he
      cases he

/-- **A step that keeps the connections**: no statement waits but for those that did or for the
one in `m_pDB`. -/
theorem QueueInv.keep (h : QueueInv s) (hdb : s'.m_pDB = s.m_pDB) (hopened : s'.opened = s.opened)
    (hnum : s'.openings = s.openings) (inOrder : (s'.executed ++ s'.pending).Sublist s'.accepted)
    (noneMissing : ∀ db ∈ s.opened,
      s'.accepted.filter (·.1 = db) = (s'.executed ++ s'.pending).filter (·.1 = db))
    (hwait : ∀ db, s'.Waiting db → s.Waiting db ∨ s.m_pDB = some db)
    (haccept : ∀ e ∈ s'.accepted, e ∈ s.accepted ∨ s.Waiting e.1)
    (hclear : ∀ t, (s'.call t).Clearing → ∃ t, (s.call t).Clearing) : QueueInv s' := by
  refine ⟨inOrder, fun db hmem => noneMissing db (hopened ▸ hmem), ?_, ?_, ?_, ?_⟩
  · intro db hw cur hcur
    rw [hdb] at hcur
    rcases hwait db hw with hw | hdb
    · exact h.current db hw cur hcur
    · exact Option.some_inj.mp (hdb.symm.trans hcur)
  · intro db hw hmem
    rw [hopened] at hmem
    rw [hdb]
    exact (hwait db hw).elim (fun hw => h.opened db hw hmem) id
  · intro t ht db hcur
    rw [hdb] at hcur
    rw [hopened]
    obtain ⟨t', ht'⟩ := hclear t ht
    exact h.clearing t' ht' db hcur
  · rintro db hor
    rw [hdb] at hor
    rw [hnum]
    rcases hor with hcur | hw | ⟨e, he, rfl⟩
    · exact h.number_lt db (.inl hcur)
    · exact h.number_lt db ((hwait db hw).elim (fun hw => .inr (.inl hw)) .inl)
    · exact h.number_lt e.1 (.inr ((haccept e he).symm.imp_right fun he => ⟨e, he, rfl⟩))

/-- Where nothing is executed or accepted.  Of what is still to be executed the step leaves out at
most what was accepted for connections that are closed. -/
theorem QueueInv.mono (h : QueueInv s) (hdb : s'.m_pDB = s.m_pDB) (hopened : s'.opened = s.opened)
    (hnum : s'.openings = s.openings) (hacc : s'.accepted = s.accepted)
    (hexec : s'.executed = s.executed) (hsub : s'.pending.Sublist s.pending)
    (hkeep : ∀ db ∈ s.opened, s.pending.filter (·.1 = db) = s'.pending.filter (·.1 = db))
    (hqueue : ∀ t e, s'.call t = .queueing e → (∃ t, s.call t = .queueing e) ∨ s.m_pDB = some e.1)
    (hclear : ∀ t, (s'.call t).Clearing → ∃ t, (s.call t).Clearing) : QueueInv s' := by
  refine h.keep hdb hopened hnum ?_ ?_ ?_ (fun e he => .inl (hacc ▸ he)) hclear
  · rw [hexec, hacc]
    exact ((List.Sublist.refl _).append hsub).trans h.inOrder
  · intro db hmem
    rw [hacc, hexec, h.noneMissing db hmem, List.filter_append, List.filter_append, hkeep db hmem]
  · rintro db (⟨e, he, rfl⟩ | ⟨t, e, ht, rfl⟩)
    · exact .inl (.inl ⟨e, hsub.subset he, rfl⟩)
    · rcases hqueue t e ht with ⟨t', ht'⟩ | hcur
      · exact .inl (.inr ⟨t', e, ht', rfl⟩)
      · exact .inr hcur

/-- The thread of `ExecSQLThread` goes on with the same statements, or without one that was
accepted for a connection that is not open. -/
theorem QueueInv.work (h : QueueInv s) {w : Worker} {list : List Queued}
    (hsub : (w.held ++ list).Sublist s.pending)
    (hkeep : ∀ db ∈ s.opened,
      s.pending.filter (·.1 = db) = (w.held ++ list).filter (·.1 = db)) :
    QueueInv { s with worker := w, m_SqlList := list } :=
  h.mono rfl rfl rfl rfl rfl hsub hkeep (fun t _ ht => .inl ⟨t, ht⟩) fun t ht => ⟨t, ht⟩

theorem QueueInv.work_same (h : QueueInv s) {w : Worker} {list : List Queued}
    (hpending : w.held ++ list = s.pending) : QueueInv { s with worker := w, m_SqlList := list } :=
  h.work (hpending ▸ List.Sublist.refl _) fun _ _ => by rw [hpending]

/-- A statement that finds no database is left out. -/
theorem QueueInv.drop (h : QueueInv s) {e : Queued} (hheld : s.worker.held = [e])
    (hdb : s.m_pDB = none) (b : Bool) : QueueInv { s with worker := .executed b } := by
  have hpending : s.pending = e :: s.m_SqlList := by
    rw [SqlQueue.pending, hheld]
    rfl
  refine @QueueInv.work _ _ h (.executed b) s.m_SqlList ?_ ?_
  · rw [hpending]
    exact List.sublist_cons_self ..
  · intro db hmem
    have hne : e.1 ≠ db := by
      rintro rfl
      have hcur := h.opened e.1 (.inl ⟨e, hpending ▸ List.mem_cons_self, rfl⟩) hmem
      cases hdb.symm.trans hcur
    rw [hpending, List.filter_cons_of_neg (by simpa using hne)]
    rfl

/-- A statement is executed, on the connection it was accepted for. -/
theorem QueueInv.exec (h : QueueInv s) {b : Bool} {e : Queued} {db : Connection}
    (hw : s.worker = .tested b e) (hdb : s.m_pDB = some db) :
    QueueInv { s with worker := .executed b, executed := s.executed ++ [(db, e.2)] } := by
  have hpending : s.pending = e :: s.m_SqlList := by
    rw [SqlQueue.pending, hw]
    rfl
  obtain rfl : e.1 = db :=
    h.current e.1 (.inl ⟨e, hpending ▸ List.mem_cons_self, rfl⟩) db hdb
  have happ : (s.executed ++ [(e.1, e.2)]) ++ s.m_SqlList = s.executed ++ s.pending := by
    rw [hpending, List.append_assoc]
    rfl
  refine h.keep rfl rfl rfl ?_ ?_ ?_ (fun _ he => .inl he) fun t ht => ⟨t, ht⟩
  · change ((s.executed ++ [(e.1, e.2)]) ++ s.m_SqlList).Sublist _
    rw [happ]
    exact h.inOrder
  · intro db hmem
    change _ = ((s.executed ++ [(e.1, e.2)]) ++ s.m_SqlList).filter _
    rw [happ]
    exact h.noneMissing db hmem
  · rintro db (⟨x, hx, rfl⟩ | hcall)
    · exact .inl (.inl ⟨x, hpending ▸ List.mem_cons_of_mem _ hx, rfl⟩)
    · exact .inl (.inr hcall)

/-- What waits while the queue is about to be cleared was accepted for connections that are
closed. -/
theorem QueueInv.notMem_opened (h : QueueInv s) {t : τ} (ht : (s.call t).Clearing) {db : Connection}
    (hw : s.Waiting db) : db ∉ s.opened := fun hmem =>
  h.clearing t ht db (h.opened db hw hmem) hmem

end

/-! ### Steps -/

section
variable {τ : Type} [DecidableEq τ] {s s' : SqlQueue τ} {t : τ}

theorem SqlQueue.call_goto (c : Call) (t' : τ) :
    (s.goto t c).call t' = c ∨ (s.goto t c).call t' = s.call t' := by
  by_cases he : t' = t
  · subst he
    exact .inl (Function.update_self ..)
  · exact .inr (Function.update_of_ne he ..)

/-- What does not hold of the call that has gone on holds of another that is where it was. -/
theorem SqlQueue.of_goto {p : Call → Prop} {c : Call} {t' : τ} (hc : ¬ p c)
    (h : p ((s.goto t c).call t')) : p (s.call t') := by
  rcases s.call_goto c t' with he | he
  · exact absurd (he ▸ h) hc
  · exact he ▸ h

/-- A thread goes on to something else than queueing or clearing. -/
theorem QueueInv.goto (h : QueueInv s) {c : Call} (hc : c.Passive) : QueueInv (s.goto t c) := by
  refine h.mono rfl rfl rfl rfl rfl (List.Sublist.refl _) (fun _ _ => rfl) ?_ ?_
  · intro t' e ht
    exact .inl ⟨t', SqlQueue.of_goto (p := (· = .queueing e)) (hc.queueing e) ht⟩
  · intro t' ht
    exact ⟨t', SqlQueue.of_goto hc.clearing ht⟩

/-- A statement gets into the queue. -/
theorem QueueInv.push (h : QueueInv s) {e : Queued} (ht : s.call t = .queueing e) :
    QueueInv { s.goto t .idle with
      m_SqlList := s.m_SqlList ++ [e], accepted := s.accepted ++ [e] } := by
  have hpending : s.worker.held ++ (s.m_SqlList ++ [e]) = s.pending ++ [e] :=
    (List.append_assoc ..).symm
  have hmine : s.Waiting e.1 := .inr ⟨t, e, ht, rfl⟩
  refine h.keep rfl rfl rfl ?_ ?_ ?_ ?_ ?_
  · change (s.executed ++ (s.worker.held ++ (s.m_SqlList ++ [e]))).Sublist _
    rw [hpending, ← List.append_assoc]
    exact h.inOrder.append_right [e]
  · intro db hmem
    change _ = (s.executed ++ (s.worker.held ++ (s.m_SqlList ++ [e]))).filter _
    rw [hpending, ← List.append_assoc, List.filter_append, List.filter_append _ [e],
      h.noneMissing db hmem]
  · rintro db (⟨x, hx, rfl⟩ | ⟨t', x, hx, rfl⟩)
    · change x ∈ s.worker.held ++ (s.m_SqlList ++ [e]) at hx
      rw [hpending] at hx
      rcases List.mem_append.mp hx with hx | hx
      · exact .inl (.inl ⟨x, hx, rfl⟩)
      · rw [List.mem_singleton.mp hx]
        exact .inl hmine
    · have ht' : s.call t' = .queueing x :=
        SqlQueue.of_goto (p := (· = .queueing x)) (Call.Passive.idle.queueing x) hx
      exact .inl (.inr ⟨t', x, ht', rfl⟩)
  · intro x hx
    rcases List.mem_append.mp hx with hx | hx
    · exact .inl hx
    · rw [List.mem_singleton.mp hx]
      exact .inr hmine
  · intro t' ht'
    exact ⟨t', SqlQueue.of_goto Call.Passive.idle.clearing ht'⟩

/-- What waits while a thread goes on to something else than queueing waited before. -/
theorem SqlQueue.Waiting.of_goto {db : Connection} (h : s'.Waiting db) {c : Call}
    (hcall : s'.call = (s.goto t c).call) (hpending : s'.pending = s.pending)
    (hc : ∀ e, c ≠ .queueing e) : s.Waiting db := by
  rcases h with ⟨e, he, rfl⟩ | ⟨t', e, ht, rfl⟩
  · exact .inl ⟨e, hpending ▸ he, rfl⟩
  · rw [hcall] at ht
    exact .inr ⟨t', e, SqlQueue.of_goto (p := (· = .queueing e)) (hc e) ht, rfl⟩

/-- The connection is closed. -/
theorem QueueInv.sqlite3Close (h : QueueInv s) (init : Option Bytes) :
    QueueInv { s.goto t (.closed init) with opened := {db ∈ s.opened | db ∉ s.m_pDB} } := by
  have hwait : ∀ db, SqlQueue.Waiting { s.goto t (.closed init) with
      opened := {db ∈ s.opened | db ∉ s.m_pDB} } db → s.Waiting db := fun db hw =>
    hw.of_goto rfl rfl fun e he => by cases he
  refine ⟨h.inOrder, fun db hmem => h.noneMissing db hmem.1,
    fun db hw => h.current db (hwait db hw), fun db hw hmem => h.opened db (hwait db hw) hmem.1,
    fun t' _ db hcur hmem => hmem.2 hcur, ?_⟩
  rintro db (hcur | hw | hmem)
  · exact h.number_lt db (.inl hcur)
  · exact h.number_lt db (.inr (.inl (hwait db hw)))
  · exact h.number_lt db (.inr (.inr hmem))

/-- The pointer is set to null, once the connection is closed. -/
theorem QueueInv.setNull (h : QueueInv s) {init : Option Bytes} (ht : s.call t = .closed init) :
    QueueInv { s.goto t (.nulled init) with m_pDB := none, m_strDbNameUtf8 := [] } := by
  have hclearing : (s.call t).Clearing := ht ▸ .closed init
  have hwait : ∀ db, SqlQueue.Waiting { s.goto t (.nulled init) with
      m_pDB := none, m_strDbNameUtf8 := [] } db → s.Waiting db := fun db hw =>
    hw.of_goto rfl rfl fun e he => by cases he
  refine ⟨h.inOrder, h.noneMissing, fun db _ cur hcur => (by cases hcur),
    fun db hw hmem => absurd hmem (h.notMem_opened hclearing (hwait db hw)),
    fun t' _ db hcur => (by cases hcur), ?_⟩
  rintro db (hcur | hw | hmem)
  · cases hcur
  · exact h.number_lt db (.inr (.inl (hwait db hw)))
  · exact h.number_lt db (.inr (.inr hmem))

/-- The queue is cleared. -/
theorem QueueInv.clear (h : QueueInv s) {init : Option Bytes} (ht : s.call t = .nulled init) :
    QueueInv { s.goto t (.behindClose init) with m_SqlList := [] } := by
  have hclearing : (s.call t).Clearing := ht ▸ .nulled init
  have hgoto := h.goto (t := t) (.behindClose init)
  refine @QueueInv.work _ _ hgoto s.worker [] ?_ ?_
  · rw [List.append_nil]
    exact List.sublist_append_left ..
  · intro db hmem
    -- what is thrown away was accepted for connections that are closed
    have hnone : s.m_SqlList.filter (·.1 = db) = [] := by
      refine List.filter_eq_nil_iff.mpr ?_
      intro e he hdb
      refine h.notMem_opened hclearing (.inl ⟨e, List.mem_append_right _ he, rfl⟩) ?_
      rwa [of_decide_eq_true hdb]
    rw [List.append_nil]
    change (s.worker.held ++ s.m_SqlList).filter _ = _
    rw [List.filter_append, hnone, List.append_nil]

/-- **Another connection**, or none, while nothing is left of the one before. -/
theorem QueueInv.openV2 (h : QueueInv s) (hq : Quiet s) {c : Call} (hc : c.Passive)
    (hpending : s'.pending = s.pending) (hexec : s'.executed = s.executed)
    (hacc : s'.accepted = s.accepted) (hcall : s'.call = (s.goto t c).call)
    (hnum : s.openings ≤ s'.openings)
    (hnew : ∀ db ∈ s'.opened, db ∈ s.opened ∨ s.openings ≤ db.number)
    (hcur : ∀ db ∈ s'.m_pDB, db.number < s'.openings) : QueueInv s' := by
  have hwait : ∀ db, ¬ s'.Waiting db := by
    rintro db hw
    rcases hw.of_goto hcall hpending hc.queueing with ⟨e, he, -⟩ | ⟨t', e, ht, -⟩
    · rw [hq.pending] at he
      cases he
    · exact hq.queueing t' e ht
  have hlt : ∀ e ∈ s.accepted, e.1.number < s.openings := fun e he =>
    h.number_lt e.1 (.inr (.inr ⟨e, he, rfl⟩))
  refine ⟨?_, ?_, fun db hw => absurd hw (hwait db), fun db hw => absurd hw (hwait db), ?_, ?_⟩
  · rw [hexec, hpending, hacc]
    exact h.inOrder
  · intro db hmem
    rw [hexec, hpending, hacc]
    rcases hnew db hmem with hold | hge
    · exact h.noneMissing db hold
    · -- nothing has been accepted for a connection that is new
      have hnone : s.accepted.filter (·.1 = db) = [] := by
        refine List.filter_eq_nil_iff.mpr fun e he hdb => ?_
        have := hlt e he
        rw [of_decide_eq_true hdb] at this
        omega
      have hsub := h.inOrder.filter fun e => decide (e.1 = db)
      rw [hnone] at hsub ⊢
      exact (List.sublist_nil.mp hsub).symm
  · intro t' ht'
    rw [hcall] at ht'
    exact absurd (SqlQueue.of_goto hc.clearing ht') (hq.clearing t')
  · rintro db (hdb | hw | ⟨e, he, rfl⟩)
    · exact hcur db hdb
    · exact absurd hw (hwait db)
    · exact (hlt e (hacc ▸ he)).trans_le hnum

/-- **One step** keeps the invariant, if it opens a database only while nothing is left of the one
before. -/
theorem QueueInv.step {e : QueueEvent τ} (h : QueueInv s) (hs : QuietStep s e s') :
    QueueInv s' := by
  obtain ⟨hs, hquiet⟩ := hs
  cases hs with
  | @accept t strSql db ht hdb =>
      -- the statement begins to wait, for the connection that is in `m_pDB`
      refine h.mono rfl rfl rfl rfl rfl (List.Sublist.refl _) (fun _ _ => rfl) ?_ ?_
      · intro t' e he
        rcases s.call_goto (.queueing (db, strSql)) t' with hc | hc
        · cases hc.symm.trans he
          exact .inr hdb
        · exact .inl ⟨t', hc.symm.trans he⟩
      · intro t' ht'
        exact ⟨t', SqlQueue.of_goto (fun hc => by cases hc) ht'⟩
  | push ht hlock => exact h.push ht
  | closeNothing ht hdb => exact h.goto (.behindClose _)
  | close ht hdb => exact h.goto (.closing _)
  | @sqlite3Close t init ht hdb => exact h.sqlite3Close init
  | setNull ht => exact h.setNull ht
  | clear ht hlock => exact h.clear ht
  | setName ht =>
      exact (h.goto .opening).mono rfl rfl rfl rfl rfl (List.Sublist.refl _) (fun _ _ => rfl)
        (fun t _ ht => .inl ⟨t, ht⟩) fun t ht => ⟨t, ht⟩
  | openV2 ht =>
      exact h.openV2 (hquiet (.openV2 _)) (.connecting _) rfl rfl rfl rfl (Nat.le_refl _)
        (fun db hmem => .inl hmem) fun db hdb => by cases hdb
  | connected ht =>
      refine h.openV2 (hquiet (.connect _ true)) .idle rfl rfl rfl rfl (Nat.le_succ _) ?_ ?_
      · rintro db (rfl | hmem)
        · exact .inr (Nat.le_refl _)
        · exact .inl hmem
      · intro db hdb
        cases hdb
        exact Nat.lt_succ_self _
  | notConnected ht =>
      exact h.openV2 (hquiet (.connect _ false)) .idle rfl rfl rfl rfl (Nat.le_refl _)
        (fun db hmem => .inl hmem) fun db hdb => by cases hdb
  -- `ExecSQLThread` goes on with what it has
  | lock hw | relock hw =>
      refine h.work_same ?_
      rw [SqlQueue.pending, hw]
      rfl
  | unlock hw hlist =>
      refine h.work_same ?_
      rw [SqlQueue.pending, hw]
      rfl
  | take hw hlist hbegan =>
      refine h.work_same ?_
      rw [SqlQueue.pending, hw, hlist]
      rfl
  | test hw hdb =>
      refine h.work_same ?_
      rw [SqlQueue.pending, hw]
      rfl
  -- no database is open any more
  | dropped hw hdb => exact h.drop (by rw [hw]; rfl) hdb _
  | misused hw hdb => exact h.drop (by rw [hw]; rfl) hdb _
  | exec hw hdb hopen => exact h.exec hw hdb

theorem QuietReachable.queueInv (h : QuietReachable s) : QueueInv s :=
  Reachable.invariant QueueInv (fun _ h => .start h) (fun _ _ _ h hs => h.step hs) h

/-- **Statements and their databases**: in every run that opens a database only while nothing is
left of the one before, the statements executed on a database are, in order and each once, some of
those accepted for it, and all of them while it is open, but those still to be executed. -/
theorem ownDatabase_of_quiet (h : QuietReachable s) : OwnDatabase s where
  inOrder _ := ((List.sublist_append_left ..).trans h.queueInv.inOrder).filter _
  noneMissing := h.queueInv.noneMissing

theorem QuietReachable.reachable (h : QuietReachable s) : QueueReachable s :=
  Reachable.map id (fun _ h => h) (fun _ _ _ hs => hs.1) h

/-! ### A statement on its way -/

/-- **A switch while a statement is on its way**: a thread that opens another database gets the
statement executed there. -/
theorem QueueReachable.switch (h : QueueReachable s) {b : Bool} {e : Queued}
    (hw : s.worker = .taken b e) (hdb : s.m_pDB.isSome) (hopen : ∀ db ∈ s.m_pDB, db ∈ s.opened)
    (ht : s.call t = .idle) (name : Bytes) :
    ∃ s' : SqlQueue τ, QueueReachable s' ∧ s'.accepted = s.accepted ∧
      s'.executed = s.executed ++ [(⟨s.openings, name⟩, e.2)] := by
  have hlock : s.worker.locks = false := by
    rw [hw]
    rfl
  -- `Close`, which finds the statement gone from the queue
  have hclosing : QueueReachable (s.goto t (.closing (some name))) := h.next (.close ht hdb)
  have hclosed := hclosing.next (.sqlite3Close (Function.update_self ..) hopen)
  have hnulled := hclosed.next (.setNull (Function.update_self ..))
  have hcleared := hnulled.next (.clear (Function.update_self ..) hlock)
  -- `Init`, and then `ExecSQL` of the thread
  have hnamed := hcleared.next (.setName (Function.update_self ..))
  have hzero := hnamed.next (.openV2 (Function.update_self ..))
  have hopened := hzero.next (.connected (Function.update_self ..))
  have htested := hopened.next (.test hw rfl)
  exact ⟨_, htested.next (.exec rfl rfl (Set.mem_insert ..)), rfl, rfl⟩

end

/-- `Sql3()`, and one thread besides the one that executes. -/
def startQueue : SqlQueue Unit := ⟨none, [], [], .outside, fun _ => .idle, ∅, 0, [], []⟩

/-- A statement for the file `a`. -/
def statement : Queued := (⟨0, ascii "a"⟩, ofAscii (ascii "delete from msg;"))

/-- `Init` behind `Close`, with nothing queued, and a statement that the thread takes. -/
theorem QuietReachable.taken {s : SqlQueue Unit} {name : Bytes} (h : QuietReachable s)
    (hcall : s.call () = .naming name) (hw : s.worker = .outside) (hlist : s.m_SqlList = [])
    (strSql : Wide) : ∃ s' : SqlQueue Unit, QuietReachable s' ∧
      s'.worker = .taken true (⟨s.openings, name⟩, strSql) ∧
      s'.m_pDB = some ⟨s.openings, name⟩ ∧ ⟨s.openings, name⟩ ∈ s'.opened ∧
      s'.call () = .idle ∧ s'.m_SqlList = [] ∧ s'.openings = s.openings + 1 ∧
      s'.accepted = s.accepted ++ [(⟨s.openings, name⟩, strSql)] ∧ s'.executed = s.executed := by
  have hpending : s.pending = [] := by
    rw [SqlQueue.pending, hw, hlist]
    rfl
  have hlock : s.worker.locks = false := by
    rw [hw]
    rfl
  have hnamed := h.next (e := .setName ()) ⟨.setName hcall, fun he => by cases he⟩
  have hzero := hnamed.next (e := .openV2 ()) ⟨.openV2 rfl,
    fun _ => ⟨hpending, fun t e he => (by cases he), fun t hc => (by cases hc)⟩⟩
  have hopened := hzero.next (e := .connect () true) ⟨.connected rfl,
    fun _ => ⟨hpending, fun t e he => (by cases he), fun t hc => (by cases hc)⟩⟩
  have haccepted := hopened.next (e := .accept () strSql)
    ⟨.accept rfl rfl, fun he => by cases he⟩
  have hpushed := haccepted.next (e := .push ())
    ⟨.push rfl (by exact hlock), fun he => by cases he⟩
  have hlocked := hpushed.next (e := .lock) ⟨.lock (by exact hw), fun he => by cases he⟩
  have hqueue : s.m_SqlList ++ [((⟨s.openings, name⟩ : Connection), strSql)] =
      [(⟨s.openings, name⟩, strSql)] := by rw [hlist, List.nil_append]
  have htaken := hlocked.next (e := .take true)
    ⟨.take rfl (by exact hqueue) fun _ => ⟨rfl, rfl⟩, fun he => by cases he⟩
  exact ⟨_, htaken, rfl, rfl, Set.mem_insert .., rfl, rfl, rfl, rfl, rfl⟩

/-- The thread executes it and gives the lock back. -/
theorem QuietReachable.unlocked {s : SqlQueue Unit} {e : Queued} (h : QuietReachable s)
    (hw : s.worker = .taken true e) (hdb : s.m_pDB = some e.1) (hopen : e.1 ∈ s.opened)
    (hlist : s.m_SqlList = []) :
    QuietReachable { s with worker := .outside, executed := s.executed ++ [e] } := by
  have htested := h.next (e := .test) ⟨.test hw (hdb ▸ rfl), fun he => by cases he⟩
  have hexecuted := htested.next (e := .exec)
    ⟨.exec rfl (by exact hdb) (by exact hopen), fun he => by cases he⟩
  have hlocked := hexecuted.next (e := .lock) ⟨.relock rfl, fun he => by cases he⟩
  exact hlocked.next (e := .unlock) ⟨.unlock rfl (by exact hlist), fun he => by cases he⟩

/-- The thread has taken the statement out of the queue. -/
theorem quietReachable_taken : ∃ s : SqlQueue Unit, QuietReachable s ∧
    s.worker = .taken true statement ∧ s.m_pDB = some statement.1 ∧ statement.1 ∈ s.opened ∧
    s.call () = .idle ∧ s.m_SqlList = [] ∧ s.openings = 1 ∧ s.accepted = [statement] ∧
    s.executed = [] := by
  have hstart : QuietReachable startQueue := .start ⟨rfl, rfl, rfl, fun _ => rfl, rfl, rfl, rfl⟩
  have hclosed : QuietReachable (startQueue.goto () (.naming (ascii "a"))) :=
    hstart.next (e := .close () (some (ascii "a")))
      ⟨.closeNothing rfl rfl, fun he => by cases he⟩
  exact hclosed.taken rfl rfl rfl statement.2

/-- A statement for the file `b`, which is opened when the first has been executed: each is
executed in the file it was accepted for. -/
theorem ownDatabase_executed : ∃ s : SqlQueue Unit,
    s.executed = [statement, (⟨1, ascii "b"⟩, statement.2)] ∧ OwnDatabase s := by
  obtain ⟨s, hs, hw, hdb, hopen, hcall, hlist, hnum, -, hexec⟩ := quietReachable_taken
  have hopened : ∀ db ∈ s.m_pDB, db ∈ s.opened := by
    intro db hmem
    rw [hdb] at hmem
    cases hmem
    exact hopen
  have hfirst := hs.unlocked hw hdb hopen hlist
  have hclosing := hfirst.next (e := .close () (some (ascii "b")))
    ⟨.close (by exact hcall) (by exact hdb ▸ rfl), fun he => by cases he⟩
  have hclosed := hclosing.next (e := .sqlite3Close ())
    ⟨.sqlite3Close rfl (by exact hopened), fun he => by cases he⟩
  have hnulled := hclosed.next (e := .setNull ()) ⟨.setNull rfl, fun he => by cases he⟩
  have hcleared := hnulled.next (e := .clear ()) ⟨.clear rfl rfl, fun he => by cases he⟩
  obtain ⟨s', hs', hw', hdb', hopen', -, hlist', -, -, hexec'⟩ :=
    QuietReachable.taken hcleared rfl rfl rfl statement.2
  refine ⟨_, ?_, ownDatabase_of_quiet (hs'.unlocked hw' hdb' hopen' hlist')⟩
  rw [hexec']
  change (s.executed ++ [statement]) ++ [(⟨s.openings, ascii "b"⟩, statement.2)] = _
  rw [hexec, hnum]
  rfl

/-- The thread opens the file `b` instead: the statement is executed there. -/
theorem not_ownDatabase : ¬ ∀ s : SqlQueue Unit, QueueReachable s → OwnDatabase s := by
  intro h
  obtain ⟨s, hs, hw, hdb, hopen, ht, -, hnum, hacc, hexec⟩ := quietReachable_taken
  have hopened : ∀ db ∈ s.m_pDB, db ∈ s.opened := by
    intro db hmem
    rw [hdb] at hmem
    cases hmem
    exact hopen
  obtain ⟨s', hs', hacc', hexec'⟩ := hs.reachable.switch hw (hdb ▸ rfl) hopened ht (ascii "b")
  have hsub := (h s' hs').inOrder ⟨1, ascii "b"⟩
  rw [hexec', hacc', hexec, hacc, hnum] at hsub
  exact absurd hsub (by decide)

end MicroChat
