import MicroChat.Stn.Task

/-!
# Stn — TaskList

What the two task managers do with their lists, in moves of single tasks.  The managers differ in
when they make a move; what a move can do is the same for both.

* `Move`, `Act`, `DidBy`: what happens to a task, and to a list.
* `DidBy.ends`: no task is lost, and none ends twice.
* `pairwise_pushAndSort`: the lists stay in the order of the priorities, and of the times of the
  starts among equals.
-/

namespace MicroChat.Stn
open Support

/-! ### What the managers do with a task -/

/-- A call that neither ends a task nor is about its request or its response. -/
def Call.Plain : Call → Prop
  | .req2Buf _ | .onPush _ | .notifyNetworkErr _ _ | .cgiTaskStatistic _ _ _ | .stop _
  | .deleteShortLink _ | .disconnect => True
  | .buf2Resp _ | .callBack _ _ _ _ _ | .send _ => False

/-- What of a task is decided when it is started. -/
def TaskProfile.fixed (p : TaskProfile) : Task × UInt64 × UInt64 :=
  (p.task, p.start_task_time, p.task_timeout)

/-- Only what is known of the transfer has been written. -/
structure Written (p p' : TaskProfile) : Prop where
  fixed : p'.fixed = p.fixed
  retry : p'.remain_retry_count = p.remain_retry_count
  id : p'.running_id = p.running_id

/-- What the loops of the managers do with one task, at the time `now`. -/
inductive Move (now : UInt64) : TaskProfile → List Call → Option TaskProfile → Prop where
  | write {p p' : TaskProfile} (h : Written p p') : Move now p [] (some p')
  /-- its request is handed to a link -/
  | send {p p' : TaskProfile} (idle : p.running_id = 0) (busy : p'.running_id ≠ 0)
      (hfixed : p'.fixed = p.fixed) (hretry : p'.remain_retry_count = p.remain_retry_count) :
      Move now p [.send p.task.taskid] (some p')
  /-- it has failed, and is to be sent again -/
  | retry {p p' : TaskProfile} (left : 0 < p.remain_retry_count) (hfixed : p'.fixed = p.fixed)
      (hretry : p'.remain_retry_count = p.remain_retry_count - 1) (idle : p'.running_id = 0) :
      Move now p [] (some p')
  /-- it ends -/
  | finish {p : TaskProfile} {err_type : ErrCmdType} {err_code fail_handle : Int}
      (why : p.remain_retry_count ≤ 0 ∨ err_type = .kEctOK ∨
        fail_handle = kTaskFailHandleTaskEnd ∨ fail_handle = kTaskFailHandleTaskTimeout) :
      Move now p [.callBack err_type err_code fail_handle p.task
        (now - p.start_task_time).toUInt32] none

/-- What is done with one task when a response has come, the response's own call included. -/
inductive Act (now : UInt64) : TaskProfile → List Call → Option TaskProfile → Prop where
  | move {p : TaskProfile} {cs : List Call} {o : Option TaskProfile} (h : Move now p cs o) :
      Act now p cs o
  | answer {p p' : TaskProfile} (hfixed : p'.fixed = p.fixed)
      (hretry : p'.remain_retry_count = p.remain_retry_count ∨
        0 < p.remain_retry_count ∧ p'.remain_retry_count = p.remain_retry_count - 1)
      (hid : p'.running_id = p.running_id) : Act now p [.buf2Resp p.task.taskid] (some p')

/-- Moves of the kind `V` bring the list of a manager from `l` to `l'`, and the calls it has made
from `calls` to `calls'`. -/
def DidBy (V : TaskProfile → List Call → Option TaskProfile → Prop) (l : List TaskProfile)
    (calls : List Call) (l' : List TaskProfile) (calls' : List Call) : Prop :=
  ∃ cs, calls' = calls ++ cs ∧ Works V Call.Plain l cs l'

/-- What the loops of the managers do. -/
abbrev Did (now : UInt64) : List TaskProfile → List Call → List TaskProfile → List Call → Prop :=
  DidBy (Move now)

section
variable {now : UInt64} {l l' l'' : List TaskProfile} {calls calls' calls'' : List Call}
  {V : TaskProfile → List Call → Option TaskProfile → Prop}

theorem DidBy.refl (l : List TaskProfile) (calls : List Call) : DidBy V l calls l calls :=
  ⟨[], (List.append_nil _).symm, .done l⟩

theorem DidBy.trans (h : DidBy V l calls l' calls') (h' : DidBy V l' calls' l'' calls'') :
    DidBy V l calls l'' calls'' := by
  obtain ⟨cs, rfl, hw⟩ := h
  obtain ⟨cs', rfl, hw'⟩ := h'
  exact ⟨cs ++ cs', List.append_assoc .., hw.trans hw'⟩

theorem DidBy.call {c : Call} (l : List TaskProfile) (calls : List Call)
    (hc : c.Plain := by trivial) : DidBy V l calls l (calls ++ [c]) := ⟨[c], rfl, .callOne hc l⟩

theorem DidBy.one {p : TaskProfile} {cs : List Call} {o : Option TaskProfile} (hm : V p cs o)
    (calls : List Call) : DidBy V [p] calls o.toList (calls ++ cs) := ⟨cs, rfl, .one hm⟩

theorem Did.act (h : Did now l calls l' calls') : DidBy (Act now) l calls l' calls' := by
  obtain ⟨cs, rfl, hw⟩ := h
  exact ⟨cs, rfl, hw.mono fun hm => .move hm⟩

theorem Did.write {p p' : TaskProfile} (h : Written p p') (calls : List Call) :
    Did now [p] calls [p'] calls := ⟨[], (List.append_nil _).symm, .one (Move.write h)⟩

theorem written_sentAt (p : TaskProfile) : Written p (p.sentAt now) := ⟨rfl, rfl, rfl⟩

theorem written_receivedAt (p : TaskProfile) (cachedsize totalsize : UInt32) :
    Written p (p.receivedAt now cachedsize totalsize) := ⟨rfl, rfl, rfl⟩

/-- A response that has come. -/
theorem answer_of_written {p p' : TaskProfile} (h : Written p p') (calls : List Call) :
    DidBy (Act now) [p] calls [p'] (calls ++ [.buf2Resp p.task.taskid]) :=
  .one (Act.answer h.fixed (.inl h.retry) h.id) calls

theorem written_setLastFailedStatus (p : TaskProfile) : Written p p.setLastFailedStatus := by
  rw [TaskProfile.setLastFailedStatus]
  split <;> exact ⟨rfl, rfl, rfl⟩

end

/-- What is left of the list of a manager is in its old order. -/
theorem DidBy.fixed_sublist {now : UInt64} {l l' : List TaskProfile} {calls calls' : List Call}
    (h : DidBy (Act now) l calls l' calls') :
    (l'.map TaskProfile.fixed).Sublist (l.map TaskProfile.fixed) := by
  obtain ⟨cs, rfl, hw⟩ := h
  refine hw.sublist fun hact p' hp' => ?_
  cases hact with
  | move hm =>
      cases hm with
      | write h =>
          cases hp'
          exact h.fixed
      | send _ _ hfixed _ | retry _ hfixed _ _ =>
          cases hp'
          exact hfixed
      | finish _ => cases hp'
  | answer hfixed _ _ =>
      cases hp'
      exact hfixed

/-! ### No task is lost -/

/-- How often a call ends `t`. -/
def Call.endOf (t : Nat) : Call → Nat
  | .callBack _ _ _ task _ => if task.taskid = t then 1 else 0
  | _ => 0

/-- How often calls end `t`. -/
def endsOf (t : Nat) (calls : List Call) : Nat := (calls.map (Call.endOf t)).sum

/-- How often a task is `t`. -/
def TaskProfile.countOf (t : Nat) (p : TaskProfile) : Nat := if p.task.taskid = t then 1 else 0

/-- How often `t` is in a list. -/
def tasksOf (t : Nat) (l : List TaskProfile) : Nat := (l.map (TaskProfile.countOf t)).sum

section
variable (t : Nat)

@[simp] theorem endsOf_nil : endsOf t [] = 0 := rfl

theorem endsOf_append (calls calls' : List Call) :
    endsOf t (calls ++ calls') = endsOf t calls + endsOf t calls' := by
  rw [endsOf, List.map_append, List.sum_append, endsOf, endsOf]

theorem Call.Plain.endOf {c : Call} (h : c.Plain) : c.endOf t = 0 := by
  cases c <;> first | rfl | exact h.elim

theorem countOf_of_fixed {p p' : TaskProfile} (h : p'.fixed = p.fixed) :
    p'.countOf t = p.countOf t := by
  rw [TaskProfile.countOf, TaskProfile.countOf, show p'.task = p.task from congrArg Prod.fst h]

@[simp] theorem tasksOf_nil : tasksOf t [] = 0 := rfl

theorem tasksOf_cons (p : TaskProfile) (l : List TaskProfile) :
    tasksOf t (p :: l) = p.countOf t + tasksOf t l := rfl

theorem tasksOf_redo (l : List TaskProfile) : tasksOf t (l.map .redo) = tasksOf t l := by
  rw [tasksOf, List.map_map]
  rfl

theorem tasksOf_eraseP {l : List TaskProfile} {taskid : Nat}
    (h : l.any (·.task.taskid = taskid) = true) :
    tasksOf t (l.eraseP (·.task.taskid = taskid)) + (if taskid = t then 1 else 0) =
      tasksOf t l :=
  sum_eraseP h fun p _ hp => by rw [TaskProfile.countOf, of_decide_eq_true hp]

/-- The occurrences of an id among those of tasks. -/
theorem count_map_taskid (l : List TaskProfile) :
    (l.map (·.task.taskid)).count t = tasksOf t l := by
  induction l with
  | nil => rfl
  | cons p l ih =>
      rw [List.map_cons, List.count_cons, ih, tasksOf_cons, add_comm, TaskProfile.countOf]
      simp

/-- **No task is lost**, and none ends twice: each is still in the list, or a call has ended it. -/
theorem DidBy.ends {now : UInt64} {l l' : List TaskProfile} {calls calls' : List Call}
    (h : DidBy (Act now) l calls l' calls') :
    endsOf t calls' + tasksOf t l' = endsOf t calls + tasksOf t l := by
  obtain ⟨cs, rfl, hw⟩ := h
  have hsum : endsOf t cs + tasksOf t l' = tasksOf t l := by
    refine hw.weigh (r := Eq) (fun _ => congrArg (· + _)) (fun hact => ?_) fun hc => hc.endOf t
    have hkept {p p' : TaskProfile} (h : p'.fixed = p.fixed) :
        0 + ((some p').toList.map (TaskProfile.countOf t)).sum = p.countOf t := by
      simp [countOf_of_fixed t h]
    cases hact with
    | move hm =>
        cases hm with
        | write h => exact hkept h.fixed
        | send _ _ hfixed _ => exact hkept hfixed
        | retry _ hfixed _ _ => exact hkept hfixed
        | finish _ => rfl
    | answer hfixed _ _ => exact hkept hfixed
  rw [endsOf_append, add_assoc, hsum]

end

/-! ### The order of the tasks -/

theorem perm_pushAndSort (lst_cmd_ : List TaskProfile) (p : TaskProfile) :
    (pushAndSort lst_cmd_ p).Perm (p :: lst_cmd_) :=
  (List.perm_insertionSort ..).trans (List.perm_append_singleton p lst_cmd_)

/-- The order tasks are tried in: by priority, then by the time of the start. -/
def Before (p q : TaskProfile) : Prop :=
  p.task.priority < q.task.priority ∨
    p.task.priority = q.task.priority ∧ p.start_task_time ≤ q.start_task_time

/-- A task that is started last comes after those of its priority. -/
theorem pairwise_pushAndSort {lst_cmd_ : List TaskProfile} {p : TaskProfile}
    (h : lst_cmd_.Pairwise Before)
    (hlast : ∀ q ∈ lst_cmd_, q.start_task_time ≤ p.start_task_time) :
    (pushAndSort lst_cmd_ p).Pairwise Before := by
  rw [List.pairwise_iff_forall_sublist]
  intro a b hab
  have hle : NotAfter a b :=
    (List.pairwise_iff_forall_sublist.mp (List.pairwise_insertionSort NotAfter _)) hab
  rcases lt_or_eq_of_le hle with hlt | heq
  · exact .inl hlt
  · -- the tasks of one priority are in the order they were in before the list was sorted
    refine .inr ⟨heq, ?_⟩
    have hclass : (pushAndSort lst_cmd_ p).filter (·.task.priority = a.task.priority) =
        (lst_cmd_ ++ [p]).filter (·.task.priority = a.task.priority) := by
      refine filter_insertionSort NotAfter _ fun x hx y hy => ?_
      have hx : x.task.priority = a.task.priority := of_decide_eq_true (List.mem_filter.mp hx).2
      have hy : y.task.priority = a.task.priority := of_decide_eq_true (List.mem_filter.mp hy).2
      exact le_of_eq (hx.trans hy.symm)
    have hsub := hab.filter (·.task.priority = a.task.priority)
    have hboth : [a, b].filter (·.task.priority = a.task.priority) = [a, b] := by simp [heq]
    rw [hclass, hboth] at hsub
    have hab' : [a, b].Sublist (lst_cmd_ ++ [p]) := hsub.trans List.filter_sublist
    have hstarts : (lst_cmd_ ++ [p]).Pairwise fun x y =>
        x.task.priority = y.task.priority → x.start_task_time ≤ y.start_task_time := by
      refine List.pairwise_append.mpr ⟨h.imp fun hxy he => ?_, List.pairwise_singleton _ _,
        fun x hx y hy _ => ?_⟩
      · exact (hxy.resolve_left fun hlt => (ne_of_lt hlt) he).2
      · rw [List.mem_singleton.mp hy]
        exact hlast x hx
    exact (List.pairwise_iff_forall_sublist.mp hstarts) hab' heq

end MicroChat.Stn
