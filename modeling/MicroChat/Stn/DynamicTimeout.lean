import Mathlib.Data.Fin.Basic
import Mathlib.Data.Fintype.Basic
import Mathlib.Logic.Function.Basic
import MicroChat.Support.Ring
import MicroChat.Support.Runs

/-!
# Stn — DynamicTimeout

How mars judges the network by the tasks that end.

* `DynamicTimeout`, `cgiTaskStatistic`: the estimate; `initial` is also what it is reset to.
* `Judged.Inv`: the bits as the last outcomes, and what the counters say of them.
* `Judged.Reachable.bad_of_failed`, `Judged.Reachable.excellent_of_met`: what it changes for.
-/

namespace MicroChat.Stn
open Support

/-- `getNetInfo()`. -/
inductive NetInfo where
  | kNoNet | kWifi | kMobile | kOtherNet
deriving DecidableEq, Repr

inductive DynamicTimeoutStatus where
  | kEValuating | kExcellent | kBad
deriving DecidableEq, Repr

/-- The values of `_task_status`. -/
inductive DynTimeTag where
  | failed | normal | meetExpect | midPkgMeetExpect | bigPkgMeetExpect | biggerPkgMeetExpect
deriving DecidableEq, Repr

/-- `kDynTimeTaskFailedPkgLen`. -/
def kDynTimeTaskFailedPkgLen : UInt32 := 0xffffffff

/-- `dyntime_failed_normal_count_` has a bit for each of the last ten tasks, set for one that has
not failed.  `dyntime_fncount_pos_` is `none` where the code has -1. -/
structure DynamicTimeout where
  dyntime_status_ : DynamicTimeoutStatus
  dyntime_continuous_good_count_ : UInt32
  dyntime_latest_bigpkg_goodtime_ : UInt32
  dyntime_failed_normal_count_ : Fin 10 → Bool
  dyntime_fncount_latstmodify_time_ : UInt32
  dyntime_fncount_pos_ : Option (Fin 10)

namespace DynamicTimeout

/-- `DynamicTimeout::DynamicTimeout()`, and what `ResetStatus` goes back to. -/
def initial : DynamicTimeout where
  dyntime_status_ := .kEValuating
  dyntime_continuous_good_count_ := 0
  dyntime_latest_bigpkg_goodtime_ := 0
  dyntime_failed_normal_count_ := fun _ => true
  dyntime_fncount_latstmodify_time_ := 0
  dyntime_fncount_pos_ := none

/-- `dyntime_failed_normal_count_.count()`. -/
def count (d : DynamicTimeout) : Nat := (List.finRange 10).countP d.dyntime_failed_normal_count_

/-- The tag of a task of `total_size` bytes that took `cost_time`. -/
def tagOf (netInfo : NetInfo) (total_size : UInt32) (cost_time : UInt64) : DynTimeTag :=
  let wifi := netInfo ≠ .kMobile
  if total_size = kDynTimeTaskFailedPkgLen ∨ cost_time = 0 then .failed
  else if total_size < 3 * 1024 then
    if cost_time ≤ (if wifi then 500 else 1000) then .meetExpect else .normal
  else if total_size ≤ 10 * 1024 then
    if cost_time ≤ (if wifi then 2000 else 3000) then .midPkgMeetExpect else .normal
  else if total_size ≤ 30 * 1024 then
    if cost_time ≤ (if wifi then 4000 else 5000) then .bigPkgMeetExpect else .normal
  else if cost_time ≤ (if wifi then 6000 else 7000) then .biggerPkgMeetExpect
  else .normal

/-- `kDynTimeCountExpireTime`. -/
def kDynTimeCountExpireTime : UInt64 := 5 * 60 * 1000

/-- The start of `__StatusSwitch`: the bits are set anew when they are too old. -/
def expire (d : DynamicTimeout) (now : UInt64) : DynamicTimeout :=
  if d.dyntime_fncount_latstmodify_time_ = 0 ∨
      now - d.dyntime_fncount_latstmodify_time_.toUInt64 > kDynTimeCountExpireTime then
    { d with
      dyntime_fncount_latstmodify_time_ := now.toUInt32
      dyntime_fncount_pos_ := none
      dyntime_failed_normal_count_ := fun _ => d.dyntime_status_ ≠ .kBad }
  else d

/-- `++dyntime_fncount_pos_`, back to 0 after the last bit. -/
def nextPos (d : DynamicTimeout) : Fin 10 :=
  match d.dyntime_fncount_pos_ with
  | none => 0
  | some i => i + 1

/-- The first `switch` of `__StatusSwitch`: what the task is counted as, in the bit `pos`. -/
def record (d : DynamicTimeout) (now : UInt64) (pos : Fin 10) (tag : DynTimeTag) :
    DynamicTimeout :=
  let evaluating := d.dyntime_status_ = .kEValuating
  let good (d : DynamicTimeout) : DynamicTimeout :=
    { d with
      dyntime_continuous_good_count_ :=
        if evaluating then d.dyntime_continuous_good_count_ + 1
        else d.dyntime_continuous_good_count_
      dyntime_failed_normal_count_ := Function.update d.dyntime_failed_normal_count_ pos true }
  match tag with
  | .midPkgMeetExpect | .bigPkgMeetExpect | .biggerPkgMeetExpect =>
      good { d with
        dyntime_latest_bigpkg_goodtime_ :=
          if evaluating then now.toUInt32 else d.dyntime_latest_bigpkg_goodtime_ }
  | .meetExpect => good d
  | .normal =>
      { d with
        dyntime_continuous_good_count_ :=
          if evaluating then 0 else d.dyntime_continuous_good_count_
        dyntime_latest_bigpkg_goodtime_ :=
          if evaluating then 0 else d.dyntime_latest_bigpkg_goodtime_
        dyntime_failed_normal_count_ := Function.update d.dyntime_failed_normal_count_ pos true }
  | .failed =>
      { d with
        dyntime_continuous_good_count_ := 0
        dyntime_latest_bigpkg_goodtime_ := 0
        dyntime_failed_normal_count_ := Function.update d.dyntime_failed_normal_count_ pos false }

/-- The second `switch` of `__StatusSwitch`: `kDynTimeMaxContinuousExcellentCount` is 10,
`kDynTimeMinNormalPkgCount` is 6. -/
def judge (d : DynamicTimeout) (now : UInt64) : DynamicTimeout :=
  match d.dyntime_status_ with
  | .kEValuating =>
      if d.dyntime_continuous_good_count_ ≥ 10 ∧
          now - d.dyntime_latest_bigpkg_goodtime_.toUInt64 ≤ kDynTimeCountExpireTime then
        { d with dyntime_status_ := .kExcellent }
      else if d.count ≤ 6 then
        { d with dyntime_status_ := .kBad, dyntime_fncount_latstmodify_time_ := 0 }
      else d
  | .kExcellent =>
      if d.dyntime_continuous_good_count_ = 0 ∧ d.dyntime_latest_bigpkg_goodtime_ = 0 then
        { d with dyntime_status_ := .kEValuating }
      else d
  | .kBad =>
      if d.count > 6 then
        { d with dyntime_status_ := .kEValuating, dyntime_fncount_latstmodify_time_ := 0 }
      else d

/-- `void DynamicTimeout::__StatusSwitch(…)`. -/
def statusSwitch (d : DynamicTimeout) (now : UInt64) (tag : DynTimeTag) : DynamicTimeout :=
  let d := d.expire now
  let pos := d.nextPos
  ({ d with dyntime_fncount_pos_ := some pos }.record now pos tag).judge now

/-- `void DynamicTimeout::CgiTaskStatistic(…)`. -/
def cgiTaskStatistic (d : DynamicTimeout) (netInfo : NetInfo) (now : UInt64)
    (total_size : UInt32) (cost_time : UInt64) : DynamicTimeout :=
  d.statusSwitch now (tagOf netInfo total_size cost_time)

end DynamicTimeout

/-! ### Outcomes -/

/-- The task has met the expectation. -/
def DynTimeTag.meets : DynTimeTag → Bool
  | .failed | .normal => false
  | .meetExpect | .midPkgMeetExpect | .bigPkgMeetExpect | .biggerPkgMeetExpect => true

/-- The task has not failed. -/
def DynTimeTag.ok : DynTimeTag → Bool
  | .failed => false
  | _ => true

theorem DynTimeTag.ok_of_meets {tag : DynTimeTag} (h : tag.meets = true) : tag.ok = true := by
  cases tag <;> first | rfl | cases h

namespace DynamicTimeout

/-- The bits as the last outcomes, the oldest first. -/
def window (d : DynamicTimeout) : List Bool := ringList d.dyntime_failed_normal_count_ d.nextPos

theorem countP_window (d : DynamicTimeout) : d.window.countP id = d.count := countP_ringList ..

theorem length_window (d : DynamicTimeout) : d.window.length = 10 := List.length_ofFn

theorem count_le (d : DynamicTimeout) : d.count ≤ 10 := by
  rw [← countP_window, ← d.length_window]
  exact List.countP_le_length

/-- What is left of the estimate when a bit has been set anew or not. -/
theorem expire_cases (d : DynamicTimeout) (now : UInt64) :
    d.dyntime_fncount_latstmodify_time_ ≠ 0 ∧ d.expire now = d ∨
      d.expire now = { d with
        dyntime_fncount_latstmodify_time_ := now.toUInt32
        dyntime_fncount_pos_ := none
        dyntime_failed_normal_count_ := fun _ => d.dyntime_status_ ≠ .kBad } := by
  by_cases h : d.dyntime_fncount_latstmodify_time_ = 0 ∨
      now - d.dyntime_fncount_latstmodify_time_.toUInt64 > kDynTimeCountExpireTime
  · exact .inr (if_pos h)
  · exact .inl ⟨fun h0 => h (.inl h0), if_neg h⟩

/-- The estimate with an outcome in its bits. -/
def recorded (d : DynamicTimeout) (now : UInt64) (tag : DynTimeTag) : DynamicTimeout :=
  { d.expire now with dyntime_fncount_pos_ := some (d.expire now).nextPos }.record now
    (d.expire now).nextPos tag

section
variable (d : DynamicTimeout) (now : UInt64) (tag : DynTimeTag)

theorem status_expire : (d.expire now).dyntime_status_ = d.dyntime_status_ := by
  rw [expire]
  split <;> rfl

theorem good_expire : (d.expire now).dyntime_continuous_good_count_ =
    d.dyntime_continuous_good_count_ := by
  rw [expire]
  split <;> rfl

theorem status_recorded : (d.recorded now tag).dyntime_status_ = d.dyntime_status_ := by
  rw [← d.status_expire now]
  cases tag <;> rfl

/-- What is counted while the network is judged. -/
theorem good_recorded_of_evaluating (h : d.dyntime_status_ = .kEValuating) :
    (d.recorded now tag).dyntime_continuous_good_count_ =
      if tag.meets then d.dyntime_continuous_good_count_ + 1 else 0 := by
  rw [← d.status_expire now] at h
  rw [← d.good_expire now]
  cases tag <;> simp [recorded, record, h, DynTimeTag.meets]

/-- What is counted at other times. -/
theorem good_recorded_of_ne (h : d.dyntime_status_ ≠ .kEValuating) :
    (d.recorded now tag).dyntime_continuous_good_count_ =
      if tag = .failed then 0 else d.dyntime_continuous_good_count_ := by
  rw [← d.status_expire now] at h
  rw [← d.good_expire now]
  cases tag <;> simp [recorded, record, h]

theorem bigpkg_recorded_failed :
    (d.recorded now .failed).dyntime_latest_bigpkg_goodtime_ = 0 := rfl

/-- An outcome takes the place of the oldest. -/
theorem window_recorded :
    (d.recorded now tag).window = (d.expire now).window.tail ++ [tag.ok] := by
  have hbits : (d.recorded now tag).dyntime_failed_normal_count_ =
      Function.update (d.expire now).dyntime_failed_normal_count_ (d.expire now).nextPos
        tag.ok := by
    cases tag <;> rfl
  have hnext : (d.recorded now tag).nextPos = (d.expire now).nextPos + 1 := by
    cases tag <;> rfl
  rw [window, hbits, hnext, ringList_write, window]

/-- What an outcome does to the number of bits that are set. -/
theorem count_recorded : (d.expire now).count ≤ (d.recorded now tag).count + 1 ∧
    (tag.ok = true → (d.expire now).count ≤ (d.recorded now tag).count) := by
  rw [← countP_window, ← countP_window, window_recorded, List.countP_append]
  cases hw : (d.expire now).window with
  | nil => exact ⟨Nat.zero_le _, fun _ => Nat.zero_le _⟩
  | cons b w =>
      rw [List.tail_cons, List.countP_cons, List.countP_singleton]
      refine ⟨?_, fun hok => ?_⟩
      · split <;> omega
      · rw [hok]
        simp only [id_eq, if_true]
        split <;> omega

end

end DynamicTimeout

/-! ### Runs -/

/-- The estimate, with the outcomes since it was made or reset. -/
structure Judged where
  d : DynamicTimeout
  outcomes : List DynTimeTag

/-- A task has ended, or the network has changed. -/
inductive JudgedEvent where
  | outcome (now : UInt64) (tag : DynTimeTag)
  | resetStatus

/-- A failed task, or a reset: what a network that is excellent does not survive. -/
def JudgedEvent.ends : JudgedEvent → Bool
  | .outcome _ tag => tag = .failed
  | .resetStatus => true

namespace Judged

def step (j : Judged) : JudgedEvent → Judged
  | .outcome now tag => ⟨j.d.statusSwitch now tag, j.outcomes ++ [tag]⟩
  | .resetStatus => ⟨.initial, []⟩

/-- The states of all runs. -/
def Reachable : Judged → Prop :=
  Support.Reachable (fun j => j = ⟨.initial, []⟩) fun j e j' => j' = j.step e

/-- The bits are the last of `outcomes`, filled up with `fill`. -/
def Recent (fill : Bool) (d : DynamicTimeout) (outcomes : List DynTimeTag) : Prop :=
  ∃ recent, recent <:+ outcomes ∧
    d.window = (List.replicate 10 fill ++ recent.map DynTimeTag.ok).rtake 10

/-- The last outcomes that are counted as good are good. -/
def Counted (d : DynamicTimeout) (outcomes : List DynTimeTag) : Prop :=
  d.dyntime_continuous_good_count_.toNat ≤ outcomes.length ∧
    ∀ tag ∈ outcomes.rtake d.dyntime_continuous_good_count_.toNat, tag.meets = true

/-- What the bits and the counters are.  The bits count from the next outcome on where they are to
be set anew. -/
structure Inv (j : Judged) : Prop where
  recent : j.d.dyntime_fncount_latstmodify_time_ ≠ 0 →
    Recent (j.d.dyntime_status_ ≠ .kBad) j.d j.outcomes
  counted : j.d.dyntime_status_ = .kEValuating → Counted j.d j.outcomes
  evaluating : j.d.dyntime_status_ = .kEValuating →
    j.d.dyntime_fncount_latstmodify_time_ ≠ 0 → 6 < j.d.count
  excellent : j.d.dyntime_status_ = .kExcellent → 10 ≤ j.d.dyntime_continuous_good_count_ ∧
    (j.d.dyntime_fncount_latstmodify_time_ ≠ 0 → j.d.count = 10)
  bad : j.d.dyntime_status_ = .kBad → j.d.dyntime_continuous_good_count_ = 0

section
variable {d : DynamicTimeout} {outcomes : List DynTimeTag} {tag : DynTimeTag}

/-- Bits that are all set. -/
theorem count_of_window {fill : Bool} (h : d.window = List.replicate 10 fill)
    (hfill : fill = true) : d.count = 10 := by
  rw [← d.countP_window, h, hfill]
  rfl

/-- The bits before an outcome is recorded. -/
theorem Inv.recent_expire (h : Inv ⟨d, outcomes⟩) (now : UInt64) :
    Recent (d.dyntime_status_ ≠ .kBad) (d.expire now) outcomes := by
  rcases d.expire_cases now with ⟨hnew, heq⟩ | heq
  · rw [heq]
    exact h.recent hnew
  · rw [heq]
    exact ⟨[], List.nil_suffix, ringList_const _ _⟩

/-- The bits after. -/
theorem Inv.recent_recorded (h : Inv ⟨d, outcomes⟩) (now : UInt64) (tag : DynTimeTag) :
    Recent (d.dyntime_status_ ≠ .kBad) (d.recorded now tag) (outcomes ++ [tag]) := by
  obtain ⟨recent, hsuffix, hwindow⟩ := h.recent_expire now
  refine ⟨recent ++ [tag], ?_, ?_⟩
  · obtain ⟨old, rfl⟩ := hsuffix
    exact ⟨old, by rw [List.append_assoc]⟩
  · rw [d.window_recorded, hwindow, List.map_append, List.map_singleton, ← List.append_assoc,
      rtake_append_singleton (by simp)]

/-- The bits before an outcome are enough of them, where the network is not bad. -/
theorem Inv.six_lt_count (h : Inv ⟨d, outcomes⟩) (now : UInt64)
    (hgood : d.dyntime_status_ ≠ .kBad) :
    6 < (d.expire now).count ∧
      (d.dyntime_status_ = .kExcellent → (d.expire now).count = 10) := by
  rcases d.expire_cases now with ⟨hnew, heq⟩ | heq
  · rw [heq]
    refine ⟨?_, fun hex => (h.excellent hex).2 hnew⟩
    cases hs : d.dyntime_status_ with
    | kEValuating => exact h.evaluating hs hnew
    | kExcellent =>
        have hten : d.count = 10 := (h.excellent hs).2 hnew
        omega
    | kBad => exact absurd hs hgood
  · have hwindow : (d.expire now).window = List.replicate 10 (decide (d.dyntime_status_ ≠ .kBad)) :=
      by
        rw [heq]
        exact ringList_const _ _
    have hten : (d.expire now).count = 10 := count_of_window hwindow (decide_eq_true hgood)
    exact ⟨by omega, fun _ => hten⟩

/-- Bits that are not set stand for tasks that have failed. -/
theorem Recent.failed (h : Recent true d outcomes) :
    10 ≤ d.count + (outcomes.rtake 10).countP fun tag => !tag.ok := by
  obtain ⟨recent, hsuffix, hwindow⟩ := h
  have hlength := List.length_eq_countP_add_countP id (l := d.window)
  have hnot : d.window.countP (fun b => !b) ≤ (outcomes.rtake 10).countP fun tag => !tag.ok := by
    have hle := countP_rtake_le hsuffix (fun tag => !tag.ok) 10
    rw [hwindow, countP_rtake_replicate rfl, List.rtake, List.length_map, ← List.map_drop,
      List.countP_map]
    exact hle
  rw [d.length_window, d.countP_window] at hlength
  have heq : d.window.countP (fun b => !b) = d.window.countP fun b => decide ¬id b = true :=
    congrArg (d.window.countP ·) (funext fun b => by cases b <;> rfl)
  omega

/-- Bits that are set stand for tasks that have not failed. -/
theorem Recent.ok (h : Recent false d outcomes) :
    d.count ≤ (outcomes.rtake 10).countP DynTimeTag.ok := by
  obtain ⟨recent, hsuffix, hwindow⟩ := h
  have hle := countP_rtake_le hsuffix DynTimeTag.ok 10
  rw [← d.countP_window, hwindow, countP_rtake_replicate rfl, List.rtake, List.length_map,
    ← List.map_drop, List.countP_map]
  exact hle

/-- The count of the good outcomes. -/
theorem Counted.recorded (h : Counted d outcomes) (hs : d.dyntime_status_ = .kEValuating)
    (now : UInt64) (tag : DynTimeTag) : Counted (d.recorded now tag) (outcomes ++ [tag]) := by
  rw [Counted, d.good_recorded_of_evaluating now tag hs]
  cases hmeets : tag.meets with
  | false => exact ⟨Nat.zero_le _, fun t ht => by simp at ht⟩
  | true =>
      rw [if_pos rfl]
      -- a count that does not fit in 32 bits starts anew
      by_cases hmax : d.dyntime_continuous_good_count_.toNat + 1 < 2 ^ 32
      · have hnat : (d.dyntime_continuous_good_count_ + 1).toNat =
            d.dyntime_continuous_good_count_.toNat + 1 := by
          rw [UInt32.toNat_add]
          exact Nat.mod_eq_of_lt hmax
        rw [hnat, List.rtake_concat_succ, List.length_append, List.length_singleton]
        refine ⟨Nat.add_le_add_right h.1 1, fun t ht => ?_⟩
        rcases List.mem_append.mp ht with ht | ht
        · exact h.2 t ht
        · rw [List.mem_singleton.mp ht]
          exact hmeets
      · have hzero : (d.dyntime_continuous_good_count_ + 1).toNat = 0 := by
          have hlt := d.dyntime_continuous_good_count_.toNat_lt
          rw [UInt32.toNat_add, show (1 : UInt32).toNat = 1 from rfl]
          omega
        rw [hzero]
        exact ⟨Nat.zero_le _, fun t ht => by simp at ht⟩

/-- Ten that are counted. -/
theorem Counted.ten (h : Counted d outcomes) (hten : 10 ≤ d.dyntime_continuous_good_count_) :
    10 ≤ outcomes.length ∧ ∀ tag ∈ outcomes.rtake 10, tag.meets = true := by
  have hnat : 10 ≤ d.dyntime_continuous_good_count_.toNat := UInt32.le_iff_toNat_le.mp hten
  refine ⟨hnat.trans h.1, fun tag ht => h.2 tag ?_⟩
  rw [List.rtake] at ht ⊢
  exact (List.drop_sublist_drop_left _ (by omega)).subset ht

/-- The judgement of a network that has been neither good nor bad. -/
theorem Inv.judge_evaluating (h : Inv ⟨d, outcomes⟩) (hs : d.dyntime_status_ = .kEValuating)
    (now : UInt64) (tag : DynTimeTag) :
    Inv ⟨(d.recorded now tag).judge now, outcomes ++ [tag]⟩ ∧
      (((d.recorded now tag).judge now).dyntime_status_ = .kExcellent →
        10 ≤ (outcomes ++ [tag]).length ∧
          ∀ t ∈ (outcomes ++ [tag]).rtake 10, t.meets = true) ∧
      (((d.recorded now tag).judge now).dyntime_status_ = .kBad →
        4 ≤ ((outcomes ++ [tag]).rtake 10).countP fun t => !t.ok) := by
  have hstatus := d.status_recorded now tag
  have hcounted : Counted (d.recorded now tag) (outcomes ++ [tag]) :=
    (h.counted hs).recorded hs now tag
  have hrecent := h.recent_recorded now tag
  rw [hs] at hstatus
  rw [show decide (d.dyntime_status_ ≠ .kBad) = true by rw [hs]; rfl] at hrecent
  obtain ⟨hcount, -⟩ := h.six_lt_count now (by rw [hs]; nofun)
  obtain ⟨-, hmore⟩ := d.count_recorded now tag
  have hgood := d.good_recorded_of_evaluating now tag hs
  generalize d.recorded now tag = r at *
  rw [DynamicTimeout.judge, hstatus]
  dsimp only
  split
  · rename_i hexcellent
    have hall : r.count = 10 := by
      have hfailed := hrecent.failed
      have hnone : ((outcomes ++ [tag]).rtake 10).countP (fun tag => !tag.ok) = 0 := by
        refine List.countP_eq_zero.mpr fun t ht => ?_
        simp [DynTimeTag.ok_of_meets ((hcounted.ten hexcellent.1).2 t ht)]
      have hle := r.count_le
      omega
    exact ⟨⟨fun _ => hrecent, nofun, nofun, fun _ => ⟨hexcellent.1, fun _ => hall⟩, nofun⟩,
      fun _ => hcounted.ten hexcellent.1, nofun⟩
  · split
    · rename_i hfew
      refine ⟨⟨fun hnew => absurd rfl hnew, nofun, nofun, nofun, fun _ => ?_⟩, nofun, fun _ => ?_⟩
      rotate_left
      · have hfailed := hrecent.failed
        omega
      have hbad : tag.meets = false := by
        by_contra hmeets
        have hle := hmore (DynTimeTag.ok_of_meets (Bool.of_not_eq_false hmeets))
        omega
      rw [hbad] at hgood
      exact hgood
    · rename_i hmany
      have hex : r.dyntime_status_ ≠ .kExcellent := by
        rw [hstatus]
        nofun
      have hbad : r.dyntime_status_ ≠ .kBad := by
        rw [hstatus]
        nofun
      refine ⟨⟨fun _ => ?_, fun _ => hcounted, fun _ _ => not_le.mp hmany, fun h => absurd h hex,
        fun h => absurd h hbad⟩, fun h => absurd h hex, fun h => absurd h hbad⟩
      rw [hstatus]
      exact hrecent

/-- The judgement of a good network. -/
theorem Inv.judge_excellent (h : Inv ⟨d, outcomes⟩) (hs : d.dyntime_status_ = .kExcellent)
    (now : UInt64) (tag : DynTimeTag) :
    Inv ⟨(d.recorded now tag).judge now, outcomes ++ [tag]⟩ ∧
      ((d.recorded now tag).judge now).dyntime_status_ =
        if tag = .failed then .kEValuating else .kExcellent := by
  have hstatus := d.status_recorded now tag
  have hrecent := h.recent_recorded now tag
  rw [hs] at hstatus
  rw [show decide (d.dyntime_status_ ≠ .kBad) = true by rw [hs]; rfl] at hrecent
  obtain ⟨-, hten⟩ := h.six_lt_count now (by rw [hs]; nofun)
  have hten := hten hs
  obtain ⟨hless, hmore⟩ := d.count_recorded now tag
  have hgood := d.good_recorded_of_ne now tag (by rw [hs]; nofun)
  have hbig : tag = .failed → (d.recorded now tag).dyntime_latest_bigpkg_goodtime_ = 0 := by
    rintro rfl
    exact d.bigpkg_recorded_failed now
  have hold : 10 ≤ d.dyntime_continuous_good_count_ := (h.excellent hs).1
  generalize d.recorded now tag = r at *
  rw [DynamicTimeout.judge, hstatus]
  by_cases hfailed : tag = .failed
  · rw [if_pos hfailed] at hgood
    rw [if_pos hfailed]
    dsimp only
    rw [if_pos ⟨hgood, hbig hfailed⟩]
    refine ⟨⟨fun _ => hrecent, fun _ => ?_, fun _ _ => ?_, nofun, nofun⟩, rfl⟩
    · rw [Counted]
      dsimp only
      rw [hgood]
      exact ⟨Nat.zero_le _, fun t ht => by simp at ht⟩
    · change 6 < r.count
      omega
  · rw [if_neg hfailed] at hgood
    rw [if_neg hfailed]
    have hok : tag.ok = true := by cases tag <;> first | rfl | exact absurd rfl hfailed
    have hne : ¬ (r.dyntime_continuous_good_count_ = 0 ∧
        r.dyntime_latest_bigpkg_goodtime_ = 0) := fun h0 => by
      rw [hgood] at h0
      rw [h0.1] at hold
      exact absurd hold (by decide)
    dsimp only
    rw [if_neg hne]
    refine ⟨⟨fun _ => ?_, fun hev => ?_, fun hev => ?_, fun _ => ⟨?_, fun _ => ?_⟩,
      fun hbad => ?_⟩, hstatus⟩
    · rw [hstatus]
      exact hrecent
    · rw [hstatus] at hev
      cases hev
    · rw [hstatus] at hev
      cases hev
    · rw [hgood]
      exact hold
    · have hle := r.count_le
      have hmore := hmore hok
      change r.count = 10
      omega
    · rw [hstatus] at hbad
      cases hbad

/-- The judgement of a bad network. -/
theorem Inv.judge_bad (h : Inv ⟨d, outcomes⟩) (hs : d.dyntime_status_ = .kBad)
    (now : UInt64) (tag : DynTimeTag) :
    Inv ⟨(d.recorded now tag).judge now, outcomes ++ [tag]⟩ ∧
      (((d.recorded now tag).judge now).dyntime_status_ ≠ .kBad →
        ((d.recorded now tag).judge now).dyntime_status_ = .kEValuating ∧
          7 ≤ ((outcomes ++ [tag]).rtake 10).countP DynTimeTag.ok) := by
  have hstatus := d.status_recorded now tag
  have hrecent := h.recent_recorded now tag
  rw [hs] at hstatus
  rw [show decide (d.dyntime_status_ ≠ .kBad) = false by rw [hs]; rfl] at hrecent
  have hgood : (d.recorded now tag).dyntime_continuous_good_count_ = 0 := by
    have hold : d.dyntime_continuous_good_count_ = 0 := h.bad hs
    rw [d.good_recorded_of_ne now tag (by rw [hs]; nofun), hold]
    exact ite_self 0
  generalize d.recorded now tag = r at *
  rw [DynamicTimeout.judge, hstatus]
  dsimp only
  split
  · rename_i hmany
    refine ⟨⟨fun hnew => absurd rfl hnew, fun _ => ?_, fun _ hnew => absurd rfl hnew, nofun,
      nofun⟩, fun _ => ⟨rfl, hmany.trans_le hrecent.ok⟩⟩
    rw [Counted]
    dsimp only
    rw [hgood]
    exact ⟨Nat.zero_le _, fun t ht => by simp at ht⟩
  · have hev : r.dyntime_status_ ≠ .kEValuating := by
      rw [hstatus]
      nofun
    have hex : r.dyntime_status_ ≠ .kExcellent := by
      rw [hstatus]
      nofun
    refine ⟨⟨fun _ => ?_, fun h => absurd h hev, fun h => absurd h hev, fun h => absurd h hex,
      fun _ => hgood⟩, fun h => absurd hstatus h⟩
    rw [hstatus]
    exact hrecent

end

/-- **One event** keeps the invariant. -/
theorem Inv.step {j : Judged} (h : j.Inv) (e : JudgedEvent) : (j.step e).Inv := by
  cases e with
  | outcome now tag =>
      cases hs : j.d.dyntime_status_ with
      | kEValuating => exact (h.judge_evaluating hs now tag).1
      | kExcellent => exact (h.judge_excellent hs now tag).1
      | kBad => exact (h.judge_bad hs now tag).1
  | resetStatus =>
      exact ⟨fun hnew => absurd rfl hnew, fun _ => ⟨Nat.zero_le _, nofun⟩,
        fun _ hnew => absurd rfl hnew, nofun, nofun⟩

theorem Reachable.inv {j : Judged} (h : j.Reachable) : j.Inv := by
  refine Support.Reachable.invariant Inv (fun j hj => ?_) (fun j e j' h hs => ?_) h
  · rw [hj]
    exact ⟨fun hnew => absurd rfl hnew, fun _ => ⟨Nat.zero_le _, nofun⟩,
      fun _ hnew => absurd rfl hnew, nofun, nofun⟩
  · rw [hs]
    exact h.step e

/-- **When the network is taken for bad.**  In every run the estimate turns bad only after at least
four of the last ten tasks have failed, and is given up only after at least seven of the last ten
have not, or by a reset; all are steps from and to the state in which the network is judged
anew. -/
theorem Reachable.bad_of_failed {j : Judged} (h : j.Reachable) (e : JudgedEvent) :
    (j.d.dyntime_status_ ≠ .kBad → (j.step e).d.dyntime_status_ = .kBad →
      j.d.dyntime_status_ = .kEValuating ∧
        4 ≤ ((j.step e).outcomes.rtake 10).countP fun t => !t.ok) ∧
    (j.d.dyntime_status_ = .kBad → (j.step e).d.dyntime_status_ ≠ .kBad →
      (j.step e).d.dyntime_status_ = .kEValuating ∧
        (e = .resetStatus ∨ 7 ≤ ((j.step e).outcomes.rtake 10).countP DynTimeTag.ok)) := by
  cases e with
  | resetStatus => exact ⟨nofun, fun _ _ => ⟨rfl, .inl rfl⟩⟩
  | outcome now tag =>
      refine ⟨fun hne hbad => ?_, fun hs hne => ?_⟩
      · cases hs : j.d.dyntime_status_ with
        | kEValuating => exact ⟨rfl, (h.inv.judge_evaluating hs now tag).2.2 hbad⟩
        | kExcellent =>
            have hkept := (h.inv.judge_excellent hs now tag).2
            change (j.step (.outcome now tag)).d.dyntime_status_ = _ at hkept
            rw [hbad] at hkept
            split at hkept <;> cases hkept
        | kBad => exact absurd hs hne
      · obtain ⟨hev, hseven⟩ := (h.inv.judge_bad hs now tag).2 hne
        exact ⟨hev, .inr hseven⟩

/-- The estimate after tasks that have all ended in the same way. -/
def after (n : Nat) (tag : DynTimeTag) : Judged :=
  (List.replicate n tag).foldl (fun j tag => j.step (.outcome 1 tag)) ⟨.initial, []⟩

theorem reachable_after (n : Nat) (tag : DynTimeTag) : (after n tag).Reachable := by
  have hfold (tags : List DynTimeTag) : ∀ j : Judged, j.Reachable →
      (tags.foldl (fun j tag => j.step (.outcome 1 tag)) j).Reachable := by
    induction tags with
    | nil => exact fun j hj => hj
    | cons tag tags ih => exact fun j hj => ih _ (hj.next rfl)
  exact hfold _ _ (.start rfl)

/-- The fourth failure makes the network a bad one, and a reset takes that back. -/
theorem bad_of_failed_three :
    let j := (after 3 .failed).step (.outcome 1 .failed)
    j.d.dyntime_status_ = .kBad ∧ 4 ≤ (j.outcomes.rtake 10).countP (fun t => !t.ok) ∧
      (j.step .resetStatus).d.dyntime_status_ = .kEValuating := by
  have hafter := reachable_after 3 .failed
  have hbad : ((after 3 .failed).step (.outcome 1 .failed)).d.dyntime_status_ = .kBad := by
    decide +kernel
  have hnew : (after 3 .failed).d.dyntime_status_ ≠ .kBad := by decide +kernel
  exact ⟨hbad, ((hafter.bad_of_failed (.outcome 1 .failed)).1 hnew hbad).2,
    ((Reachable.bad_of_failed (hafter.next rfl) .resetStatus).2 hbad nofun).1⟩

/-- **When the network is taken for excellent.**  In every run the estimate turns excellent only
after ten tasks in a row have met the expectation, and stays so until the next task fails or the
estimate is reset. -/
theorem Reachable.excellent_of_met {j : Judged} (h : j.Reachable) (e : JudgedEvent) :
    (j.d.dyntime_status_ ≠ .kExcellent → (j.step e).d.dyntime_status_ = .kExcellent →
      10 ≤ (j.step e).outcomes.length ∧
        ∀ t ∈ (j.step e).outcomes.rtake 10, t.meets = true) ∧
    (j.d.dyntime_status_ = .kExcellent → (j.step e).d.dyntime_status_ =
      if e.ends then .kEValuating else .kExcellent) := by
  cases e with
  | resetStatus => exact ⟨nofun, fun _ => rfl⟩
  | outcome now tag =>
      refine ⟨fun hne hex => ?_, fun hs => ?_⟩
      · cases hs : j.d.dyntime_status_ with
        | kEValuating => exact (h.inv.judge_evaluating hs now tag).2.1 hex
        | kExcellent => exact absurd hs hne
        | kBad =>
            have hkept := (h.inv.judge_bad hs now tag).2
            change ((j.step (.outcome now tag)).d.dyntime_status_ ≠ .kBad →
              (j.step (.outcome now tag)).d.dyntime_status_ = _ ∧ _) at hkept
            rw [hex] at hkept
            cases (hkept nofun).1
      · have hkept := (h.inv.judge_excellent hs now tag).2
        change (j.step (.outcome now tag)).d.dyntime_status_ = _ at hkept
        simpa only [JudgedEvent.ends, decide_eq_true_eq] using hkept

/-- The tenth task in a row does, and a reset takes that back. -/
theorem excellent_of_met_nine :
    let j := (after 9 .meetExpect).step (.outcome 1 .meetExpect)
    j.d.dyntime_status_ = .kExcellent ∧ (∀ t ∈ j.outcomes.rtake 10, t.meets = true) ∧
      (j.step .resetStatus).d.dyntime_status_ = .kEValuating := by
  have hafter := reachable_after 9 .meetExpect
  have hex : ((after 9 .meetExpect).step (.outcome 1 .meetExpect)).d.dyntime_status_ =
      .kExcellent := by
    decide +kernel
  have hnew : (after 9 .meetExpect).d.dyntime_status_ ≠ .kExcellent := by decide +kernel
  exact ⟨hex, ((hafter.excellent_of_met (.outcome 1 .meetExpect)).1 hnew hex).2,
    (Reachable.excellent_of_met (hafter.next rfl) .resetStatus).2 hex⟩

end Judged

end MicroChat.Stn
