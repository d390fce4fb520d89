import Mathlib.Data.Rat.Floor
import Mathlib.Tactic.Linarith
import Groute.Lib.EventSystem
import Groute.Planner.Buckets

/-!
# Confirming the dates

The planner keeps the dates of the trip in the user defaults, which earlier trips
have used before.  Each of the two pickers stores its date and shows it in its
text field; only the second one enables the confirm bar.  A tap on the bar reads
both dates back with forced casts and stores the number of days.

So the dates that are read are those on display exactly if both pickers have been
used on this screen, and the number is positive exactly if the second date is less
than a day — of 86399 seconds — earlier than the first one.
-/

namespace Groute

open AddRouteViewController

/-- The planner's keys in the user defaults. -/
structure TripDefaults where
  firstDate : Option Date := none
  lastDate : Option Date := none
  days : Option Int := none
deriving DecidableEq

/-- The controls of the planner that deal with the dates. -/
structure DatePlanner where
  defaults : TripDefaults := {}
  /-- The date that `startTextField` shows. -/
  startTextField : Option Date := none
  /-- The date that `finishTextField` shows. -/
  finishTextField : Option Date := none
  /-- `confirmButtonView.isUserInteractionEnabled`. -/
  confirmEnabled : Bool := false
  /-- `tableView.isHidden`. -/
  tableHidden : Bool := true
  /-- The process has trapped. -/
  trapped : Bool := false
deriving DecidableEq

namespace DatePlanner

variable {s s₀ t : DatePlanner} {first last : Date}

/-- `Int(_:)` of a number with a fraction: towards zero. -/
def truncate (x : ℚ) : Int := if 0 ≤ x then ⌊x⌋ else ⌈x⌉

/-- The number of days that `calTime` computes. -/
def dayCount (firstDay lastDay : Date) : Int := truncate ((lastDay - firstDay) / 86399) + 1

/-- `tableView.reloadData()`: a negative number of sections aborts. -/
def reloadData (s : DatePlanner) : DatePlanner :=
  { s with trapped := decide (numberOfSections s.defaults.days < 0) }

/-- "Done" in the first picker. -/
def doneClick (s : DatePlanner) (date : Date) : DatePlanner :=
  reloadData { s with
    defaults := { s.defaults with firstDate := some date }, startTextField := some date }

/-- "Done" in the second picker. -/
def finishDoneClick (s : DatePlanner) (date : Date) : DatePlanner :=
  reloadData { s with
    defaults := { s.defaults with lastDate := some date }
    finishTextField := some date
    confirmEnabled := true }

/-- A tap on the confirm bar. -/
def calTime (s : DatePlanner) : DatePlanner :=
  let s := { s with tableHidden := false }
  match s.defaults.firstDate, s.defaults.lastDate with
  | some firstDay, some lastDay =>
      reloadData { s with defaults := { s.defaults with days := some (dayCount firstDay lastDay) } }
  | _, _ => { s with trapped := true }

/-- With both dates in the user defaults the number of days is stored. -/
theorem calTime_of_some (hfirst : s.defaults.firstDate = some first)
    (hlast : s.defaults.lastDate = some last) :
    s.calTime = reloadData { s with
      tableHidden := false
      defaults := { s.defaults with days := some (dayCount first last) } } := by
  rw [calTime]
  simp only [hfirst, hlast]

/-- What can happen. -/
inductive Event where
  | doneClick (date : Date)
  | startCancelClick
  | finishDoneClick (date : Date)
  | finishCancelClick
  | calTime

/-- The state after an event, unless the process has trapped. -/
def step (s : DatePlanner) (e : Event) : Option DatePlanner :=
  if s.trapped then none else match e with
  | .doneClick date => some (s.doneClick date)
  | .finishDoneClick date => some (s.finishDoneClick date)
  | .startCancelClick | .finishCancelClick => some s
  | .calTime => if s.confirmEnabled then some s.calTime else none

/-- The screen. -/
def system : EventSystem DatePlanner Event := ⟨step⟩

/-- The screen has just been loaded, over whatever the user defaults hold. -/
def loaded (defaults : TripDefaults) : DatePlanner := { defaults }

/-- A tap on the confirm bar does not trap, uses the dates on display, and stores a
positive number of days. -/
def Confirms (s : DatePlanner) : Event → Prop
  | .calTime => ∀ t, s.step .calTime = some t →
      t.trapped = false ∧
      (∃ first last, s.startTextField = some first ∧ s.finishTextField = some last ∧
        s.defaults.firstDate = some first ∧ s.defaults.lastDate = some last) ∧
      1 ≤ numberOfSections t.defaults.days
  | .doneClick _ | .startCancelClick | .finishDoneClick _ | .finishCancelClick => True

/-- Both dates are there, and the second one is less than 86399 seconds earlier than
the first. -/
def InOrder : Option Date → Option Date → Prop
  | some first, some last => -86399 < last - first
  | none, _ | some _, none => False

instance : (first last : Option Date) → Decidable (InOrder first last)
  | some first, some last => inferInstanceAs (Decidable (-86399 < last - first))
  | none, _ | some _, none => inferInstanceAs (Decidable False)

theorem inOrder_iff {start finish : Option Date} : InOrder start finish ↔
    ∃ first last, start = some first ∧ finish = some last ∧ -86399 < last - first := by
  cases start <;> cases finish <;> simp [InOrder]

/-- At a tap on the confirm bar both pickers have been used on this screen, and the
dates are in order. -/
def Picked (s : DatePlanner) : Event → Prop
  | .calTime => InOrder s.startTextField s.finishTextField
  | .doneClick _ | .startCancelClick | .finishDoneClick _ | .finishCancelClick => True

instance (s : DatePlanner) (e : Event) : Decidable (s.Picked e) :=
  match e with
  | .calTime => inferInstanceAs (Decidable (InOrder _ _))
  | .doneClick _ | .startCancelClick | .finishDoneClick _ | .finishCancelClick =>
      inferInstanceAs (Decidable True)

/-- A number is truncated to zero or more exactly above minus one. -/
theorem truncate_nonneg_iff {x : ℚ} : 0 ≤ truncate x ↔ -1 < x := by
  unfold truncate
  split_ifs with h
  · exact iff_of_true (Int.floor_nonneg.mpr h) (by linarith)
  · rw [Int.le_iff_lt_add_one, ← sub_lt_iff_lt_add, zero_sub, Int.lt_ceil]
    norm_num

/-- When the number of days is positive. -/
theorem one_le_dayCount_iff : 1 ≤ dayCount first last ↔ -86399 < last - first := by
  rw [dayCount, le_add_iff_nonneg_left, truncate_nonneg_iff, lt_div_iff₀ (by norm_num)]
  norm_num

/-- The dates on display are those in the user defaults, and the confirm bar is
enabled by the second picker. -/
structure Inv (s : DatePlanner) : Prop where
  first : ∀ date, s.startTextField = some date → s.defaults.firstDate = some date
  last : ∀ date, s.finishTextField = some date → s.defaults.lastDate = some date
  enabled : s.confirmEnabled = true → s.finishTextField.isSome

/-- Every step keeps the invariant. -/
theorem Inv.step {e : Event} (h : s.Inv) (hstep : s.step e = some t) : t.Inv := by
  obtain ⟨-, hstep⟩ := Option.ite_none_left_eq_some.mp hstep
  cases e with
  | doneClick date => cases hstep; exact ⟨fun _ hd => hd, h.last, h.enabled⟩
  | finishDoneClick date => cases hstep; exact ⟨h.first, fun _ hd => hd, fun _ => rfl⟩
  | startCancelClick | finishCancelClick => cases hstep; exact h
  | calTime =>
      obtain ⟨-, ⟨⟩⟩ := Option.ite_none_right_eq_some.mp hstep
      unfold DatePlanner.calTime
      dsimp only
      split <;> exact ⟨h.first, h.last, h.enabled⟩

/-- A tap does what it should exactly if the dates were picked. -/
theorem Inv.confirms_iff {e : Event} (h : s.Inv) (hstep : s.step e = some t) :
    s.Confirms e ↔ s.Picked e := by
  cases e with
  | doneClick | startCancelClick | finishDoneClick | finishCancelClick => exact Iff.rfl
  | calTime =>
      have ht : s.calTime = t := by
        obtain ⟨-, hstep⟩ := Option.ite_none_left_eq_some.mp hstep
        exact Option.some.inj (Option.ite_none_right_eq_some.mp hstep).2
      constructor
      · intro hconfirms
        obtain ⟨-, ⟨first, last, hfirst, hlast, hfirst', hlast'⟩, hdays⟩ := hconfirms t hstep
        rw [← ht, calTime_of_some hfirst' hlast'] at hdays
        exact inOrder_iff.mpr ⟨first, last, hfirst, hlast, one_le_dayCount_iff.mp hdays⟩
      · intro hpicked u hu
        obtain ⟨first, last, hfirst, hlast, horder⟩ := inOrder_iff.mp hpicked
        obtain rfl := Option.some.inj (hstep.symm.trans hu)
        have hfirst' := h.first first hfirst
        have hlast' := h.last last hlast
        have hdays : 1 ≤ dayCount first last := one_le_dayCount_iff.mpr horder
        rw [← ht, calTime_of_some hfirst' hlast']
        refine ⟨?_, ⟨first, last, hfirst, hlast, hfirst', hlast'⟩, hdays⟩
        exact decide_eq_false (not_lt.mpr (zero_le_one.trans hdays))

/-- **Confirming the dates.**  On a newly loaded planner, over any user defaults,
every tap on the confirm bar does what it should exactly if the dates were picked
on this screen and in order; from the first tap on the number of days is positive. -/
theorem steps_confirms_iff {defaults : TripDefaults} {es : List Event}
    (h : system.Runs (loaded defaults) es s) :
    (system.Steps Confirms (loaded defaults) es s ↔ system.Steps Picked (loaded defaults) es s) ∧
      (system.Steps Confirms (loaded defaults) es s → .calTime ∈ es →
        1 ≤ numberOfSections s.defaults.days) := by
  constructor
  · refine h.iff_steps (I := Inv) (fun hI _ _ hstep => hI.step hstep)
      (fun hI _ hstep => hI.confirms_iff hstep) ⟨?_, ?_, ?_⟩ <;> nofun
  · intro hsteps
    refine hsteps.invariant_history
      (I := fun es s => .calTime ∈ es → 1 ≤ numberOfSections s.defaults.days) ?_ nofun
    intro es s e t hI hC hstep hmem
    cases e with
    | calTime => exact (hC t hstep).2.2
    | doneClick | startCancelClick | finishDoneClick | finishCancelClick =>
        obtain ⟨-, hstep'⟩ := Option.ite_none_left_eq_some.mp hstep
        cases hstep'
        exact hI (by simpa using hmem)

/-- Both pickers are used over the dates of an earlier trip. -/
theorem confirms_weekend : ∃ s, system.Steps Confirms (loaded ⟨some 5, none, some 0⟩)
    [.finishDoneClick 86400, .doneClick 0, .startCancelClick, .calTime, .finishCancelClick] s ∧
      1 ≤ numberOfSections s.defaults.days := by
  obtain ⟨s, hsteps, -⟩ := EventSystem.exists_steps_of_exec system Picked
    (loaded ⟨some 5, none, some 0⟩)
    [.finishDoneClick 86400, .doneClick 0, .startCancelClick, .calTime, .finishCancelClick]
    (fun _ => true) (by decide +kernel)
  obtain ⟨hiff, hdays⟩ := steps_confirms_iff hsteps.runs
  exact ⟨s, hiff.mpr hsteps, hdays (hiff.mpr hsteps) (by simp)⟩

/-- On a new installation only the second picker is used. -/
theorem exists_not_confirms : ¬∀ {defaults : TripDefaults} {es : List Event} {s : DatePlanner},
    system.Runs (loaded defaults) es s → system.Steps Confirms (loaded defaults) es s := by
  intro hall
  obtain ⟨s, hrun, hs⟩ := EventSystem.exists_runs_of_exec system (loaded {})
    [.finishDoneClick 86400] (fun s => (s.step .calTime).any DatePlanner.trapped) (by decide)
  obtain ⟨t, hstep, htrapped⟩ : ∃ t, system.step s .calTime = some t ∧ t.trapped = true :=
    (Option.any_eq_true _ _).mp hs
  obtain ⟨hfine, -⟩ := (hall (hrun.snoc trivial hstep)).last hrun t hstep
  exact Bool.noConfusion (hfine.symm.trans htrapped)

end DatePlanner

end Groute
