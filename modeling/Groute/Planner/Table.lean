import Groute.Lib.SectionedTable
import Groute.Planner.Dates

/-!
# The rows of the planner

The table of the planner has a section for each day of the trip, as many as the user
defaults say, and a row for each stop in the bucket of the day.  The number of rows and
the text of a row are two case distinctions over the five buckets.

They agree in every state, and whatever changes a bucket or the number of days reloads
the table, so a row that the table holds can always be shown.
-/

namespace Groute

open AddRouteViewController

/-- The planner with its dates. -/
structure PlannerTable where
  vc : AddRouteViewController
  dates : DatePlanner

namespace PlannerTable

/-- What can happen; a source that reports an error delivers nothing. -/
inductive Event where
  | updateRouteDocument (documents : Option (List (DocId × Document)))
  | viewDidAppear
  | getRouteData (order : SetOrder RouteName) (documents : Option (List (DocId × Document)))
  | dates (e : DatePlanner.Event)

/-- The handlers of the two "done" buttons and of the confirm bar reload the table. -/
def reloads : DatePlanner.Event → Bool
  | .doneClick _ | .finishDoneClick _ | .calTime => true
  | .startCancelClick | .finishCancelClick => false

/-- The planner after an event, and whether its handler calls `reloadData`.  An
appearance registers a listener only, and a tap on a bar that is not enabled does
nothing. -/
def handle (p : PlannerTable) : Event → Option (PlannerTable × Bool)
  | .updateRouteDocument (some documents) =>
      (p.vc.updateRouteDocumentDone documents).map fun vc => ({ p with vc }, false)
  | .getRouteData order (some documents) =>
      (p.vc.getRouteDataDone order documents).map fun vc => ({ p with vc }, true)
  | .dates e =>
      match p.dates.step e with
      | some dates => if dates.trapped then none else some ({ p with dates }, reloads e)
      | none => some (p, false)
  | .viewDidAppear | .updateRouteDocument none | .getRouteData _ none => some (p, false)

/-- The number of days. -/
def days (p : PlannerTable) : Int := numberOfSections p.dates.defaults.days

/-- The numbers of rows of all sections; a negative number of sections aborts. -/
def counts (p : PlannerTable) : Option (List Nat) :=
  if p.days < 0 then none
  else some ((List.range p.days.toNat).map fun section_ =>
    p.vc.numberOfRowsInSection (section_ : Nat))

/-- The table. -/
def tableView : SectionedTable PlannerTable Event := ⟨counts, handle⟩

/-- A row of the table shows a stop in the bucket of its day, or nothing if there is
none. -/
structure Row (vc : AddRouteViewController) (section_ row : Nat) (label : String) : Prop where
  blank : 4 < section_ ∨ (vc.bucket section_).2 = [] → label = ""
  stop : section_ ≤ 4 → (vc.bucket section_).2 ≠ [] →
    ∃ stop, (vc.bucket section_).2[row]? = some stop ∧ label = stop.name

/-- The table holds the numbers that the data source would give, and each of its rows
can be shown. -/
structure Current (s : SectionedTable.State PlannerTable) : Prop where
  sections : (s.counts.length : Int) = s.vc.days
  rows : ∀ section_, section_ < s.counts.length →
    s.counts[section_]? = some (s.vc.vc.numberOfRowsInSection (section_ : Nat))
  cell : ∀ section_ count row, s.counts[section_]? = some count → row < count →
    ∃ label, s.vc.vc.cellForRowAt (section_ : Nat) row = some label ∧
      Row s.vc.vc section_ row label

variable {p p' : PlannerTable} {vc : AddRouteViewController} {es : List Event}
  {s : SectionedTable.State PlannerTable}

/-- A row that is counted has a text. -/
theorem exists_label {section_ row : Nat} (h : row < vc.numberOfRowsInSection section_) :
    ∃ label, vc.cellForRowAt section_ row = some label ∧ Row vc section_ row label := by
  rw [numberOfRowsInSection_eq, rowCount] at h
  rw [cellForRowAt_eq, locationLabel]
  by_cases hnil : (vc.bucket section_).2 = []
  · rw [if_pos (by simpa using hnil)]
    exact ⟨"", rfl, fun _ => rfl, fun _ hne => absurd hnil hne⟩
  · rw [if_neg (by simpa using hnil)] at h ⊢
    have hget := List.getElem?_eq_getElem h
    refine ⟨(vc.bucket section_).2[row].name, by rw [hget]; rfl, fun hblank => ?_,
      fun _ _ => ⟨_, hget, rfl⟩⟩
    -- a day from the sixth on has no bucket
    refine absurd (hblank.resolve_left fun hlate => hnil ?_) hnil
    rw [bucket_of_not_hasBucket fun hbucket => ?_]
    have hhigh := hbucket.2
    omega

/-- What is current says the same as the numbers that are held. -/
theorem current_of_counts (h : s.vc.counts = some s.counts) : Current s := by
  obtain ⟨hneg, hcounts⟩ := Option.ite_none_left_eq_some.mp h
  have hcounts := Option.some.inj hcounts
  have hlength : s.counts.length = s.vc.days.toNat := by simp [← hcounts]
  have hget (section_ : Nat) (hlt : section_ < s.counts.length) :
      s.counts[section_]? = some (s.vc.vc.numberOfRowsInSection section_) := by
    rw [hlength] at hlt
    rw [← hcounts, List.getElem?_map, List.getElem?_range hlt, Option.map_some]
  refine ⟨by omega, hget, fun section_ count row hcount hrow => ?_⟩
  have hlt := (List.getElem?_eq_some_iff.mp hcount).1
  cases hcount.symm.trans (hget section_ hlt)
  exact exists_label hrow

/-- Handlers that do not reload the table change neither a bucket nor the days. -/
theorem paired (s : SectionedTable.State PlannerTable) (e : Event) : tableView.Paired s e := by
  intro p hp
  change s.vc.handle e = some (p, false) at hp
  change counts p = counts s.vc
  cases e with
  | viewDidAppear => cases hp; rfl
  | updateRouteDocument documents =>
      cases documents with
      | none => cases hp; rfl
      | some documents =>
          obtain ⟨vc, hvc, ⟨⟩⟩ := Option.map_eq_some_iff.mp hp
          rw [updateRouteDocumentDone_eq hvc]
          rfl
  | getRouteData order documents =>
      cases documents with
      | none => cases hp; rfl
      | some documents => obtain ⟨_, -, ⟨⟩⟩ := Option.map_eq_some_iff.mp hp
  | dates e =>
      simp only [handle] at hp
      split at hp
      · next dates hdates =>
        obtain ⟨-, hp⟩ := Option.ite_none_left_eq_some.mp hp
        obtain ⟨rfl, hreloads⟩ := Prod.mk.inj (Option.some.inj hp)
        obtain ⟨-, hdates⟩ := Option.ite_none_left_eq_some.mp hdates
        cases e with
        | startCancelClick | finishCancelClick => cases hdates; rfl
        | doneClick | finishDoneClick | calTime => cases hreloads
      · cases hp; rfl

/-- **The rows of the planner.**  Whatever has happened on the planner, over any user
defaults, the table holds the numbers of sections and rows that the data source would
give, and each of its rows shows the stop or the blank text that it should, unless the
process has trapped. -/
theorem runs_current (h : tableView.system.Runs (tableView.display p) es s)
    (hrunning : s.trapped = false) : Current s :=
  current_of_counts (SectionedTable.fresh_of_paired paired h hrunning)

/-- A planner on a device with the given number of days in its user defaults. -/
def opened (days : Int) : PlannerTable where
  vc := ({} : SearchViewController).prepare ⟨"", "", "", ⟨0, 0⟩⟩
  dates := DatePlanner.loaded { days := some days }

/-- Two stops arrive, one of them on the sixth day, and the dates are confirmed. -/
def planned : List Event :=
  [.updateRouteDocument none, .viewDidAppear,
    .getRouteData .dedup (some [("a", stop 0 "x"), ("b", stop 5 "y")]),
    .dates (.doneClick 0), .dates (.finishDoneClick 86400), .dates .calTime]

theorem planned_current : ∃ s, tableView.system.Runs (tableView.display (opened 6)) planned s ∧
    s.counts = [1, 1] ∧ Current s := by
  obtain ⟨s, hrun, hs⟩ := EventSystem.exists_runs_of_exec tableView.system
    (tableView.display (opened 6)) planned (fun s => !s.trapped && s.counts = [1, 1])
    (by decide +kernel)
  obtain ⟨hrunning, hcounts⟩ := Bool.and_eq_true_iff.mp hs
  exact ⟨s, hrun, of_decide_eq_true hcounts, runs_current hrun (by simpa using hrunning)⟩

end PlannerTable

end Groute
