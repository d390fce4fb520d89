import Groute.Main.Controller

/-!
# HOT within bounds

`favoriteCount` grows by one with each delivery of a listener and is never
trimmed, `content` is what the last fetch returned.  The segment HOT runs over
the first list and indexes both, so it stays in bounds exactly if no more
deliveries have happened than there are trips.
-/

namespace Groute

namespace MainList

open ViewController

variable {m m' : MainList} {e : Event} {es : List Event}

/-- A delivery of a listener counts once. -/
def Event.deliveries : Event → Nat
  | .favorites _ _ => 1
  | .fetched _ | .segmentSelect _ _ => 0

/-- How often the listeners have delivered. -/
def deliveries (es : List Event) : Nat := es.foldl (fun n e => n + e.deliveries) 0

/-- A fetch replaces the number of documents. -/
def Event.fetchedCount (n : Nat) : Event → Nat
  | .fetched documents => documents.length
  | .favorites _ _ | .segmentSelect _ _ => n

/-- How many documents the last fetch returned; 0 before the first. -/
def fetchedCount (es : List Event) : Nat := es.foldl Event.fetchedCount 0

/-- Every access of the selection is within bounds. -/
def InBounds (m : MainList) : Event → Prop
  | .segmentSelect sorter selectedSegmentIndex =>
      (m.vc.segmentSelect sorter selectedSegmentIndex).isSome
  | .favorites _ _ | .fetched _ => True

instance (m : MainList) (e : Event) : Decidable (m.InBounds e) :=
  match e with
  | .segmentSelect sorter selectedSegmentIndex =>
      inferInstanceAs (Decidable ((m.vc.segmentSelect sorter selectedSegmentIndex).isSome = true))
  | .favorites _ _ | .fetched _ => inferInstanceAs (Decidable True)

/-- The two lists are as long as the events say. -/
structure Counted (es : List Event) (m : MainList) : Prop where
  favoriteCount : m.vc.favoriteCount.length = deliveries es
  content : m.vc.content.length = fetchedCount es

/-- Selections keep the lengths. -/
theorem length_segmentSelect {vc : ViewController} {sorter : Sorter Content} {i : Nat}
    (h : m.vc.segmentSelect sorter i = some vc) :
    vc.favoriteCount = m.vc.favoriteCount ∧ vc.content.length = m.vc.content.length := by
  by_cases hi : i = 0
  · subst hi
    obtain ⟨hle, rfl⟩ := segmentSelect_hot h
    exact ⟨rfl, (sorter.perm_sort _ _).length_eq.trans (length_assigned hle)⟩
  · cases (if_neg hi).symm.trans h
    exact ⟨rfl, (sorter.perm_sort _ _).length_eq⟩

/-- Unless the process has trapped, the lists are as long as the events say. -/
theorem Counted.step (h : m.trapped = false → Counted es m) (hm : m.step e = some m') :
    m'.trapped = false → Counted (es ++ [e]) m' := by
  intro htrapped
  obtain ⟨hguard, hm⟩ := Option.ite_none_left_eq_some.mp hm
  obtain ⟨hrunning, -⟩ := not_or.mp hguard
  obtain ⟨hcount, hcontent⟩ := h (Bool.eq_false_of_not_eq_true hrunning)
  split at hm
  case h_2 => cases hm; cases htrapped
  case h_1 vc hvc =>
    cases hm
    have hdeliveries : deliveries (es ++ [e]) = deliveries es + e.deliveries := by
      simp [deliveries]
    have hfetched : fetchedCount (es ++ [e]) = e.fetchedCount (fetchedCount es) := by
      simp [fetchedCount]
    rw [← hcount] at hdeliveries
    rw [← hcontent] at hfetched
    cases e with
    | favorites i documents =>
        cases hvc
        exact ⟨by rw [hdeliveries]; exact List.length_append, hfetched.symm⟩
    | fetched documents =>
        rw [controller, getContentDone_mapM] at hvc
        obtain ⟨content, hmap, rfl⟩ := Option.map_eq_some_iff.mp hvc
        exact ⟨hdeliveries.symm, (TableView.length_mapM hmap).trans hfetched.symm⟩
    | segmentSelect sorter selectedSegmentIndex =>
        obtain ⟨hkeep, hlength⟩ := length_segmentSelect hvc
        exact ⟨(congrArg List.length hkeep).trans hdeliveries.symm, hlength.trans hfetched.symm⟩

/-- A selection stays in bounds if it is not HOT or there are enough entries. -/
theorem inBounds_iff : m.InBounds e ↔
    ∀ sorter, e = .segmentSelect sorter 0 → m.vc.favoriteCount.length ≤ m.vc.content.length := by
  cases e with
  | favorites | fetched => exact ⟨fun _ _ => nofun, fun _ => trivial⟩
  | segmentSelect sorter selectedSegmentIndex =>
      cases selectedSegmentIndex with
      | succ n => exact ⟨fun _ _ => nofun, fun _ => rfl⟩
      | zero =>
          constructor
          · rintro h - -
            obtain ⟨vc, hvc⟩ := Option.isSome_iff_exists.mp h
            exact (segmentSelect_hot hvc).1
          · intro h
            rw [InBounds, segmentSelect_of_le sorter (h sorter rfl)]
            rfl

/-- **HOT within bounds.**  Along a run every access is within bounds exactly if
before each selection of HOT the listeners have delivered at most as often as
the last fetch returned documents. -/
theorem steps_inBounds_iff (h : system.Runs {} es m) :
    system.Steps InBounds {} es m ↔
      ∀ fs sorter, fs ++ [.segmentSelect sorter 0] <+: es → deliveries fs ≤ fetchedCount fs := by
  have hcounted {fs : List Event} {u u' : MainList} {e : Event} (hu : system.Runs {} fs u)
      (hu' : u.step e = some u') : Counted fs u := by
    refine hu.invariant_history (I := fun fs u => u.trapped = false → Counted fs u)
      (fun hI _ hstep => Counted.step hI hstep) (fun _ => ⟨rfl, rfl⟩) ?_
    exact Bool.eq_false_of_not_eq_true (not_or.mp (Option.ite_none_left_eq_some.mp hu').1).1
  -- before each event of the run the state is the one its prefix leads to
  have hprefix {fs : List Event} {e : Event} (hfs : fs ++ [e] <+: es) :
      ∃ u, system.Runs {} fs u ∧ Counted fs u := by
    obtain ⟨gs, rfl⟩ := hfs
    obtain ⟨v, hv, -⟩ := h.split
    obtain ⟨u, hu, _ | ⟨-, hstep, -⟩⟩ := hv.split
    exact ⟨u, hu, hcounted hu hstep⟩
  rw [h.steps_iff_forall_prefix]
  constructor
  · intro hall fs sorter hfs
    obtain ⟨u, hu, hc⟩ := hprefix hfs
    have hle := inBounds_iff.mp (hall fs _ u hfs hu) sorter rfl
    rwa [hc.favoriteCount, hc.content] at hle
  · intro hall fs e u hfs hu
    obtain ⟨u', hu', hc⟩ := hprefix hfs
    obtain rfl := hu.unique hu'
    refine inBounds_iff.mpr fun sorter he => ?_
    subst he
    rw [hc.favoriteCount, hc.content]
    exact hall fs sorter hfs

/-- The listeners deliver once each, then trips are fetched, and both segments are
selected in turn. -/
def opened (documents : List (DocId × Document)) : List Event :=
  (List.finRange 5).map (Event.favorites · []) ++
    [.fetched documents, .segmentSelect .insertion 1, .segmentSelect .insertion 0]

/-- Trips without any text. -/
def trips (ids : List DocId) : List (DocId × Document) :=
  ids.map fun id => (id, .ofFields [("timestamp", .timestamp 0)])

theorem opened_inBounds : ∃ m,
    system.Steps InBounds {} (opened (trips ["1", "2", "3", "4", "5"])) m ∧
      ∀ fs sorter, fs ++ [.segmentSelect sorter 0] <+: opened (trips ["1", "2", "3", "4", "5"]) →
        deliveries fs ≤ fetchedCount fs := by
  obtain ⟨m, hsteps, -⟩ := EventSystem.exists_steps_of_exec system InBounds {}
    (opened (trips ["1", "2", "3", "4", "5"])) (fun _ => true) (by decide)
  exact ⟨m, hsteps, (steps_inBounds_iff hsteps.runs).mp hsteps⟩

/-- Four trips are too few. -/
theorem exists_not_inBounds : ¬∀ {es : List Event} {m : MainList},
    system.Runs {} es m → system.Steps InBounds {} es m := by
  intro hall
  obtain ⟨m, hrun, -⟩ := EventSystem.exists_runs_of_exec system {}
    (opened (trips ["1", "2", "3", "4"])) (fun _ => true) (by decide)
  have hnone : (system.exec InBounds {} (opened (trips ["1", "2", "3", "4"]))).isNone := by decide
  rw [EventSystem.steps_iff_exec.mp (hall hrun)] at hnone
  cases hnone

end MainList

end Groute
