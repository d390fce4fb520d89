import Groute.Lib.RowUpdates
import Groute.MyTrips.Rows

/-!
# The table of the user's own trips

`SecondTabViewController` reloads its table when it appears, when a fetch is answered and
when a trip has been deleted.  A swipe and a delete that fails change one row each, and tell
the table so.  In between fetches of several appearances and deletions of several swipes are
on their way, and each of them can change the rows.

`OwnTable` is the screen with the rows that the user sees; these alone can be swiped.
-/

namespace Groute

open TableView

/-- A cell of the list of the user's own trips.  The time is shown as a day. -/
structure SecondTabTableViewCell where
  document : CurrentUserDocument
  routeImage : String
  addressName : String
  Time : Date
deriving DecidableEq

namespace SecondTabViewController

/-- What a cell shows of a trip. -/
def cell (document : CurrentUserDocument) : SecondTabTableViewCell where
  document := document
  routeImage := document.imageAddress
  addressName := document.title
  Time := document.timestamp

/-- `tableView(_:numberOfRowsInSection:)`. -/
def numberOfRowsInSection (vc : SecondTabViewController) : Nat := vc.filteredDocument.length

/-- `tableView(_:cellForRowAt:)`. -/
def cellForRowAt (vc : SecondTabViewController) (row : Nat) : Option SecondTabTableViewCell :=
  vc.filteredDocument[row]?.map cell

end SecondTabViewController

open SecondTabViewController (cell)

/-- The screen, and the rows that its table shows. -/
structure OwnTable where
  screen : MyTrips
  tableView : List SecondTabTableViewCell := []
  /-- The table has stopped the program, or the access of a row that it shows has. -/
  stopped : Bool := false

namespace OwnTable

/-- What the handler of an event tells the table. -/
def update (t : MyTrips) : MyTrips.Event → Update
  | .viewWillAppear _ | .done _ _ => .reload
  | .read _ | .elsewhere _ => .keep
  | .swipe row => .delete row
  | .deletion j .document ok =>
      if ok then .reload else (t.swipes[j]?.map fun s => Update.insert s.row).getD .keep
  | .deletion _ (.read _) _ | .deletion _ (.deleted _ _) _ => .keep

/-- The table after an event that has led to `screen`; a trap comes before it is told. -/
def told (t : OwnTable) (update : Update) (screen : MyTrips) : OwnTable :=
  if screen.trapped then { t with screen }
  else match update.apply screen.vc.numberOfRowsInSection screen.vc.cellForRowAt t.tableView with
    | some tableView => { t with screen, tableView }
    | none => { t with screen, stopped := true }

/-- The user swipes a row that is shown; the other events do not depend on the table. -/
def offers (t : OwnTable) : MyTrips.Event → Bool
  | .swipe row => decide (row < t.tableView.length)
  | .viewWillAppear _ | .read _ | .done _ _ | .deletion _ _ _ | .elsewhere _ => true

/-- The state after an event, unless the process has trapped.  The array may not have the
row that is swiped. -/
def step (t : OwnTable) (e : MyTrips.Event) : Option OwnTable :=
  if t.stopped || t.screen.trapped || !t.offers e then none
  else match t.screen.step e, e with
    | some screen, _ => some (t.told (update t.screen e) screen)
    | none, .swipe _ => some { t with stopped := true }
    | none, .viewWillAppear _ | none, .read _ | none, .done _ _ | none, .deletion _ _ _
    | none, .elsewhere _ => none

/-- The screen with its table. -/
def system : EventSystem OwnTable MyTrips.Event := ⟨step⟩

/-- The table shows the rows that the screen holds. -/
structure Current (t : OwnTable) : Prop where
  running : t.stopped = false
  tableView : t.screen.trapped = false → t.tableView = t.screen.vc.filteredDocument.map cell

variable {t t' t₀ : OwnTable} {m m' : MyTrips} {e : MyTrips.Event} {es : List MyTrips.Event}

/-- The rows that a swipe leaves. -/
theorem swipe_step {row : Nat} (h : m.step (.swipe row) = some m') :
    ∃ myContent, m.vc.filteredDocument[row]? = some myContent ∧
      m'.vc.filteredDocument = m.vc.filteredDocument.eraseIdx row ∧
      m'.swipes = m.swipes ++ [⟨myContent, row, .swipe myContent.id⟩] := by
  obtain ⟨-, h⟩ := Option.ite_none_left_eq_some.mp h
  obtain ⟨⟨myContent, vc⟩, hcommit, rfl⟩ := Option.map_eq_some_iff.mp h
  obtain ⟨content, hrow, ⟨⟩⟩ := Option.map_eq_some_iff.mp hcommit
  exact ⟨myContent, hrow, rfl, rfl⟩

/-- The rows after an operation of a swipe has completed. -/
theorem vc_deletion {j : Nat} {d : Deletion.Event} {ok : Bool}
    (h : m.step (.deletion j d ok) = some m') (htrapped : m'.trapped = false) :
    ∃ s, m.swipes[j]? = some s ∧ m.afterDocument s d ok = some m'.vc := by
  obtain ⟨-, h⟩ := Option.ite_none_left_eq_some.mp h
  obtain ⟨s, hs, h⟩ := Option.bind_eq_some_iff.mp h
  obtain ⟨⟨deletion, writes⟩, -, rfl⟩ := Option.map_eq_some_iff.mp h
  refine ⟨s, hs, ?_⟩
  revert htrapped
  cases m.afterDocument s d ok with
  | none => rintro ⟨⟩
  | some vc => exact fun _ => rfl

/-- What a handler tells the table is what it has done to the rows. -/
theorem update_tells (h : m.step e = some m') (htrapped : m'.trapped = false) :
    (update m e).Tells m.vc.filteredDocument m'.vc.filteredDocument := by
  cases e with
  | viewWillAppear sorter | done i order => trivial
  | read ok =>
      obtain ⟨-, h⟩ := Option.ite_none_left_eq_some.mp h
      obtain ⟨-, ⟨⟩⟩ := Option.ite_none_left_eq_some.mp h
      rfl
  | elsewhere w =>
      obtain ⟨-, h⟩ := Option.ite_none_left_eq_some.mp h
      obtain ⟨-, ⟨⟩⟩ := Option.ite_none_right_eq_some.mp h
      rfl
  | swipe row =>
      obtain ⟨myContent, hrow, hrows, -⟩ := swipe_step h
      exact ⟨(List.getElem?_eq_some_iff.mp hrow).1, hrows⟩
  | deletion j d ok =>
      obtain ⟨s, hs, hafter⟩ := vc_deletion h htrapped
      rw [MyTrips.afterDocument] at hafter
      cases d with
      | read c | deleted c id =>
          rw [if_neg (by rintro ⟨⟨⟩, -⟩)] at hafter
          rw [← Option.some.inj hafter]
          rfl
      | document =>
          cases ok with
          | true => trivial
          | false =>
              rw [if_pos ⟨rfl, rfl⟩] at hafter
              obtain ⟨hrow, hvc⟩ := Option.ite_none_right_eq_some.mp hafter
              have hupdate : update m (.deletion j .document false) = .insert s.row := by
                show (m.swipes[j]?.map _).getD _ = _
                rw [hs]
                rfl
              rw [hupdate, ← Option.some.inj hvc]
              exact ⟨hrow, s.myContent, rfl⟩

/-- Telling the table changes nothing else. -/
theorem screen_told {update : Update} : (t.told update m).screen = m := by
  rw [told]
  split
  · rfl
  · split <;> rfl

/-- A handler leaves the table as a reload would. -/
theorem Current.told (h : t.Current) (hm : t.screen.step e = some m)
    (htrapped : t.screen.trapped = false) : (t.told (update t.screen e) m).Current := by
  rw [OwnTable.told]
  split
  · next htrap =>
    exact ⟨h.running, fun hrun => absurd htrap (by rw [hrun]; exact Bool.false_ne_true)⟩
  · next htrap =>
    have hrun : m.trapped = false := eq_false_of_ne_true htrap
    have happly : (update t.screen e).apply m.vc.numberOfRowsInSection m.vc.cellForRowAt
        t.tableView = some (m.vc.filteredDocument.map cell) := by
      rw [h.tableView htrapped]
      exact Update.apply_eq (update_tells hm hrun) cell
    rw [happly]
    exact ⟨h.running, fun _ => rfl⟩

/-- What a step of the screen with its table is. -/
theorem Current.step_cases (h : t.Current) (hs : t.step e = some t') :
    t.screen.trapped = false ∧ ∃ m, t.screen.step e = some m ∧
      t' = t.told (update t.screen e) m := by
  obtain ⟨hguard, hs⟩ := Option.ite_none_left_eq_some.mp hs
  simp only [Bool.or_eq_true, Bool.not_eq_true', not_or, Bool.not_eq_true,
    Bool.not_eq_false] at hguard
  obtain ⟨⟨-, htrapped⟩, hoffers⟩ := hguard
  refine ⟨htrapped, ?_⟩
  cases hm : t.screen.step e with
  | some m =>
      rw [hm] at hs
      exact ⟨m, rfl, (Option.some.inj hs).symm⟩
  | none =>
      rw [hm] at hs
      cases e with
      | viewWillAppear | read | done | deletion | elsewhere => cases hs
      | swipe row =>
          -- the row is shown, so the array has it
          have hrow : row < t.screen.vc.filteredDocument.length := by
            have hlt : row < t.tableView.length := of_decide_eq_true hoffers
            rwa [h.tableView htrapped, List.length_map] at hlt
          rw [MyTrips.step, htrapped, if_neg Bool.false_ne_true] at hm
          obtain ⟨myContent, hmyContent⟩ : ∃ c, t.screen.vc.filteredDocument[row]? = some c :=
            ⟨_, List.getElem?_eq_getElem hrow⟩
          simp only [SecondTabViewController.commit, hmyContent] at hm
          cases hm

/-- Every step leaves the table up to date. -/
theorem Current.step (h : t.Current) (hs : t.step e = some t') : t'.Current := by
  obtain ⟨htrapped, m, hm, rfl⟩ := h.step_cases hs
  exact h.told hm htrapped

/-- A swipe takes away the row that is swiped, and deletes the trip that it shows. -/
structure Swiped (t : OwnTable) (row : Nat) (t' : OwnTable) : Prop where
  tableView : t'.tableView = t.tableView.eraseIdx row
  deletes : ∃ cell s, t.tableView[row]? = some cell ∧ t'.screen.swipes = t.screen.swipes ++ [s] ∧
    s.myContent = cell.document ∧ s.deletion = .swipe cell.document.id

/-- A delete that fails puts the row of its swipe back where it was swiped. -/
def PutBack (t : OwnTable) (j : Nat) (t' : OwnTable) : Prop :=
  ∃ s, t.screen.swipes[j]? = some s ∧ t'.tableView = t.tableView.insertIdx s.row (cell s.myContent)

/-- What a step does to single rows. -/
structure Moves (t : OwnTable) (e : MyTrips.Event) (t' : OwnTable) : Prop where
  swiped : ∀ row, e = .swipe row → t.Swiped row t'
  putBack : ∀ j, e = .deletion j .document false → t'.screen.trapped = false → t.PutBack j t'

theorem Current.swiped {row : Nat} (h : t.Current) (hs : t.step (.swipe row) = some t') :
    t.Swiped row t' := by
  have h' := h.step hs
  obtain ⟨htrapped, m, hm, rfl⟩ := h.step_cases hs
  obtain ⟨myContent, hrow, hrows, hswipes⟩ := swipe_step hm
  have hrun : m.trapped = false := by
    obtain ⟨-, hm⟩ := Option.ite_none_left_eq_some.mp hm
    obtain ⟨-, -, rfl⟩ := Option.map_eq_some_iff.mp hm
    exact htrapped
  have hscreen : (t.told (update t.screen (.swipe row)) m).screen = m := screen_told
  constructor
  · rw [h'.tableView (by rwa [hscreen]), h.tableView htrapped, hscreen, hrows, List.eraseIdx_map]
  · refine ⟨cell myContent, _, ?_, by rw [hscreen, hswipes], rfl, rfl⟩
    rw [h.tableView htrapped, List.getElem?_map, hrow]
    rfl

theorem Current.putBack {j : Nat} (h : t.Current)
    (hs : t.step (.deletion j .document false) = some t') (hrun : t'.screen.trapped = false) :
    t.PutBack j t' := by
  have h' := h.step hs
  obtain ⟨htrapped, m, hm, rfl⟩ := h.step_cases hs
  rw [screen_told] at hrun
  obtain ⟨s, hswipe, hafter⟩ := vc_deletion hm hrun
  rw [MyTrips.afterDocument, if_pos ⟨rfl, rfl⟩] at hafter
  obtain ⟨-, hvc⟩ := Option.ite_none_right_eq_some.mp hafter
  refine ⟨s, hswipe, ?_⟩
  rw [h'.tableView (by rwa [screen_told]), h.tableView htrapped, screen_told,
    ← Option.some.inj hvc, List.map_insertIdx]

/-- The screen is loaded. -/
structure Loaded (t : OwnTable) : Prop where
  screen : t.screen.Start
  tableView : t.tableView = []
  stopped : t.stopped = false

theorem Loaded.current (h : t.Loaded) : t.Current := by
  refine ⟨h.stopped, fun _ => ?_⟩
  rw [h.tableView, h.screen.vc]
  rfl

/-- **The rows that are shown.**  In every run the table never stops the program.  A failed
delete can: its row may be put back beyond the end of the array, and then the screen is
`trapped` before it tells the table.  As long as it is not, the table shows what a reload would
show, and gains and loses the rows that are swiped and put back. -/
theorem steps_shown (h₀ : t₀.Loaded) (h : system.Runs t₀ es t) :
    t.stopped = false ∧
      (t.screen.trapped = false → reload t.screen.vc.numberOfRowsInSection
        t.screen.vc.cellForRowAt = some t.tableView) ∧
      ∀ fs e u v, fs ++ [e] <+: es → system.Runs t₀ fs u → u.step e = some v → u.Moves e v := by
  have hcurrent : t.Current := h.invariant (fun hI _ hs => hI.step hs) h₀.current
  refine ⟨hcurrent.running, fun hrun => ?_, fun fs e u v hfs hu hv => ?_⟩
  · rw [hcurrent.tableView hrun]
    exact Update.reload_map _ cell
  · have hu' : u.Current := hu.invariant (fun hI _ hs => hI.step hs) h₀.current
    constructor
    · rintro row rfl
      exact hu'.swiped hv
    · rintro j rfl hrun
      exact hu'.putBack hv hrun

/-- The screen with the only trip of a user. -/
def oneTrip : OwnTable := { screen := MyTrips.oneTrip }

/-- The trip is swiped away once the screen has appeared a second time, and the delete fails. -/
def swipedBack : List MyTrips.Event :=
  MyTrips.appear ++ MyTrips.appear ++ [.swipe 0, .deletion 0 .document false]

theorem swipedBack_shown : ∃ t, system.Runs oneTrip swipedBack t ∧ t.stopped = false ∧
    t.tableView = [cell ⟨"trip", "Jeju", "", 0⟩] ∧
    (t.screen.trapped = false → reload t.screen.vc.numberOfRowsInSection
      t.screen.vc.cellForRowAt = some t.tableView) ∧
    ∀ fs e u v, fs ++ [e] <+: swipedBack → system.Runs oneTrip fs u → u.step e = some v →
      u.Moves e v := by
  obtain ⟨t, hrun, ht⟩ := EventSystem.exists_runs_of_exec system oneTrip swipedBack
    (fun t => t.tableView = [cell ⟨"trip", "Jeju", "", 0⟩]) (by decide)
  obtain ⟨hstopped, hreload, hmoves⟩ :=
    steps_shown ⟨MyTrips.start_oneTrip, rfl, rfl⟩ hrun
  exact ⟨t, hrun, hstopped, of_decide_eq_true ht, hreload, hmoves⟩

end OwnTable

end Groute
