import Groute.Authoring.SavedTrip

/-!
# What a stop copies from its place

The detail screen shows a place from the collection `tour` and adds it to the trip
as a stop.  In between the fields travel through labels and properties: until the
place has been fetched these have the values of the storyboard and of the class,
and afterwards the label of the address shows the road address while the property
`address` holds the address.  `addClick` writes the label under "address" and the
property under "roadAddress".

A `Visit` follows what the user of a run chose last, and whether the place has been
fetched since.
-/

namespace Groute

/-- A document of the collection `tour` that has the five fields. -/
structure Document.IsTour (tour : Document) : Prop where
  name : (tour.string "name").isSome
  imageAddress : (tour.string "imageAddress").isSome
  address : (tour.string "address").isSome
  roadAddress : (tour.string "roadAddress").isSome
  geopoint : (tour.geoPoint "geopoint").isSome

/-- A stop has the fields of its place, and the section of the planner's row. -/
structure Document.Copies (d tour : Document) (section_ : Int) : Prop where
  name : d.get "name" = tour.get "name"
  imageAddress : d.get "imageAddress" = tour.get "imageAddress"
  address : d.get "address" = tour.get "address"
  roadAddress : d.get "roadAddress" = tour.get "roadAddress"
  geopoint : d.get "geopoint" = tour.get "geopoint"
  section_ : d.get "section" = some (.int section_)

/-- The place has nothing but the values that the detail screen starts with. -/
structure Document.IsPlaceholder (tour : Document) : Prop where
  name : tour.string "name" = some "name"
  imageAddress : tour.string "imageAddress" = some ""
  address : tour.string "address" = some "address"
  roadAddress : tour.string "roadAddress" = some ""
  geopoint : tour.geoPoint "geopoint" = some ⟨0, 0⟩

namespace DetailTourViewController

variable {tour : Document} {vc : DetailTourViewController}

/-- A stop has the fields of its place exactly if the properties have. -/
theorem addClick_copies_iff {section_ : Int} : vc.addClick.Copies tour section_ ↔
    tour.string "name" = some vc.nameLabel ∧ tour.string "imageAddress" = some vc.imageAddress ∧
      tour.string "address" = some vc.addressLabel ∧ tour.string "roadAddress" = some vc.address ∧
      tour.geoPoint "geopoint" = some vc.geoPoint ∧ vc.section_ = section_ := by
  simp only [Document.string_eq_some_iff, Document.geoPoint_eq_some_iff]
  constructor
  · rintro ⟨hname, himage, haddress, hroad, hpoint, hsection⟩
    exact ⟨hname.symm, himage.symm, haddress.symm, hroad.symm, hpoint.symm,
      Value.int.inj (Option.some.inj hsection)⟩
  · rintro ⟨hname, himage, haddress, hroad, hpoint, rfl⟩
    exact ⟨hname.symm, himage.symm, haddress.symm, hroad.symm, hpoint.symm, rfl⟩

/-- A stop that is added before the place is fetched copies the initial values. -/
theorem copies_initial_iff (tourId documentId : DocId) (section_ : Int) :
    (addClick { tourId, section_, documentId }).Copies tour section_ ↔ tour.IsPlaceholder := by
  rw [addClick_copies_iff]
  constructor
  · rintro ⟨hname, himage, haddress, hroad, hpoint, -⟩
    exact ⟨hname, himage, haddress, hroad, hpoint⟩
  · rintro ⟨hname, himage, haddress, hroad, hpoint⟩
    exact ⟨hname, himage, haddress, hroad, hpoint, rfl⟩

/-- A stop that is added afterwards has the two addresses swapped. -/
theorem copies_fetched_iff (htour : tour.IsTour) :
    (vc.getDetailTourDone tour).addClick.Copies tour vc.section_ ↔
      tour.string "address" = tour.string "roadAddress" := by
  obtain ⟨name, hname⟩ := Option.isSome_iff_exists.mp htour.name
  obtain ⟨imageAddress, himage⟩ := Option.isSome_iff_exists.mp htour.imageAddress
  obtain ⟨address, haddress⟩ := Option.isSome_iff_exists.mp htour.address
  obtain ⟨roadAddress, hroad⟩ := Option.isSome_iff_exists.mp htour.roadAddress
  obtain ⟨geopoint, hpoint⟩ := Option.isSome_iff_exists.mp htour.geopoint
  rw [addClick_copies_iff]
  simp only [getDetailTourDone, hname, himage, haddress, hroad, hpoint, Option.getD_some,
    Option.some.injEq, true_and, and_true]
  exact ⟨fun h => h.1, fun h => ⟨h, h.symm⟩⟩

end DetailTourViewController

/-- What the user of a run chose last. -/
structure Visit where
  /-- The section of the planner's row. -/
  section_ : Int := 0
  tourId : DocId := ""
  /-- The place has been fetched since it was chosen. -/
  fetched : Bool := false
deriving DecidableEq

namespace Visit

/-- The visit after an event of the run. -/
def step (v : Visit) : Session.Event → Bool → Visit
  | .openRouteList section_, _ => { v with section_ }
  | .openTour tourId, _ => { v with tourId, fetched := false }
  | .tourDone _, ok => { v with fetched := v.fetched || ok }
  | .editTitle _, _ | .editMemo _, _ | .next, _ | .pickCity _, _ | .confirmStop _, _ | .back, _
  | .saveConfirm, _ | .saveCancel, _ | .didAppear, _ | .searchRead, _ | .searchDone, _
  | .addRouteRead, _ | .addRouteDone _, _ | .routeSnapshot _ _, _ | .cleanUp _, _ => v

/-- Before the place is fetched it has to look like the initial values, and
afterwards its two addresses have to be the same. -/
def Copied (v : Visit) (tour : Document) : Prop :=
  if v.fetched then tour.string "address" = tour.string "roadAddress" else tour.IsPlaceholder

/-- What the detail screen shows. -/
def shown (v : Visit) (tours : DocId → Document) (documentId : DocId) :
    DetailTourViewController :=
  let vc : DetailTourViewController := { tourId := v.tourId, section_ := v.section_, documentId }
  if v.fetched then vc.getDetailTourDone (tours v.tourId) else vc

/-- Which stops are copied from their places. -/
theorem copies_shown_iff {v : Visit} {tours : DocId → Document} (documentId : DocId)
    (htour : (tours v.tourId).IsTour) :
    (v.shown tours documentId).addClick.Copies (tours v.tourId) v.section_ ↔
      v.Copied (tours v.tourId) := by
  rw [shown, Copied]
  split_ifs
  · exact DetailTourViewController.copies_fetched_iff htour
  · exact DetailTourViewController.copies_initial_iff _ _ _

end Visit

namespace Session

variable {s : Session} {st : Store} {e : Event} {ok : Bool} {r : Response} {v : Visit}
  {tours : DocId → Document}

/-- A run shows what its user chose. -/
structure Shows (tours : DocId → Document) (v : Visit) (s : Session) : Prop where
  section_ : s.routeList.section_ = v.section_
  detailTour : ∀ appeared, s.phase = .on .detailTour appeared →
    s.detailTour = v.shown tours s.detailTour.documentId
  pending : v.fetched = true → s.tourPending = false

/-- The handler of `getDetailTour` is given the document of the place. -/
def Fetches (tours : DocId → Document) (s : Session) : Event → Bool → Prop
  | .tourDone snapshot, true => snapshot = tours s.detailTour.tourId
  | _, _ => True

/-- Every reaction keeps to what the user chose. -/
theorem Reacts.shows (hr : Reacts s st e ok r) (h : Shows tours v s) (he : s.Fetches tours e ok) :
    Shows tours (v.step e ok) r.next := by
  cases hr with
  | editTitle | editMemo | searchRead | searchDone | addRouteRead | addRouteDone | routeSnapshot
  | routeFails | cleanUp => exact ⟨h.section_, h.detailTour, h.pending⟩
  | next | pickCity | confirmStop | leave | saveConfirm | saveCancel | searchAppears
  | addRouteAppears | searchFails | addRouteTraps | routeTraps =>
      exact ⟨h.section_, by rintro _ ⟨⟩, h.pending⟩
  | openRouteList => exact ⟨rfl, by rintro _ ⟨⟩, h.pending⟩
  | @openTour tourId _ hp =>
      refine ⟨h.section_, fun _ _ => ?_, nofun⟩
      show s.routeList.prepare tourId = _
      rw [RouteListViewController.prepare, h.section_]
      rfl
  | @tourDone snapshot _ hp =>
      have hfetched : v.fetched = false := by
        by_contra hne
        exact Bool.noConfusion ((h.pending (by simpa using hne)).symm.trans hp)
      refine ⟨h.section_, fun appeared hphase => ?_, fun _ => rfl⟩
      have hshown := h.detailTour appeared hphase
      cases ok with
      | false =>
          have hstep : v.step (.tourDone snapshot) false = v := by simp [Visit.step]
          rw [hstep]
          exact hshown
      | true =>
          have htourId : s.detailTour.tourId = v.tourId := by
            rw [hshown, Visit.shown, hfetched]
            rfl
          have hsnapshot : snapshot = tours v.tourId := htourId ▸ he
          rw [Visit.shown, hfetched] at hshown
          show s.detailTour.getDetailTourDone snapshot = _
          rw [hsnapshot, Visit.shown, Visit.step, Bool.or_true, if_pos rfl, hshown]
          rfl
  | @appears screen _ hp =>
      refine ⟨h.section_, fun appeared hphase => ?_, h.pending⟩
      obtain ⟨rfl, -⟩ := Phase.on.inj hphase
      exact h.detailTour false hp
  | @back screen below _ hp hb =>
      refine ⟨h.section_, fun appeared hphase => ?_, h.pending⟩
      obtain ⟨rfl, -⟩ := Phase.on.inj hphase
      cases screen <;> cases hb

end Session

namespace World

variable {w w' w₀ : World} {e : Event} {es : List Event} {i : Nat} {s : Session}
  {tours : DocId → Document}

/-- The visit of the `i`-th run after an event. -/
def visitStep (i : Nat) (v : Visit) : Event → Visit
  | .run j e ok => if j = i then v.step e ok else v
  | .enter .. | .elsewhere _ => v

/-- What the user of the `i`-th run chose last. -/
def visit (i : Nat) (es : List Event) : Visit := es.foldl (visitStep i) {}

/-- The handlers of `getDetailTour` are given the documents of their places. -/
def Fetches (tours : DocId → Document) (w : World) : Event → Prop
  | .run i e ok => ∀ s ∈ w.sessions[i]?, s.Fetches tours e ok
  | .enter .. | .elsewhere _ => True

/-- The `i`-th run shows what its user chose; before it starts nothing is chosen. -/
structure Shows (tours : DocId → Document) (i : Nat) (es : List Event) (w : World) : Prop where
  session : ∀ s, w.sessions[i]? = some s → s.phase.IsOpen → s.Shows tours (visit i es)
  before : w.sessions[i]? = none → visit i es = {}

/-- Every event keeps to what the users chose. -/
theorem Shows.step (h : Shows tours i es w) (he : w.Fetches tours e) (hw : w.step e = some w') :
    Shows tours i (es ++ [e]) w' := by
  have hvisit : visit i (es ++ [e]) = visitStep i (visit i es) e := by simp [visit]
  cases e with
  | enter created randomElement currentUser now ok =>
      obtain ⟨-, ⟨⟩⟩ := Option.ite_none_right_eq_some.mp hw
      refine ⟨fun s hs hopen => ?_, fun hnone => ?_⟩ <;> rw [hvisit]
      · dsimp only at hs
        by_cases hlt : i < w.sessions.length
        · rw [List.getElem?_append_left hlt] at hs
          exact h.session s hs hopen
        · rw [List.getElem?_append_right (Nat.le_of_not_lt hlt), List.getElem?_singleton] at hs
          obtain ⟨-, ⟨⟩⟩ := Option.ite_none_right_eq_some.mp hs
          rw [visitStep, h.before (List.getElem?_eq_none (Nat.le_of_not_lt hlt))]
          exact ⟨rfl, nofun, nofun⟩
      · refine h.before (List.getElem?_eq_none ?_)
        have hle := List.getElem?_eq_none_iff.mp hnone
        simp only [List.length_append, List.length_singleton] at hle
        omega
  | run j e ok =>
      obtain ⟨s, r, hs, hr, hcases⟩ := step_run hw
      have hreacts := Session.reacts_of_react hr
      by_cases hj : j = i
      · subst hj
        have hlt := (List.getElem?_eq_some_iff.mp hs).1
        rcases hcases with ⟨-, rfl⟩ | ⟨-, rfl⟩
        · refine ⟨fun s' hs' hopen => ?_, fun hnone => ?_⟩
          · cases (List.getElem?_set_self hlt).symm.trans hs'
            exact hopen.elim
          · cases (List.getElem?_set_self hlt).symm.trans hnone
        · refine ⟨fun s' hs' hopen => ?_, fun hnone => ?_⟩
          · cases (List.getElem?_set_self hlt).symm.trans hs'
            rw [hvisit, visitStep, if_pos rfl]
            exact hreacts.shows (h.session s hs (hreacts.isOpen hopen)) (he s hs)
          · cases (List.getElem?_set_self hlt).symm.trans hnone
      · have hsame : w'.sessions[i]? = w.sessions[i]? := by
          rcases hcases with ⟨-, rfl⟩ | ⟨-, rfl⟩ <;> exact List.getElem?_set_ne hj
        have hvisit' : visit i (es ++ [.run j e ok]) = visit i es := hvisit.trans (if_neg hj)
        exact ⟨fun s hs hopen => hvisit' ▸ h.session s (hsame ▸ hs) hopen,
          fun hnone => hvisit' ▸ h.before (hsame ▸ hnone)⟩
  | elsewhere wr =>
      obtain ⟨-, ⟨⟩⟩ := Option.ite_none_right_eq_some.mp hw
      exact ⟨fun s hs hopen => hvisit ▸ h.session s hs hopen, fun hnone => hvisit ▸ h.before hnone⟩

/-- **A stop copies its place.**  In any run of the app, the document that the confirm
action of `addClick` writes copies the place that the user chose, and the section of
the planner's row, exactly if the place was fetched before and its two addresses are
the same, or it was not and the place looks like the initial values. -/
theorem confirmStop_copies_iff {stop : DocId} (h₀ : w₀.Initial)
    (hrun : system.Steps (Fetches tours) w₀ es w)
    (htour : (tours (visit i es).tourId).IsTour) (hs : w.sessions[i]? = some s)
    (hstep : w.step (.run i (.confirmStop stop) true) = some w') :
    ∃ d, (w'.store.sub .route s.detailTour.documentId).get stop = some d ∧
      (d.Copies (tours (visit i es).tourId) (visit i es).section_ ↔
        (visit i es).Copied (tours (visit i es).tourId)) := by
  have hshows : w.Shows tours i es :=
    hrun.invariant_history (I := fun es w => w.Shows tours i es)
      (fun hI hC hstep => hI.step hC hstep)
      ⟨fun s hs => by simp [h₀.sessions] at hs, fun _ => rfl⟩
  obtain ⟨s', r, hs', hr, hcases⟩ := step_run hstep
  cases hs.symm.trans hs'
  cases Session.reacts_of_react hr with
  | confirmStop hp hfresh =>
      rcases hcases with ⟨hempty, -⟩ | ⟨-, rfl⟩
      · have howned : w.Owned := .runs h₀ hrun.runs
        have hresolved := howned.resolved s (List.mem_of_getElem? hs)
        exact absurd (List.mem_singleton.mp hempty).symm (hresolved.detailTour hp).1
      · have hshown := (hshows.session s hs (by rw [hp]; trivial)).detailTour true hp
        have hiff := Visit.copies_shown_iff s.detailTour.documentId htour
        rw [← hshown] at hiff
        refine ⟨s.detailTour.addClick, ?_, hiff⟩
        simp [Store.apply]

/-- A place with the given addresses. -/
def place (address roadAddress : String) : Document := .ofFields [
  ("name", .string "beach"),
  ("imageAddress", .string "beach.jpg"),
  ("address", .string address),
  ("roadAddress", .string roadAddress),
  ("geopoint", .geopoint ⟨33, 126⟩)]

theorem isTour_place (address roadAddress : String) : (place address roadAddress).IsTour :=
  ⟨rfl, rfl, rfl, rfl, rfl⟩

/-- A place is chosen for the third day, and fetched. -/
def toPlace (tour : Document) : List Session.Event :=
  [.openRouteList 2, .didAppear, .openTour "tour", .tourDone tour, .didAppear]

/-- The events of the only run up to there. -/
def choosePlace (tour : Document) : List Event :=
  enterTrip :: (toPlanner ++ toPlace tour).map fun e => .run 0 e true

/-- Its document is the one that is fetched. -/
theorem fetches_choosePlace {tour : Document} (hrun : system.Runs blank (choosePlace tour) w) :
    system.Steps (Fetches fun _ => tour) blank (choosePlace tour) w := by
  refine hrun.of_forall ?_
  simp [choosePlace, toPlanner, toPlace, enterTrip, Fetches, Session.Fetches]

/-- The two addresses are the same. -/
theorem choosePlace_copies : ∃ (w w' : World) (d : Document),
    system.Runs blank (choosePlace (place "A" "A")) w ∧
      w.step (.run 0 (.confirmStop "stop") true) = some w' ∧
      (w'.store.sub .route "trip").get "stop" = some d ∧ d.Copies (place "A" "A") 2 := by
  obtain ⟨w, hrun, hw⟩ := EventSystem.exists_runs_of_exec system blank
    (choosePlace (place "A" "A"))
    (fun w => (w.step (.run 0 (.confirmStop "stop") true)).isSome &&
      w.sessions[0]?.any fun s => s.detailTour.documentId = "trip") (by decide)
  obtain ⟨hstep, hsession⟩ := Bool.and_eq_true_iff.mp hw
  obtain ⟨w', hstep⟩ := Option.isSome_iff_exists.mp hstep
  obtain ⟨s, hs, htrip⟩ := (Option.any_eq_true _ _).mp hsession
  have htrip := of_decide_eq_true htrip
  obtain ⟨d, hd, hiff⟩ := confirmStop_copies_iff initial_blank (fetches_choosePlace hrun)
    (isTour_place "A" "A") hs hstep
  exact ⟨w, w', d, hrun, hstep, htrip ▸ hd, hiff.mpr rfl⟩

/-- The two addresses differ. -/
theorem exists_not_copies : ¬∀ {w₀ w w' : World} {es : List Event} {i : Nat} {s : Session}
    {tours : DocId → Document} {stop : DocId} {d : Document}, w₀.Initial →
    system.Steps (Fetches tours) w₀ es w → (tours (visit i es).tourId).IsTour →
    w.sessions[i]? = some s → w.step (.run i (.confirmStop stop) true) = some w' →
    (w'.store.sub .route s.detailTour.documentId).get stop = some d →
    d.Copies (tours (visit i es).tourId) (visit i es).section_ := by
  intro hall
  obtain ⟨w, hrun, hw⟩ := EventSystem.exists_runs_of_exec system blank
    (choosePlace (place "A" "B"))
    (fun w => (w.sessions[0]?.any fun s => s.detailTour.documentId = "trip") &&
      (w.step (.run 0 (.confirmStop "stop") true)).any fun w' =>
        ((w'.store.sub .route "trip").get "stop").any fun d =>
          d.get "address" = some (.string "B")) (by decide)
  obtain ⟨hsession, hstep⟩ := Bool.and_eq_true_iff.mp hw
  obtain ⟨s, hs, htrip⟩ := (Option.any_eq_true _ _).mp hsession
  obtain ⟨w', hstep, hd⟩ := (Option.any_eq_true _ _).mp hstep
  obtain ⟨d, hd, haddress⟩ := (Option.any_eq_true _ _).mp hd
  have htrip := of_decide_eq_true htrip
  have hcopies := hall initial_blank (fetches_choosePlace hrun) (isTour_place "A" "B") hs hstep
    (htrip ▸ hd)
  exact absurd ((of_decide_eq_true haddress).symm.trans hcopies.address) (by decide)

end World

end Groute
