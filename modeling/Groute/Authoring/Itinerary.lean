import Groute.Authoring.Ownership

/-!
# What a saved trip should say

The confirm action of the save alert writes nothing: what a trip says is what
the screens wrote when they appeared or were opened.  An `Itinerary` follows
what the user does, independently of the controllers: the texts, the city chosen
last, the stops of day 1.  `Session.Follows` relates a run to it.

Of the four properties a saved trip should have, two always hold.  The city and
the image are written only by `changeContentField`, when the list of places is
opened; the itinerary remembers what they were at the last such visit.
-/

namespace Groute

/-- What the user has done, as far as it decides what the trip should say. -/
structure Itinerary where
  title : String := ""
  memo : String := ""
  /-- The name of the city chosen last. -/
  city : String := ""
  /-- The day for which the list of places was opened last. -/
  day : Int := 0
  /-- The image of the place on display. -/
  image : String := ""
  /-- The images of the stops added to day 1. -/
  firstDay : List String := []
  /-- The city when the list of places was opened last. -/
  visitedCity : String := ""
  /-- The images of the stops of day 1 at that time. -/
  visitedImages : List String := []
deriving DecidableEq

namespace Itinerary

/-- The itinerary after an event. -/
def step (it : Itinerary) : Session.Event → Itinerary
  | .editTitle text => { it with title := text }
  | .editMemo text => { it with memo := text }
  | .pickCity city => { it with city := city.cityName }
  | .openRouteList day => { it with
      day, visitedCity := it.city, visitedImages := it.firstDay }
  | .openTour _ => { it with image := "" }
  | .tourDone snapshot => { it with image := (snapshot.string "imageAddress").getD it.image }
  | .confirmStop _ => { it with
      firstDay := if it.day = 0 then it.firstDay ++ [it.image] else it.firstDay }
  | .next | .back | .saveConfirm | .saveCancel | .didAppear | .searchRead | .searchDone
  | .addRouteRead | .addRouteDone _ | .routeSnapshot _ _ | .cleanUp _ => it

/-- The user opened the list of places in the city chosen last, and did so again
after adding a stop to day 1 unless a stop without an image was added. -/
def Revisited (it : Itinerary) : Prop :=
  it.visitedCity = it.city ∧
    (it.firstDay ≠ [] → it.visitedImages ≠ [] ∨ "" ∈ it.firstDay)

instance (it : Itinerary) : Decidable it.Revisited := inferInstanceAs (Decidable (_ ∧ _))

end Itinerary

/-- What a document of `Content` says is complete with respect to an itinerary. -/
structure Document.Complete (d : Document) (it : Itinerary) (currentUser : Option String) :
    Prop where
  title : d.get "title" = some (.string it.title)
  memo : d.get "memo" = some (.string it.memo)
  location : d.get "location" = some (.string it.city)
  email : d.get "email" = some (.string (currentUser.getD ""))
  image : it.firstDay ≠ [] → ∃ image ∈ it.firstDay, d.get "imageAddress" = some (.string image)

/-- The title screen has been left with its texts. -/
def Phase.IsTitled : Phase → Prop
  | .on .title _ => False
  | .on _ _ | .saved => True
  | .cancelled | .left | .aborted => False

/-- The city screen has appeared since. -/
def Phase.IsWritten : Phase → Prop
  | .on .title _ | .on .search false => False
  | .on _ _ | .saved => True
  | .cancelled | .left | .aborted => False

/-- The run goes on or was saved. -/
def Phase.IsOpen : Phase → Prop
  | .on _ _ | .saved => True
  | .cancelled | .left | .aborted => False

namespace Session

variable {s : Session} {st : Store} {e : Event} {r : Response} {it : Itinerary}

/-- What the document of a run says. -/
structure Says (d : Document) (it : Itinerary) (s : Session) : Prop where
  title : s.phase.IsWritten → d.get "title" = some (.string it.title)
  memo : s.phase.IsWritten → d.get "memo" = some (.string it.memo)
  location : d.get "location" = some (.string it.visitedCity)
  email : d.get "email" = some (.string (s.currentUser.getD ""))
  image : ∃ image, d.get "imageAddress" = some (.string image) ∧
    (it.visitedImages = [] → image = "") ∧ (it.visitedImages ≠ [] → image ∈ it.visitedImages)

/-- What the stops of a run and the planner say about day 1. -/
structure Plans (it : Itinerary) (s : Session) (st : Store) : Prop where
  /-- Every stop was added by `addClick`. -/
  stops : ∀ {id d}, (st.sub .route s.created).get id = some d →
    ∃ vc : DetailTourViewController, d = vc.addClick ∧
      (vc.section_ = 0 → vc.imageAddress ∈ it.firstDay)
  /-- Day 1 is empty only if the user added nothing to it. -/
  firstDay : it.firstDay ≠ [] → ∃ id, ∃ vc : DetailTourViewController,
    (st.sub .route s.created).get id = some vc.addClick ∧ vc.section_ = 0
  received : ∀ route ∈ s.addRoute.tmp0, route.imageAddress ∈ it.firstDay
  section0 : ∀ route ∈ s.addRoute.section0, route ∈ s.addRoute.tmp0
  current : s.phase = .on .addRoute true → s.routesCurrent = true → it.firstDay ≠ [] →
    s.addRoute.section0 ≠ []

/-- A run and its document follow the itinerary. -/
structure Follows (it : Itinerary) (s : Session) (st : Store) : Prop where
  title : s.title.titleTextField = it.title
  memo : s.title.memoTextView = it.memo
  contentTitle : s.phase.IsTitled → s.search.contentTitle = it.title
  contentMemo : s.phase.IsTitled → s.search.contentMemo = it.memo
  city : s.addRoute.location = it.city
  day : s.routeList.section_ = it.day
  tour : ∀ {appeared}, s.phase = .on .detailTour appeared → s.detailTour.section_ = it.day
  image : s.detailTour.imageAddress = it.image
  visited : ∀ image ∈ it.visitedImages, image ∈ it.firstDay
  deletion : s.deletion = none
  document : ∃ d, st.content.get s.created = some d ∧ Says d it s
  plans : Plans it s st

/-- All callbacks have been delivered: no look-up waits for its result, and on
the planner a listener has delivered the stops. -/
structure Delivered (s : Session) : Prop where
  searchLookUp : s.searchLookUp.answers = [] ∧
    (s.searchLookUp.asked ≠ 0 → s.searchLookUp.delivered ≠ [])
  addRouteLookUp : s.addRouteLookUp.asked = 0 ∧ s.addRouteLookUp.answers = []
  routes : s.phase = .on .addRoute true → s.routesCurrent = true
  tour : s.tourPending = false

instance (s : Session) : Decidable s.Delivered :=
  decidable_of_iff ((s.searchLookUp.answers.isEmpty ∧
      (s.searchLookUp.asked ≠ 0 → ¬s.searchLookUp.delivered.isEmpty)) ∧
      (s.addRouteLookUp.asked = 0 ∧ s.addRouteLookUp.answers.isEmpty) ∧
      (s.phase = .on .addRoute true → s.routesCurrent = true) ∧ s.tourPending = false) <| by
    simp only [List.isEmpty_iff]
    exact ⟨fun ⟨h₁, h₂, h₃, h₄⟩ => ⟨h₁, h₂, h₃, h₄⟩, fun ⟨h₁, h₂, h₃, h₄⟩ => ⟨h₁, h₂, h₃, h₄⟩⟩

/-- The events that are steps of the user. -/
def Event.isUser : Event → Bool
  | .editTitle _ | .editMemo _ | .next | .pickCity _ | .openRouteList _ | .openTour _
  | .confirmStop _ | .back | .saveConfirm | .saveCancel => true
  | .didAppear | .searchRead | .searchDone | .addRouteRead | .addRouteDone _
  | .routeSnapshot _ _ | .tourDone _ | .cleanUp _ => false

/-! ## One reaction -/

/-- What a document says depends on the texts, on the last visit to the list of
places, and on whether the texts are due. -/
theorem Says.mono {d : Document} {it' : Itinerary} {s' : Session} (h : Says d it s)
    (hwritten : s'.phase.IsWritten → s.phase.IsWritten)
    (hit : (it'.title, it'.memo, it'.visitedCity, it'.visitedImages) =
      (it.title, it.memo, it.visitedCity, it.visitedImages))
    (hcurrentUser : s'.currentUser = s.currentUser) : Says d it' s' := by
  simp only [Prod.mk.injEq] at hit
  obtain ⟨htitle, hmemo, hcity, himages⟩ := hit
  constructor
  · rw [htitle]
    exact fun hp => h.title (hwritten hp)
  · rw [hmemo]
    exact fun hp => h.memo (hwritten hp)
  · rw [hcity]
    exact h.location
  · rw [hcurrentUser]
    exact h.email
  · rw [himages]
    exact h.image

/-- Another phase, in which nothing more is due. -/
theorem Follows.moves (h : Follows it s st) (q : LookUp) {phase : Phase}
    (htitled : phase.IsTitled → s.phase.IsTitled)
    (hwritten : phase.IsWritten → s.phase.IsWritten)
    (htour : ∀ {appeared}, phase = .on .detailTour appeared →
      ∃ appeared, s.phase = .on .detailTour appeared)
    (hplanner : phase ≠ .on .addRoute true) :
    Follows it { s with phase, addRouteLookUp := q } st :=
  { h with
    contentTitle := fun hp => h.contentTitle (htitled hp)
    contentMemo := fun hp => h.contentMemo (htitled hp)
    tour := fun hp => (htour hp).elim fun _ hp => h.tour hp
    document := h.document.imp fun _ hd => ⟨hd.1, hd.2.mono hwritten rfl rfl⟩
    plans := { h.plans with current := fun hp => absurd hp hplanner } }

/-- The stops as the planner receives them. -/
theorem routeName_addClick (id : DocId) (vc : DetailTourViewController) :
    AddRouteViewController.routeName (id, vc.addClick) =
      some ⟨id, vc.nameLabel, vc.section_, vc.geoPoint, vc.imageAddress⟩ := rfl

/-- The planner after a listener has delivered the stops. -/
theorem Plans.snapshot {order : SetOrder RouteName} {vc : AddRouteViewController}
    (h : Plans it s st)
    (hvc : s.addRoute.getRouteDataDone order (st.sub .route s.created).docs = some vc) :
    Plans it { s with addRoute := vc, routesCurrent := true } st := by
  have hbucket := AddRouteViewController.getRouteDataDone_bucket 0
    ⟨by decide, by decide⟩ hvc
  generalize hreceived : ((st.sub .route s.created).docs.filterMap
    AddRouteViewController.routeName).filter (·.section_ = 0) = received at hbucket
  change (vc.tmp0, vc.section0) = if received = [] then (s.addRoute.tmp0, s.addRoute.section0)
    else (s.addRoute.tmp0 ++ received, order.list (s.addRoute.tmp0 ++ received)) at hbucket
  have hfirst : ∀ route ∈ received, route.imageAddress ∈ it.firstDay := by
    intro route hmem
    rw [← hreceived, List.mem_filter, List.mem_filterMap] at hmem
    obtain ⟨⟨⟨id, d⟩, hdoc, hroute⟩, hday⟩ := hmem
    obtain ⟨stop, rfl, himage⟩ := h.stops (Collection.mem_docs_iff.mp hdoc)
    cases (routeName_addClick id stop).symm.trans hroute
    exact himage (of_decide_eq_true hday)
  have hall : it.firstDay ≠ [] → received ≠ [] := by
    intro hne
    obtain ⟨id, stop, hget, hday⟩ := h.firstDay hne
    refine List.ne_nil_of_mem (a := ⟨id, stop.nameLabel, stop.section_, stop.geoPoint,
      stop.imageAddress⟩) ?_
    rw [← hreceived, List.mem_filter, List.mem_filterMap]
    exact ⟨⟨_, Collection.mem_docs_iff.mpr hget, routeName_addClick id stop⟩,
      decide_eq_true hday⟩
  by_cases hnil : received = []
  · rw [if_pos hnil, Prod.mk.injEq] at hbucket
    exact { h with
      received := by rw [hbucket.1]; exact h.received
      section0 := by rw [hbucket.1, hbucket.2]; exact h.section0
      current := fun _ _ hne => absurd hnil (hall hne) }
  · rw [if_neg hnil, Prod.mk.injEq] at hbucket
    exact { h with
      received := by
        rw [hbucket.1]
        exact fun route hmem => (List.mem_append.mp hmem).elim (h.received route) (hfirst route)
      section0 := by
        rw [hbucket.1, hbucket.2]
        exact fun route hmem => order.mem_list.mp hmem
      current := fun _ _ _ => by
        rw [hbucket.2, ne_eq, SetOrder.list_eq_nil_iff]
        simp [hnil] }

/-- A list of places is opened with an image of a stop of day 1, if the planner
shows one. -/
theorem Plans.image (h : Plans it s st) (hp : s.phase = .on .addRoute true)
    (hcurrent : s.routesCurrent = true) :
    (it.firstDay = [] → ((s.addRoute.section0.head?.map RouteName.imageAddress).getD "") = "") ∧
      (it.firstDay ≠ [] →
        ((s.addRoute.section0.head?.map RouteName.imageAddress).getD "") ∈ it.firstDay) := by
  have hsound : ∀ route ∈ s.addRoute.section0, route.imageAddress ∈ it.firstDay :=
    fun route hmem => h.received route (h.section0 route hmem)
  cases hsection : s.addRoute.section0 with
  | nil => exact ⟨fun _ => rfl, fun hne => absurd hsection (h.current hp hcurrent hne)⟩
  | cons route routes =>
      have himage := hsound route (by rw [hsection]; exact List.mem_cons_self)
      exact ⟨fun hnil => absurd himage (by simp [hnil]), fun _ => himage⟩

/-- Listed fields of the trip of a run are replaced. -/
theorem get_updateContent {id : DocId} {d : Document} {fields : Fields}
    (h : st.content.get id = some d) :
    (st.applyAll [.updateContent id fields]).content.get id = some (d.updateData fields) := by
  rw [Store.applyAll_singleton, Store.apply, Collection.get_modify_self, h, Option.map_some]

/-- The list of places is opened. -/
theorem Follows.openRouteList (h : Follows it s st) (hs : s.Own) (hr : s.Resolved)
    (hp : s.phase = .on .addRoute true) (hcurrent : s.routesCurrent = true) (day : Int) :
    Follows (it.step (.openRouteList day))
      { s with routeList := s.addRoute.prepare s.currentUser day, phase := .on .routeList false }
      (st.applyAll [.updateContent s.addRoute.newDocumentId
        (s.addRoute.prepare s.currentUser day).changeContentField]) := by
  rw [hs.newDocumentId.resolve_left (hr.planner hp)]
  obtain ⟨d, hd, hsays⟩ := h.document
  have hphase : s.phase.IsWritten := by rw [hp]; trivial
  exact { h with
    contentTitle := fun _ => h.contentTitle (by rw [hp]; trivial)
    contentMemo := fun _ => h.contentMemo (by rw [hp]; trivial)
    day := rfl
    tour := nofun
    visited := fun _ hmem => hmem
    document := ⟨_, get_updateContent hd, {
      title := fun _ => hsays.title hphase
      memo := fun _ => hsays.memo hphase
      location := congrArg (fun city => some (Value.string city)) h.city
      email := rfl
      image := ⟨_, rfl, h.plans.image hp hcurrent⟩ }⟩
    plans := { h.plans with current := nofun } }

/-- The city screen appears. -/
theorem Follows.searchAppears (h : Follows it s st) (hs : s.Own)
    (hp : s.phase = .on .search false) (hid : s.search.id ≠ "") :
    Follows it { s with phase := .on .search true }
      (st.applyAll [.updateContent s.search.id s.search.updateTitle]) := by
  rw [hs.search_id.resolve_left hid]
  obtain ⟨d, hd, hsays⟩ := h.document
  have hphase : s.phase.IsTitled := by rw [hp]; trivial
  exact { h with
    contentTitle := fun _ => h.contentTitle hphase
    contentMemo := fun _ => h.contentMemo hphase
    tour := nofun
    document := ⟨_, get_updateContent hd, {
      title := fun _ => congrArg (fun title => some (Value.string title)) (h.contentTitle hphase)
      memo := fun _ => congrArg (fun memo => some (Value.string memo)) (h.contentMemo hphase)
      location := hsays.location
      email := hsays.email
      image := hsays.image }⟩
    plans := { h.plans with current := nofun } }

/-- A stop is added. -/
theorem Follows.confirmStop {stop : DocId} (h : Follows it s st) (hs : s.Own) (hr : s.Resolved)
    (hp : s.phase = .on .detailTour true)
    (hstop : (st.sub .route s.detailTour.documentId).get stop = none) :
    Follows (it.step (.confirmStop stop)) { s.popTo .addRoute with routesCurrent := false }
      (st.applyAll [.addSub .route s.detailTour.documentId stop s.detailTour.addClick]) := by
  rw [hs.detailTour.resolve_left (hr.detailTour hp).1] at hstop ⊢
  have hget : ∀ id, ((st.applyAll [.addSub .route s.created stop s.detailTour.addClick]).sub
      .route s.created).get id =
        if id = stop then some s.detailTour.addClick else (st.sub .route s.created).get id := by
    intro id
    rw [Store.applyAll_singleton, Store.apply, Store.setSub_sub_self]
    split
    · next hid => rw [hid, Collection.get_set_self]
    · next hid => exact Collection.get_set_of_ne _ _ hid
  have hday := h.tour hp
  have hgrow : ∀ image ∈ it.firstDay, image ∈ (it.step (.confirmStop stop)).firstDay := by
    intro image hmem
    simp only [Itinerary.step]
    split
    · exact List.mem_append_left _ hmem
    · exact hmem
  have hnew : s.detailTour.section_ = 0 →
      s.detailTour.imageAddress ∈ (it.step (.confirmStop stop)).firstDay := by
    intro hzero
    simp only [Itinerary.step]
    rw [if_pos (hday.symm.trans hzero), h.image]
    exact List.mem_append_right _ List.mem_cons_self
  exact { h with
    contentTitle := fun _ => h.contentTitle (by rw [hp]; trivial)
    contentMemo := fun _ => h.contentMemo (by rw [hp]; trivial)
    tour := by rintro _ ⟨⟩
    visited := fun image hmem => hgrow image (h.visited image hmem)
    document := h.document.imp fun d hd =>
      ⟨hd.1, hd.2.mono (fun _ => by rw [hp]; trivial) rfl rfl⟩
    plans := {
      stops := by
        intro id d hd
        rw [popTo, hget] at hd
        split at hd
        · cases hd
          exact ⟨s.detailTour, rfl, hnew⟩
        · obtain ⟨vc, rfl, himage⟩ := h.plans.stops hd
          exact ⟨vc, rfl, fun hzero => hgrow _ (himage hzero)⟩
      firstDay := by
        intro hne
        by_cases hzero : s.detailTour.section_ = 0
        · exact ⟨stop, s.detailTour, by rw [popTo, hget, if_pos rfl], hzero⟩
        · simp only [Itinerary.step] at hne
          rw [if_neg (hday ▸ hzero)] at hne
          obtain ⟨id, vc, hvc, hzero'⟩ := h.plans.firstDay hne
          have hid : id ≠ stop := fun hid => by
            rw [hid, hstop] at hvc
            cases hvc
          exact ⟨id, vc, by rw [popTo, hget, if_neg hid, hvc], hzero'⟩
      received := fun route hmem => hgrow _ (h.plans.received route hmem)
      section0 := h.plans.section0
      current := by rintro ⟨⟩ } }

/-- The title screen hands its texts on. -/
theorem Follows.next (h : Follows it s st) :
    Follows it { s with
      search := s.title.prepare, searchLookUp := { asked := 1 }
      phase := .on .search false } st := by
  have htexts := s.title.prepare_texts
  exact { h with
    contentTitle := fun _ => htexts.1.trans h.title
    contentMemo := fun _ => htexts.2.trans h.memo
    tour := by rintro _ ⟨⟩
    document := h.document.imp fun d hd => ⟨hd.1, hd.2.mono (by rintro ⟨⟩) rfl rfl⟩
    plans := { h.plans with current := by rintro ⟨⟩ } }

/-- A city is chosen, and the planner starts with nothing. -/
theorem Follows.pickCity (h : Follows it s st) (hp : s.phase = .on .search true) (city : City) :
    Follows (it.step (.pickCity city)) { s with
      addRoute := s.search.prepare city, addRouteLookUp := { asked := 1 }, listeners := []
      phase := .on .addRoute false } st :=
  { h with
    contentTitle := fun _ => h.contentTitle (by rw [hp]; trivial)
    contentMemo := fun _ => h.contentMemo (by rw [hp]; trivial)
    city := rfl
    tour := by rintro _ ⟨⟩
    document := h.document.imp fun d hd =>
      ⟨hd.1, hd.2.mono (fun _ => by rw [hp]; trivial) rfl rfl⟩
    plans := { h.plans with
      received := by rintro _ ⟨⟩
      section0 := by rintro _ ⟨⟩
      current := by rintro ⟨⟩ } }

/-- A place is opened for the day of the list. -/
theorem Follows.openTour (h : Follows it s st) (hp : s.phase = .on .routeList true)
    (tourId : DocId) :
    Follows (it.step (.openTour tourId)) { s with
      detailTour := s.routeList.prepare tourId, tourPending := true
      phase := .on .detailTour false } st :=
  { h with
    contentTitle := fun _ => h.contentTitle (by rw [hp]; trivial)
    contentMemo := fun _ => h.contentMemo (by rw [hp]; trivial)
    tour := fun _ => h.day
    image := rfl
    document := h.document.imp fun d hd =>
      ⟨hd.1, hd.2.mono (fun _ => by rw [hp]; trivial) rfl rfl⟩
    plans := { h.plans with current := by rintro ⟨⟩ } }

/-- The user goes back to the screen below. -/
theorem Follows.back {screen below : Screen} (h : Follows it s st)
    (hp : s.phase = .on screen true) (hb : screen.below = some below) :
    Follows it (s.popTo below) st := by
  cases screen with
  | title => cases hb
  | search =>
      cases hb
      exact h.moves _ (by rintro ⟨⟩) (by rintro ⟨⟩) (by rintro _ ⟨⟩) (by rintro ⟨⟩)
  | addRoute =>
      cases hb
      exact h.moves _ (fun _ => by rw [hp]; trivial) (by rintro ⟨⟩) (by rintro _ ⟨⟩)
        (by rintro ⟨⟩)
  | routeList | detailTour =>
      cases hb
      exact h.moves _ (fun _ => by rw [hp]; trivial) (fun _ => by rw [hp]; trivial)
        (by rintro _ ⟨⟩) (by rintro ⟨⟩)

/-- The planner appears, and a new listener has delivered nothing yet. -/
theorem Follows.addRouteAppears (h : Follows it s st) (hp : s.phase = .on .addRoute false)
    (listeners : List DocId) :
    Follows it { s with listeners, routesCurrent := false, phase := .on .addRoute true } st :=
  { h with
    contentTitle := fun _ => h.contentTitle (by rw [hp]; trivial)
    contentMemo := fun _ => h.contentMemo (by rw [hp]; trivial)
    tour := by rintro _ ⟨⟩
    document := h.document.imp fun d hd =>
      ⟨hd.1, hd.2.mono (fun _ => by rw [hp]; trivial) rfl rfl⟩
    plans := { h.plans with current := by rintro - ⟨⟩ } }

/-- One of the other screens appears. -/
theorem Follows.appears {screen : Screen} (h : Follows it s st) (hp : s.phase = .on screen false)
    (hsearch : screen ≠ .search) (haddRoute : screen ≠ .addRoute) :
    Follows it { s with phase := .on screen true } st := by
  cases screen with
  | title =>
      exact h.moves s.addRouteLookUp (by rintro ⟨⟩) (by rintro ⟨⟩) (by rintro _ ⟨⟩)
        (by rintro ⟨⟩)
  | search => exact absurd rfl hsearch
  | addRoute => exact absurd rfl haddRoute
  | routeList =>
      exact h.moves s.addRouteLookUp (fun _ => by rw [hp]; trivial)
        (fun _ => by rw [hp]; trivial) (by rintro _ ⟨⟩) (by rintro ⟨⟩)
  | detailTour =>
      exact h.moves s.addRouteLookUp (fun _ => by rw [hp]; trivial)
        (fun _ => by rw [hp]; trivial) (fun _ => ⟨_, hp⟩) (by rintro ⟨⟩)

/-- A listener delivers the stops of the trip. -/
theorem Follows.routeSnapshot {k : Nat} {tripId : DocId} {order : SetOrder RouteName}
    {vc : AddRouteViewController} (h : Follows it s st) (hs : s.Own)
    (hk : s.listeners[k]? = some tripId)
    (hvc : s.addRoute.getRouteDataDone order (st.sub .route tripId).docs = some vc) :
    Follows it { s with addRoute := vc, routesCurrent := true } st := by
  rw [hs.listeners _ (List.mem_of_getElem? hk)] at hvc
  obtain ⟨-, -, hlocation⟩ := AddRouteViewController.getRouteDataDone_fixed hvc
  exact { h with
    city := hlocation.trans h.city
    document := h.document.imp fun d hd => ⟨hd.1, hd.2.mono id rfl rfl⟩
    plans := h.plans.snapshot hvc }

/-- A reaction leads to an open phase from an open phase only. -/
theorem Reacts.isOpen {ok : Bool} (h : Reacts s st e ok r) (hr : r.next.phase.IsOpen) :
    s.phase.IsOpen := by
  cases h with
  | searchRead | searchDone | addRouteRead | addRouteDone | routeSnapshot | routeFails
  | tourDone | cleanUp => exact hr
  | searchFails | addRouteTraps | routeTraps => cases hr
  | editTitle hp | editMemo hp | next hp | pickCity hp | openRouteList hp | openTour hp
  | confirmStop hp | leave hp | back hp | saveConfirm hp | saveCancel hp | searchAppears hp
  | addRouteAppears hp | appears hp => rw [hp]; trivial

/-- A successful reaction that stays in the flow follows the itinerary, provided
that the user waits for the callbacks. -/
theorem Reacts.follows (h : Reacts s st e true r) (hs : s.Own) (hr : s.Resolved)
    (hd : "" ∉ r.documents) (hprompt : e.isUser → s.Delivered) (hf : Follows it s st)
    (hopen : r.next.phase.IsOpen) :
    Follows (it.step e) r.next (st.applyAll r.writes) := by
  cases h with
  | @editTitle text _ hp =>
      exact { hf with
        title := rfl
        contentTitle := fun h => by rw [hp] at h; cases h
        document := hf.document.imp fun d hd =>
          ⟨hd.1, { hd.2 with title := fun h => by rw [hp] at h; cases h }⟩
        plans := { hf.plans with } }
  | @editMemo text _ hp =>
      exact { hf with
        memo := rfl
        contentMemo := fun h => by rw [hp] at h; cases h
        document := hf.document.imp fun d hd =>
          ⟨hd.1, { hd.2 with memo := fun h => by rw [hp] at h; cases h }⟩
        plans := { hf.plans with } }
  | next => exact hf.next
  | pickCity hp => exact hf.pickCity hp _
  | openRouteList hp => exact hf.openRouteList hs hr hp ((hprompt rfl).routes hp) _
  | openTour hp => exact hf.openTour hp _
  | confirmStop hp hstop => exact hf.confirmStop hs hr hp hstop
  | leave | saveCancel => cases hopen
  | back hp hb => exact hf.back hp hb
  | saveConfirm hp =>
      exact hf.moves s.addRouteLookUp (fun _ => by rw [hp]; trivial)
        (fun _ => by rw [hp]; trivial) (by rintro _ ⟨⟩) (by rintro ⟨⟩)
  | searchAppears hp =>
      exact hf.searchAppears hs hp fun hid => hd (List.mem_singleton.mpr hid.symm)
  | addRouteAppears hp => exact hf.addRouteAppears hp _
  | appears hp hsearch haddRoute => exact hf.appears hp hsearch haddRoute
  | searchRead | addRouteRead =>
      exact { hf with
        document := hf.document.imp fun d hd => ⟨hd.1, hd.2.mono id rfl rfl⟩
        plans := { hf.plans with } }
  | searchDone hq =>
      rw [SearchViewController.getRealDocumentIdDone_eq]
      exact { hf with
        document := hf.document.imp fun d hd => ⟨hd.1, hd.2.mono id rfl rfl⟩
        plans := { hf.plans with } }
  | addRouteDone hq hvc =>
      rw [AddRouteViewController.updateRouteDocumentDone_eq hvc]
      exact { hf with
        document := hf.document.imp fun d hd => ⟨hd.1, hd.2.mono id rfl rfl⟩
        plans := { hf.plans with } }
  | routeSnapshot hk hvc => exact hf.routeSnapshot hs hk hvc
  | addRouteTraps | routeTraps => cases hopen
  | @tourDone snapshot _ hp =>
      exact { hf with
        tour := hf.tour
        image := congrArg (fun image => (snapshot.string "imageAddress").getD image) hf.image
        document := hf.document.imp fun d hd => ⟨hd.1, { hd.2 with }⟩
        plans := { hf.plans with } }
  | cleanUp hdel hstep => cases hdel.symm.trans hf.deletion

end Session

end Groute
