import Groute.Authoring.Controllers
import Groute.Firestore.Deletion
import Groute.Lib.EventSystem

/-!
# One authoring run

A `Session` is one run through the authoring flow: it starts when the title
screen loads (and `createRouteDocument` adds the trip's document) and ends when
the user leaves the title screen, chooses an action of the save alert, or the
process aborts.

`Session.react` is what the run does on one event: a user action, a life-cycle
callback of UIKit, or a completion of a Firestore call.  Completions are events
of their own, so every interleaving is a list of events.  A look-up is read at
some moment after it was issued (`…Read`) and its handler runs at some later
moment (`…Done`).

`db.collection("Content").document(x)` aborts the process when `x` is empty.
A response therefore lists the arguments of the `document(_)` calls it makes,
and `Session.perform` aborts the run instead of writing when one is empty.

Choosing the dates of the trip touches neither the database nor the properties
below, and is left out.
-/

namespace Groute

/-- The screens of the flow. -/
inductive Screen where
  | title
  | search
  | addRoute
  | routeList
  | detailTour
deriving DecidableEq

/-- The screen below one on the navigation stack. -/
def Screen.below : Screen → Option Screen
  | .title => none
  | .search => some .title
  | .addRoute => some .search
  | .routeList => some .addRoute
  | .detailTour => some .routeList

/-- Where a run stands. -/
inductive Phase where
  /-- A screen is on top; `appeared` says whether its `viewDidAppear` has run. -/
  | on (screen : Screen) (appeared : Bool)
  /-- The save alert was confirmed. -/
  | saved
  /-- The save alert was cancelled. -/
  | cancelled
  /-- The user went back from the title screen. -/
  | left
  /-- The process aborted. -/
  | aborted
deriving DecidableEq

/-- A query that looks up documents by their `id` field. -/
structure LookUp where
  /-- How often it was issued and has not been read. -/
  asked : Nat := 0
  /-- Results that were read and whose handler has not run. -/
  answers : List (List (DocId × Document)) := []
  /-- Results whose handler has run. -/
  delivered : List (List (DocId × Document)) := []

/-- Take the `i`-th result that waits for its handler. -/
def LookUp.deliver (q : LookUp) (i : Nat) : Option (List (DocId × Document) × LookUp) :=
  q.answers[i]?.map fun documents =>
    (documents, { q with
      answers := q.answers.eraseIdx i
      delivered := q.delivered ++ [documents] })

/-- One authoring run. -/
structure Session where
  /-- `auth.currentUser?.email`. -/
  currentUser : Option String
  /-- The document that `createRouteDocument` added.  The source discards this
  reference; no method below reads it. -/
  created : DocId
  title : TitleViewController
  search : SearchViewController := {}
  /-- The listener of `getRealDocumentId`. -/
  searchLookUp : LookUp := {}
  addRoute : AddRouteViewController := {}
  /-- The queries of `updateRouteDocument`. -/
  addRouteLookUp : LookUp := {}
  /-- The documents whose `Route` collection `getRouteData` listens to. -/
  listeners : List DocId := []
  /-- A listener has delivered the current stops. -/
  routesCurrent : Bool := false
  routeList : RouteListViewController := {}
  detailTour : DetailTourViewController := {}
  /-- The read of `getDetailTour` has not been answered. -/
  tourPending : Bool := false
  /-- What the cancel action of the save alert has issued. -/
  deletion : Option Deletion := none
  phase : Phase := .on .title false

namespace Session

/-- What can happen during a run. -/
inductive Event where
  /-- The text of the title field changes. -/
  | editTitle (text : String)
  /-- The text of the memo changes. -/
  | editMemo (text : String)
  /-- The button "다음" of the title screen. -/
  | next
  /-- A row of the city list. -/
  | pickCity (city : City)
  /-- A row of the planner, in the section of a day. -/
  | openRouteList (section_ : Int)
  /-- A row of the list of places. -/
  | openTour (tourId : DocId)
  /-- The confirm action of `addClick`; the stop gets a fresh identifier. -/
  | confirmStop (stop : DocId)
  /-- The back button. -/
  | back
  /-- The confirm action of the save alert. -/
  | saveConfirm
  /-- The cancel action of the save alert. -/
  | saveCancel
  /-- `viewDidAppear` of the screen on top. -/
  | didAppear
  /-- The listener of `getRealDocumentId` reads the database. -/
  | searchRead
  /-- Its handler runs. -/
  | searchDone
  /-- A query of `updateRouteDocument` reads the database. -/
  | addRouteRead
  /-- The handler of such a query runs, on the `i`-th result. -/
  | addRouteDone (i : Nat)
  /-- The `k`-th listener of `getRouteData` delivers the stops. -/
  | routeSnapshot (k : Nat) (order : SetOrder RouteName)
  /-- The handler of `getDetailTour` runs. -/
  | tourDone (snapshot : Document)
  /-- An operation issued by the cancel action completes. -/
  | cleanUp (e : Deletion.Event)

/-- What a run does on an event. -/
structure Response where
  /-- The run afterwards. -/
  next : Session
  /-- The arguments of the calls `db.collection("Content").document(_)`. -/
  documents : List String := []
  /-- The writes, as far as they succeed. -/
  writes : List Write := []

/-- The process aborts. -/
def abort (s : Session) : Session := { s with phase := .aborted }

/-! ## User actions -/

/-- `prepare(for:sender:)` and `viewDidLoad` of the city screen, which registers
the listener of `getRealDocumentId`. -/
def pressNext (s : Session) : Option Response :=
  if s.phase = .on .title true then
    some { next := { s with
      search := s.title.prepare
      searchLookUp := { asked := 1 }
      phase := .on .search false } }
  else none

/-- `prepare(for:sender:)`, and `viewWillAppear` of the planner, which issues
`updateRouteDocument`. -/
def pickCity (s : Session) (city : City) : Option Response :=
  if s.phase = .on .search true then
    some { next := { s with
      addRoute := s.search.prepare city
      addRouteLookUp := { asked := 1 }
      listeners := []
      phase := .on .addRoute false } }
  else none

/-- `prepare(for:sender:)`, and `viewDidLoad` of the list of places, which
issues `changeContentField`. -/
def openRouteList (s : Session) (section_ : Int) (ok : Bool) : Option Response :=
  let routeList := s.addRoute.prepare s.currentUser section_
  if s.phase = .on .addRoute true then
    some {
      next := { s with routeList, phase := .on .routeList false }
      documents := [routeList.documentId]
      writes := if ok then [.updateContent routeList.documentId routeList.changeContentField]
        else [] }
  else none

/-- `prepare(for:sender:)`, and `viewDidLoad` of the details, which issues
`getDetailTour`. -/
def openTour (s : Session) (tourId : DocId) : Option Response :=
  if s.phase = .on .routeList true then
    some { next := { s with
      detailTour := s.routeList.prepare tourId
      tourPending := true
      phase := .on .detailTour false } }
  else none

/-- The screen below appears again; `viewWillAppear` of the planner issues
`updateRouteDocument` anew. -/
def popTo (s : Session) (screen : Screen) : Session := { s with
  addRouteLookUp := { s.addRouteLookUp with
    asked := s.addRouteLookUp.asked + if screen = .addRoute then 1 else 0 }
  phase := .on screen false }

/-- The confirm action of `addClick` adds the stop and pops to the planner. -/
def confirmStop (s : Session) (st : Store) (stop : DocId) (ok : Bool) : Option Response :=
  let documentId := s.detailTour.documentId
  if s.phase = .on .detailTour true ∧ ((st.sub .route documentId).get stop).isNone then
    some {
      next := { s.popTo .addRoute with routesCurrent := false }
      documents := [documentId]
      writes := if ok then [.addSub .route documentId stop s.detailTour.addClick] else [] }
  else none

/-- The back button; going back from the title screen ends the run. -/
def goBack (s : Session) : Option Response :=
  match s.phase with
  | .on screen true =>
      match screen.below with
      | some below => some { next := s.popTo below }
      | none => some { next := { s with phase := .left } }
  | _ => none

/-- The confirm action of the save alert pops to the tab bar and writes nothing. -/
def saveConfirm (s : Session) : Option Response :=
  if s.phase = .on .addRoute true then some { next := { s with phase := .saved } } else none

/-- The cancel action of the save alert. -/
def saveCancel (s : Session) : Option Response :=
  if s.phase = .on .addRoute true then
    some {
      next := { s with
        deletion := some (.saveCancel s.addRoute.newDocumentId)
        phase := .cancelled }
      documents := [s.addRoute.newDocumentId] }
  else none

/-! ## Life cycle and completions -/

/-- `viewDidAppear`: the city screen writes title and memo, the planner
registers a listener; the other screens do nothing. -/
def didAppear (s : Session) (ok : Bool) : Option Response :=
  match s.phase with
  | .on .search false => some {
      next := { s with phase := .on .search true }
      documents := [s.search.id]
      writes := if ok then [.updateContent s.search.id s.search.updateTitle] else [] }
  | .on .addRoute false => some {
      next := { s with
        listeners := s.listeners ++ [s.addRoute.newDocumentId]
        routesCurrent := false
        phase := .on .addRoute true }
      documents := [s.addRoute.newDocumentId] }
  | .on screen false => some { next := { s with phase := .on screen true } }
  | _ => none

/-- The listener of `getRealDocumentId` reads the database, or reports an error
on which its handler traps. -/
def searchRead (s : Session) (st : Store) (ok : Bool) : Option Response :=
  if s.searchLookUp.asked = 0 then none
  else if ok then
    some { next := { s with searchLookUp := { s.searchLookUp with
      answers := s.searchLookUp.answers ++ [st.contentWithId s.search.createId] } } }
  else some { next := s.abort }

/-- The handler of `getRealDocumentId`, on the oldest result. -/
def searchDone (s : Session) : Option Response :=
  (s.searchLookUp.deliver 0).map fun (documents, searchLookUp) =>
    { next := { s with search := s.search.getRealDocumentIdDone documents, searchLookUp } }

/-- A query of `updateRouteDocument` reads the database, or fails and does
nothing. -/
def addRouteRead (s : Session) (st : Store) (ok : Bool) : Option Response :=
  if s.addRouteLookUp.asked = 0 then none
  else some { next := { s with addRouteLookUp := { s.addRouteLookUp with
    asked := s.addRouteLookUp.asked - 1
    answers := s.addRouteLookUp.answers ++
      if ok then [st.contentWithId s.addRoute.createDocumentId] else [] } } }

/-- The handler of `updateRouteDocument`; a document without a timestamp traps. -/
def addRouteDone (s : Session) (i : Nat) : Option Response :=
  (s.addRouteLookUp.deliver i).map fun (documents, addRouteLookUp) =>
    match s.addRoute.updateRouteDocumentDone documents with
    | some addRoute => { next := { s with addRoute, addRouteLookUp } }
    | none => { next := s.abort }

/-- A listener of `getRouteData` delivers; a stop without a point traps, an
error does nothing. -/
def routeSnapshot (s : Session) (st : Store) (k : Nat) (order : SetOrder RouteName) (ok : Bool) :
    Option Response :=
  s.listeners[k]?.map fun documentId =>
    if ok then
      match s.addRoute.getRouteDataDone order (st.sub .route documentId).docs with
      | some addRoute => { next := { s with addRoute, routesCurrent := true } }
      | none => { next := s.abort }
    else { next := s }

/-- The handler of `getDetailTour`. -/
def tourDone (s : Session) (snapshot : Document) (ok : Bool) : Option Response :=
  if s.tourPending then
    some { next := { s with
      detailTour := if ok then s.detailTour.getDetailTourDone snapshot else s.detailTour
      tourPending := false } }
  else none

/-- An operation issued by the cancel action completes. -/
def cleanUp (s : Session) (st : Store) (e : Deletion.Event) (ok : Bool) : Option Response :=
  s.deletion.bind fun d => (d.step st e ok).map fun (d', writes) =>
    { next := { s with deletion := some d' }, writes }

/-! ## The run -/

/-- What the run does on an event; `ok` says whether Firestore reports success
for the call that the event issues or completes. -/
def react (s : Session) (st : Store) : Event → Bool → Option Response
  | .editTitle text, _ =>
      if s.phase = .on .title true then
        some { next := { s with title := { s.title with titleTextField := text } } }
      else none
  | .editMemo text, _ =>
      if s.phase = .on .title true then
        some { next := { s with title := { s.title with memoTextView := text } } }
      else none
  | .next, _ => s.pressNext
  | .pickCity city, _ => s.pickCity city
  | .openRouteList section_, ok => s.openRouteList section_ ok
  | .openTour tourId, _ => s.openTour tourId
  | .confirmStop stop, ok => s.confirmStop st stop ok
  | .back, _ => s.goBack
  | .saveConfirm, _ => s.saveConfirm
  | .saveCancel, _ => s.saveCancel
  | .didAppear, ok => s.didAppear ok
  | .searchRead, ok => s.searchRead st ok
  | .searchDone, _ => s.searchDone
  | .addRouteRead, ok => s.addRouteRead st ok
  | .addRouteDone i, _ => s.addRouteDone i
  | .routeSnapshot k order, ok => s.routeSnapshot st k order ok
  | .tourDone snapshot, ok => s.tourDone snapshot ok
  | .cleanUp e, ok => s.cleanUp st e ok

/-- The database and the run after an event.  A call `document("")` aborts
before anything is written. -/
def perform (st : Store) (s : Session) (e : Event) (ok : Bool) : Option (Store × Session) :=
  (s.react st e ok).map fun r =>
    if "" ∈ r.documents then (st, s.abort) else (st.applyAll r.writes, r.next)

/-! ## What a reaction can be

`Reacts` lists the reactions with their guards, one constructor for each; every
property of a reaction is proved by cases on it. -/

/-- `s` can react to an event with a response. -/
inductive Reacts (s : Session) (st : Store) : Event → Bool → Response → Prop
  | editTitle {text ok} (h : s.phase = .on .title true) : Reacts s st (.editTitle text) ok
      { next := { s with title := { s.title with titleTextField := text } } }
  | editMemo {text ok} (h : s.phase = .on .title true) : Reacts s st (.editMemo text) ok
      { next := { s with title := { s.title with memoTextView := text } } }
  | next {ok} (h : s.phase = .on .title true) : Reacts s st .next ok
      { next := { s with
        search := s.title.prepare, searchLookUp := { asked := 1 }, phase := .on .search false } }
  | pickCity {city ok} (h : s.phase = .on .search true) : Reacts s st (.pickCity city) ok
      { next := { s with
        addRoute := s.search.prepare city, addRouteLookUp := { asked := 1 }, listeners := []
        phase := .on .addRoute false } }
  | openRouteList {section_ ok} (h : s.phase = .on .addRoute true) :
      Reacts s st (.openRouteList section_) ok
        { next := { s with
            routeList := s.addRoute.prepare s.currentUser section_, phase := .on .routeList false }
          documents := [s.addRoute.newDocumentId]
          writes := if ok then [.updateContent s.addRoute.newDocumentId
            (s.addRoute.prepare s.currentUser section_).changeContentField] else [] }
  | openTour {tourId ok} (h : s.phase = .on .routeList true) : Reacts s st (.openTour tourId) ok
      { next := { s with
        detailTour := s.routeList.prepare tourId, tourPending := true
        phase := .on .detailTour false } }
  | confirmStop {stop ok} (h : s.phase = .on .detailTour true)
      (hstop : (st.sub .route s.detailTour.documentId).get stop = none) :
      Reacts s st (.confirmStop stop) ok
        { next := { s.popTo .addRoute with routesCurrent := false }
          documents := [s.detailTour.documentId]
          writes := if ok then [.addSub .route s.detailTour.documentId stop s.detailTour.addClick]
            else [] }
  | leave {ok} (h : s.phase = .on .title true) : Reacts s st .back ok
      { next := { s with phase := .left } }
  | back {screen below ok} (h : s.phase = .on screen true) (hb : screen.below = some below) :
      Reacts s st .back ok { next := s.popTo below }
  | saveConfirm {ok} (h : s.phase = .on .addRoute true) : Reacts s st .saveConfirm ok
      { next := { s with phase := .saved } }
  | saveCancel {ok} (h : s.phase = .on .addRoute true) : Reacts s st .saveCancel ok
      { next := { s with
          deletion := some (.saveCancel s.addRoute.newDocumentId), phase := .cancelled }
        documents := [s.addRoute.newDocumentId] }
  | searchAppears {ok} (h : s.phase = .on .search false) : Reacts s st .didAppear ok
      { next := { s with phase := .on .search true }
        documents := [s.search.id]
        writes := if ok then [.updateContent s.search.id s.search.updateTitle] else [] }
  | addRouteAppears {ok} (h : s.phase = .on .addRoute false) : Reacts s st .didAppear ok
      { next := { s with
          listeners := s.listeners ++ [s.addRoute.newDocumentId], routesCurrent := false
          phase := .on .addRoute true }
        documents := [s.addRoute.newDocumentId] }
  | appears {screen ok} (h : s.phase = .on screen false) (hsearch : screen ≠ .search)
      (haddRoute : screen ≠ .addRoute) : Reacts s st .didAppear ok
      { next := { s with phase := .on screen true } }
  | searchRead (h : s.searchLookUp.asked ≠ 0) : Reacts s st .searchRead true
      { next := { s with searchLookUp := { s.searchLookUp with
        answers := s.searchLookUp.answers ++ [st.contentWithId s.search.createId] } } }
  | searchFails (h : s.searchLookUp.asked ≠ 0) : Reacts s st .searchRead false
      { next := s.abort }
  | searchDone {documents q ok} (h : s.searchLookUp.deliver 0 = some (documents, q)) :
      Reacts s st .searchDone ok
        { next := { s with
          search := s.search.getRealDocumentIdDone documents, searchLookUp := q } }
  | addRouteRead {ok} (h : s.addRouteLookUp.asked ≠ 0) : Reacts s st .addRouteRead ok
      { next := { s with addRouteLookUp := { s.addRouteLookUp with
        asked := s.addRouteLookUp.asked - 1
        answers := s.addRouteLookUp.answers ++
          if ok then [st.contentWithId s.addRoute.createDocumentId] else [] } } }
  | addRouteDone {i documents q vc ok} (h : s.addRouteLookUp.deliver i = some (documents, q))
      (hvc : s.addRoute.updateRouteDocumentDone documents = some vc) :
      Reacts s st (.addRouteDone i) ok
        { next := { s with addRoute := vc, addRouteLookUp := q } }
  | addRouteTraps {i documents q ok} (h : s.addRouteLookUp.deliver i = some (documents, q))
      (hvc : s.addRoute.updateRouteDocumentDone documents = none) :
      Reacts s st (.addRouteDone i) ok { next := s.abort }
  | routeSnapshot {k order id vc} (h : s.listeners[k]? = some id)
      (hvc : s.addRoute.getRouteDataDone order (st.sub .route id).docs = some vc) :
      Reacts s st (.routeSnapshot k order) true
        { next := { s with addRoute := vc, routesCurrent := true } }
  | routeTraps {k order id} (h : s.listeners[k]? = some id)
      (hvc : s.addRoute.getRouteDataDone order (st.sub .route id).docs = none) :
      Reacts s st (.routeSnapshot k order) true { next := s.abort }
  | routeFails {k order id} (h : s.listeners[k]? = some id) :
      Reacts s st (.routeSnapshot k order) false { next := s }
  | tourDone {snapshot ok} (h : s.tourPending = true) : Reacts s st (.tourDone snapshot) ok
      { next := { s with
        detailTour := if ok then s.detailTour.getDetailTourDone snapshot else s.detailTour
        tourPending := false } }
  | cleanUp {e ok d d' ws} (h : s.deletion = some d) (hd : d.step st e ok = some (d', ws)) :
      Reacts s st (.cleanUp e) ok { next := { s with deletion := some d' }, writes := ws }

/-- Every reaction is listed. -/
theorem reacts_of_react {s : Session} {st : Store} {e : Event} {ok : Bool} {r : Response}
    (h : s.react st e ok = some r) : Reacts s st e ok r := by
  cases e with
  | editTitle text =>
      obtain ⟨hp, ⟨⟩⟩ := Option.ite_none_right_eq_some.mp h
      exact .editTitle hp
  | editMemo text =>
      obtain ⟨hp, ⟨⟩⟩ := Option.ite_none_right_eq_some.mp h
      exact .editMemo hp
  | next =>
      obtain ⟨hp, ⟨⟩⟩ := Option.ite_none_right_eq_some.mp h
      exact .next hp
  | pickCity city =>
      obtain ⟨hp, ⟨⟩⟩ := Option.ite_none_right_eq_some.mp h
      exact .pickCity hp
  | openRouteList section_ =>
      obtain ⟨hp, ⟨⟩⟩ := Option.ite_none_right_eq_some.mp h
      exact .openRouteList hp
  | openTour tourId =>
      obtain ⟨hp, ⟨⟩⟩ := Option.ite_none_right_eq_some.mp h
      exact .openTour hp
  | confirmStop stop =>
      obtain ⟨⟨hp, hstop⟩, ⟨⟩⟩ := Option.ite_none_right_eq_some.mp h
      exact .confirmStop hp (Option.isNone_iff_eq_none.mp hstop)
  | back =>
      simp only [react, goBack] at h
      split at h
      case h_1 screen hp =>
        split at h
        case h_1 below hb => cases h; exact .back hp hb
        case h_2 hb =>
          cases h
          cases screen with
          | title => exact .leave hp
          | search | addRoute | routeList | detailTour => cases hb
      case h_2 => cases h
  | saveConfirm =>
      obtain ⟨hp, ⟨⟩⟩ := Option.ite_none_right_eq_some.mp h
      exact .saveConfirm hp
  | saveCancel =>
      obtain ⟨hp, ⟨⟩⟩ := Option.ite_none_right_eq_some.mp h
      exact .saveCancel hp
  | didAppear =>
      simp only [react, didAppear] at h
      split at h
      case h_1 hp => cases h; exact .searchAppears hp
      case h_2 hp => cases h; exact .addRouteAppears hp
      case h_3 screen hsearch haddRoute hp =>
        cases h
        exact .appears hp hsearch haddRoute
      case h_4 => cases h
  | searchRead =>
      obtain ⟨hask, h⟩ := Option.ite_none_left_eq_some.mp h
      cases ok with
      | true => cases h; exact .searchRead hask
      | false => cases h; exact .searchFails hask
  | searchDone =>
      obtain ⟨⟨documents, q⟩, hq, rfl⟩ := Option.map_eq_some_iff.mp h
      exact .searchDone hq
  | addRouteRead =>
      obtain ⟨hask, ⟨⟩⟩ := Option.ite_none_left_eq_some.mp h
      exact .addRouteRead hask
  | addRouteDone i =>
      obtain ⟨⟨documents, q⟩, hq, rfl⟩ := Option.map_eq_some_iff.mp h
      dsimp only
      split
      case h_1 vc hvc => exact .addRouteDone hq hvc
      case h_2 hvc => exact .addRouteTraps hq hvc
  | routeSnapshot k order =>
      obtain ⟨id, hid, rfl⟩ := Option.map_eq_some_iff.mp h
      cases ok with
      | true =>
          simp only [if_true]
          split
          case h_1 vc hvc => exact .routeSnapshot hid hvc
          case h_2 hvc => exact .routeTraps hid hvc
      | false => exact .routeFails hid
  | tourDone snapshot =>
      obtain ⟨hp, ⟨⟩⟩ := Option.ite_none_right_eq_some.mp h
      exact .tourDone hp
  | cleanUp e =>
      obtain ⟨d, hd, h⟩ := Option.bind_eq_some_iff.mp h
      obtain ⟨⟨d', ws⟩, hstep, rfl⟩ := Option.map_eq_some_iff.mp h
      exact .cleanUp hd hstep

/-- The title screen loads: the run starts, and `createRouteDocument` has been
called. -/
def enter (created : DocId) (randomElement : Nat → Fin letters.length)
    (currentUser : Option String) : Session where
  currentUser := currentUser
  created := created
  title := { createId := TitleViewController.drawId randomElement }

end Session

end Groute
