import Groute.Content.RouteScreen
import Groute.Content.Toggle
import Groute.Lib.Callback
import Groute.Lists.Taps
import Groute.MyTrips.Controller
import Groute.Planner.Table

/-!
# Reads that fail

Seven controllers read from Firestore, and each completion handler checks its error
itself: most of them test it before they force the snapshot, the reads of a deletion skip
a missing snapshot, and the listener that `getRealDocumentId` registers does neither.

A handler is written here as the source has it, with both of its arguments.  Apart from
that one, a read that fails leaves the properties, the database and the tables as they
are.
-/

namespace Groute

open Callback

/-- The documents of a query snapshot. -/
abbrev Documents := List (DocId × Document)

/-- A controller with the database.  What a table shows is determined by the properties as
they were when it was last reloaded. -/
structure Displayed (σ : Type) where
  vc : σ
  store : Store
  /-- The properties that the table view shows. -/
  tableView : σ
  /-- The properties that the collection view shows. -/
  collectionView : σ

/-- A handler of a controller. -/
abbrev DisplayCallback (α σ : Type) := Callback α String (Displayed σ)

namespace Displayed

variable {σ : Type}

/-- Assign to properties. -/
def set (s : Displayed σ) (vc : σ) : Displayed σ := { s with vc }

/-- Issue a write. -/
def write (s : Displayed σ) (w : Write) : Displayed σ := { s with store := s.store.apply w }

/-- `tableView.reloadData()`. -/
def reloadTable (s : Displayed σ) : Displayed σ := { s with tableView := s.vc }

/-- `collectionView.reloadData()`. -/
def reloadCollection (s : Displayed σ) : Displayed σ := { s with collectionView := s.vc }

/-- `snapshot?.documents.forEach { $0.reference.delete() }`. -/
def deleteAll (c : Sub) (id : DocId) : DisplayCallback Documents σ :=
  unguarded (chained fun documents s =>
    documents.foldl (fun s document => s.write (.deleteSub c id document.1)) s)

end Displayed

/-! ## The list of cities -/

namespace SearchViewController

/-- The reads of the controller. -/
inductive Read : Type → Type where
  | getRealDocumentId : Read Documents
  | getCityName : Read Documents

namespace Read

/-- The error is not looked at. -/
def getRealDocumentIdHandler : DisplayCallback Documents SearchViewController :=
  unguarded (forced fun documents s => some (s.set (s.vc.getRealDocumentIdDone documents)))

def getCityNameHandler : DisplayCallback Documents SearchViewController :=
  guarded (forced fun documents s => some (s.set (s.vc.getCityNameDone documents)).reloadTable)

/-- The handler of a read. -/
def handler {α : Type} : Read α → DisplayCallback α SearchViewController
  | .getRealDocumentId => getRealDocumentIdHandler
  | .getCityName => getCityNameHandler

end Read

end SearchViewController

/-! ## The planner -/

namespace AddRouteViewController

/-- The reads of the controller; `saveClick` reads a subcollection of the trip that is
cancelled. -/
inductive Read : Type → Type where
  | updateRouteDocument : Read Documents
  | getRouteData (order : SetOrder RouteName) : Read Documents
  | saveClick (c : Sub) (newDocumentId : DocId) : Read Documents

namespace Read

def updateRouteDocumentHandler : DisplayCallback Documents PlannerTable :=
  guarded (forced fun documents s =>
    (s.vc.vc.updateRouteDocumentDone documents).map fun vc => s.set { s.vc with vc })

def getRouteDataHandler (order : SetOrder RouteName) : DisplayCallback Documents PlannerTable :=
  guarded (forced fun documents s =>
    (s.vc.vc.getRouteDataDone order documents).map fun vc =>
      (s.set { s.vc with vc }).reloadTable)

/-- The handler of a read. -/
def handler {α : Type} : Read α → DisplayCallback α PlannerTable
  | .updateRouteDocument => updateRouteDocumentHandler
  | .getRouteData order => getRouteDataHandler order
  | .saveClick c newDocumentId => Displayed.deleteAll c newDocumentId

end Read

end AddRouteViewController

/-! ## The list of places -/

namespace RouteListViewController

/-- The read of the controller. -/
inductive Read : Type → Type where
  | getList : Read Documents

namespace Read

def getListHandler : DisplayCallback Documents RouteListViewController :=
  guarded (forced fun documents s =>
    (s.vc.getListDone documents).map fun vc => (s.set vc).reloadTable)

/-- The handler of a read. -/
def handler {α : Type} : Read α → DisplayCallback α RouteListViewController
  | .getList => getListHandler

end Read

end RouteListViewController

/-! ## The user's own trips -/

namespace SecondTabViewController

/-- The reads of the controller; `commit` reads a subcollection of the trip that is
swiped away. -/
inductive Read : Type → Type where
  | getCurrentUserDocument (order : SetOrder CurrentUserDocument) : Read Documents
  | commit (c : Sub) (id : DocId) : Read Documents

namespace Read

def getCurrentUserDocumentHandler (order : SetOrder CurrentUserDocument) :
    DisplayCallback Documents SecondTabViewController :=
  guarded (forced fun documents s =>
    (s.vc.getCurrentUserDocumentDone order documents).map fun vc => (s.set vc).reloadTable)

/-- The handler of a read. -/
def handler {α : Type} : Read α → DisplayCallback α SecondTabViewController
  | .getCurrentUserDocument order => getCurrentUserDocumentHandler order
  | .commit c id => Displayed.deleteAll c id

end Read

end SecondTabViewController

/-! ## The main list -/

namespace ViewController

/-- The reads of the controller; `viewDidLoad` registers five listeners. -/
inductive Read : Type → Type where
  | viewDidLoad (i : Fin 5) : Read Documents
  | getContent : Read Documents

namespace Read

def viewDidLoadHandler : DisplayCallback Documents ViewController :=
  guarded (forced fun documents s => some (s.set (s.vc.favoriteDone documents)))

def getContentHandler : DisplayCallback Documents ViewController :=
  guarded (forced fun documents s =>
    (s.vc.getContentDone documents).map fun vc => (s.set vc).reloadTable)

/-- The handler of a read. -/
def handler {α : Type} : Read α → DisplayCallback α ViewController
  | .viewDidLoad _ => viewDidLoadHandler
  | .getContent => getContentHandler

end Read

end ViewController

/-! ## The details of a trip -/

namespace ContentViewController

/-- The properties and outlets of the controller that its reads fill. -/
structure Details where
  contentId : DocId
  content : List RouteName := []
  review : List Comment := []
  like : List Favorite := []
  locationLabel : String
  memoLabel : String
  userLabel : String
  /-- The day that `timeLabel` spells out, once there is one. -/
  timeLabel : Option Date := none
  /-- The address of the image, once there is one. -/
  routeImage : Option String := none
  reviewCount : String
  numberOfLikes : String
  likebtn : String

/-- The reads of the controller. -/
inductive Read : Type → Type where
  | getContent : Read Document
  | getRoute : Read Documents
  | getReview (sorter : Sorter Comment) (now : DocId → Date) : Read Documents
  | getLikeCount : Read Documents
  | checkLikeImage : Read Documents
  | getExistLikeLocation (connectingEmail : String) (id : DocId) : Read Documents

namespace Read

/-- A field of another type than expected leaves its label as it was. -/
def getContentHandler : DisplayCallback Document Details :=
  guarded (chained fun snapshot s => s.set { s.vc with
    locationLabel := ((snapshot.string "location").map (· ++ " 여행")).getD s.vc.locationLabel
    memoLabel := (snapshot.string "memo").getD s.vc.memoLabel
    userLabel := (snapshot.string "email").getD s.vc.userLabel
    routeImage := (snapshot.string "imageAddress").or s.vc.routeImage
    timeLabel := (snapshot.date "timestamp").or s.vc.timeLabel })

/-- The table is reloaded for each stop. -/
def getRouteHandler : DisplayCallback Documents Details :=
  guarded (forced fun documents s =>
    some (documents.foldl (fun s document =>
      (s.set { s.vc with content := s.vc.content ++ [getRouteName document] }).reloadTable)
      (s.set { s.vc with content := [] })))

def getReviewHandler (sorter : Sorter Comment) (now : DocId → Date) :
    DisplayCallback Documents Details :=
  guarded (forced fun documents s =>
    (documents.mapM fun document => ContentViewController.getReview (now document.1) document).map
      fun review =>
        let review := sorter.sort (fun lhs rhs => rhs.timestamp < lhs.timestamp) review
        (s.set { s.vc with
          review, reviewCount := "(" ++ toString review.length ++ ")" }).reloadCollection)

def getLikeCountHandler : DisplayCallback Documents Details :=
  guarded (forced fun documents s =>
    (getLikeCountDone documents).map fun like =>
      s.set { s.vc with like, numberOfLikes := toString like.length })

def checkLikeImageHandler : DisplayCallback Documents Details :=
  guarded (forced fun documents s =>
    some (s.set { s.vc with likebtn := LikeButton.image documents }))

/-- A like it adds gets the identifier `id`. -/
def getExistLikeLocationHandler (connectingEmail : String) (id : DocId) :
    DisplayCallback Documents Details :=
  guarded (forced fun documents s =>
    match getExistLikeLocationDone documents with
    | some document => some ((s.write (.deleteSub .favorite s.vc.contentId document)).set
        { s.vc with likebtn := "suit.heart" })
    | none => some ((s.write (.addSub .favorite s.vc.contentId id (favorite connectingEmail))).set
        { s.vc with likebtn := "suit.heart.fill" }))

/-- The handler of a read. -/
def handler {α : Type} : Read α → DisplayCallback α Details
  | .getContent => getContentHandler
  | .getRoute => getRouteHandler
  | .getReview sorter now => getReviewHandler sorter now
  | .getLikeCount => getLikeCountHandler
  | .checkLikeImage => checkLikeImageHandler
  | .getExistLikeLocation connectingEmail id => getExistLikeLocationHandler connectingEmail id

end Read

end ContentViewController

/-! ## The second screen for a trip -/

namespace ContentRouteViewController

/-- The reads of the controller; `getRoute` has one for each day. -/
inductive Read : Type → Type where
  | getContent : Read Document
  | getRoute (i : Fin 101) : Read Documents
  | getReview (sorter : Sorter Comment) (now : DocId → Date) : Read Documents
  | getLikeCount : Read Documents
  | checkLikeImage : Read Documents
  | getExistLikeLocation (currentUser : String) (id : DocId) : Read Documents

namespace Read

/-- The view is reloaded with or without a snapshot. -/
def getContentHandler : DisplayCallback Document ContentRouteViewController :=
  guarded fun snapshot s =>
    some (s.set (snapshot.elim s.vc s.vc.getContentDone)).reloadCollection

def getRouteHandler : DisplayCallback Documents ContentRouteViewController :=
  guarded (forced fun documents s => (s.vc.getRouteDone documents).map s.set)

def getReviewHandler (sorter : Sorter Comment) (now : DocId → Date) :
    DisplayCallback Documents ContentRouteViewController :=
  guarded (forced fun documents s =>
    (s.vc.getReviewDone sorter now documents).map fun vc => (s.set vc).reloadCollection)

def getLikeCountHandler : DisplayCallback Documents ContentRouteViewController :=
  guarded (forced fun documents s =>
    (s.vc.getLikeCountDone documents).map fun vc => (s.set vc).reloadCollection)

/-- `snapshot?.isEmpty == true`. -/
def isEmpty (snapshot : Option Documents) : Bool := snapshot.any List.isEmpty

def checkLikeImageHandler : DisplayCallback Documents ContentRouteViewController :=
  guarded fun snapshot s =>
    if isEmpty snapshot then some (s.set { s.vc with isExist := false })
    else some (s.set { s.vc with isExist := true })

/-- A like it adds gets the identifier `id`. -/
def getExistLikeLocationHandler (currentUser : String) (id : DocId) :
    DisplayCallback Documents ContentRouteViewController :=
  guarded fun snapshot s =>
    if isEmpty snapshot then
      some ((s.write (.addSub .favorite s.vc.contentId id (favorite currentUser))).set
        { s.vc with isExist := true }).reloadCollection
    else
      some ((s.write (.deleteSub .favorite s.vc.contentId s.vc.contentId)).set
        { s.vc with isExist := false }).reloadCollection

/-- The handler of a read. -/
def handler {α : Type} : Read α → DisplayCallback α ContentRouteViewController
  | .getContent => getContentHandler
  | .getRoute _ => getRouteHandler
  | .getReview sorter now => getReviewHandler sorter now
  | .getLikeCount => getLikeCountHandler
  | .checkLikeImage => checkLikeImageHandler
  | .getExistLikeLocation currentUser id => getExistLikeLocationHandler currentUser id

/-- With a snapshot the two handlers are those of the screen. -/
theorem checkLikeImageHandler_some (documents : Documents)
    (s : Displayed ContentRouteViewController) :
    checkLikeImageHandler (some documents) none s =
      some (s.set (s.vc.checkLikeImageDone documents)) := by
  cases documents <;> rfl

theorem getExistLikeLocationHandler_some (currentUser : String) (id : DocId)
    (documents : Documents) (s : Displayed ContentRouteViewController) :
    getExistLikeLocationHandler currentUser id (some documents) none s =
      some ((s.write (getExistLikeLocationDone s.vc.contentId id currentUser documents)).set
        (s.vc.existLikeLocationDone documents)).reloadCollection := by
  cases documents <;> rfl

end Read

end ContentRouteViewController

/-! ## Reads that fail -/

/-- The seven controllers. -/
inductive Controller where
  | searchViewController
  | addRouteViewController
  | routeListViewController
  | secondTabViewController
  | viewController
  | contentViewController
  | contentRouteViewController
deriving DecidableEq

namespace Controller

/-- The properties of a controller. -/
def Properties : Controller → Type
  | searchViewController => SearchViewController
  | addRouteViewController => PlannerTable
  | routeListViewController => RouteListViewController
  | secondTabViewController => SecondTabViewController
  | viewController => ViewController
  | contentViewController => ContentViewController.Details
  | contentRouteViewController => ContentRouteViewController

/-- Its reads. -/
def Read : Controller → Type → Type
  | searchViewController => SearchViewController.Read
  | addRouteViewController => AddRouteViewController.Read
  | routeListViewController => RouteListViewController.Read
  | secondTabViewController => SecondTabViewController.Read
  | viewController => ViewController.Read
  | contentViewController => ContentViewController.Read
  | contentRouteViewController => ContentRouteViewController.Read

/-- Their handlers. -/
def handlers : (c : Controller) → Handlers c.Read String (Displayed c.Properties)
  | searchViewController => ⟨SearchViewController.Read.handler⟩
  | addRouteViewController => ⟨AddRouteViewController.Read.handler⟩
  | routeListViewController => ⟨RouteListViewController.Read.handler⟩
  | secondTabViewController => ⟨SecondTabViewController.Read.handler⟩
  | viewController => ⟨ViewController.Read.handler⟩
  | contentViewController => ⟨ContentViewController.Read.handler⟩
  | contentRouteViewController => ⟨ContentRouteViewController.Read.handler⟩

/-- What can happen on a controller. -/
abbrev Event (c : Controller) : Type 1 := Handlers.Event c.Read String (Displayed c.Properties)

/-- The read is that of `getRealDocumentId`. -/
def IsRealDocumentId : (c : Controller) → {α : Type} → c.Read α → Prop
  | searchViewController, _, .getRealDocumentId => True
  | searchViewController, _, .getCityName => False
  | addRouteViewController, _, _ | routeListViewController, _, _ | secondTabViewController, _, _
  | viewController, _, _ | contentViewController, _, _ | contentRouteViewController, _, _ => False

/-- If a read fails, it is not that of `getRealDocumentId`. -/
def Spares (c : Controller) : c.Event → Prop
  | .called read none (some _) => ¬c.IsRealDocumentId read
  | .called _ (some _) _ | .called _ none none | .elsewhere _ => True

variable {c : Controller} {α : Type} {s t : Handlers.State (Displayed c.Properties)}
  {es : List c.Event}

/-- The handler of `getRealDocumentId` traps. -/
theorem eq_none_of_isRealDocumentId {read : c.Read α} (h : c.IsRealDocumentId read)
    (err : String) (screen : Displayed c.Properties) :
    c.handlers.call read none (some err) screen = none := by
  cases c with
  | searchViewController =>
      cases read with
      | getRealDocumentId => rfl
      | getCityName => exact h.elim
  | addRouteViewController | routeListViewController | secondTabViewController | viewController
  | contentViewController | contentRouteViewController => exact h.elim

/-- The others test the error, or skip a missing snapshot. -/
theorem silent_of_not_isRealDocumentId {read : c.Read α} (h : ¬c.IsRealDocumentId read) :
    (c.handlers.call read).Silent := by
  cases c with
  | searchViewController =>
      cases read with
      | getRealDocumentId => exact absurd trivial h
      | getCityName => exact silent_guarded _
  | addRouteViewController =>
      cases read with
      | updateRouteDocument | getRouteData order => exact silent_guarded _
      | saveClick c newDocumentId => exact silent_unguarded_chained _
  | routeListViewController =>
      cases read with
      | getList => exact silent_guarded _
  | secondTabViewController =>
      cases read with
      | getCurrentUserDocument order => exact silent_guarded _
      | commit c id => exact silent_unguarded_chained _
  | viewController => cases read <;> exact silent_guarded _
  | contentViewController => cases read <;> exact silent_guarded _
  | contentRouteViewController => cases read <;> exact silent_guarded _

/-- A handler is silent exactly if it is not that of `getRealDocumentId`. -/
theorem silentAt_iff (screen : Displayed c.Properties) {e : c.Event} :
    c.handlers.SilentAt e ↔ c.Spares e := by
  match e with
  | .called read none (some err) =>
      refine ⟨?_, silent_of_not_isRealDocumentId⟩
      intro hsilent h
      have hnone := eq_none_of_isRealDocumentId h err screen
      rw [hsilent err screen] at hnone
      cases hnone
  | .called _ (some _) _ | .called _ none none | .elsewhere _ => exact Iff.rfl

/-- **Failed reads.**  At any point of a run of any of the controllers, whatever else
happens to its properties, the database and the tables, a read that fails leaves them all
as they are and does not trap, exactly if none of the reads that fail is that of
`getRealDocumentId`. -/
theorem steps_spares_iff (h : c.handlers.system.Runs s es t) :
    (∀ fs e u v, fs ++ [e] <+: es → c.handlers.system.Runs s fs u →
        c.handlers.system.step u e = some v → e.failed = true → v = u) ↔
      c.handlers.system.Steps (fun _ e => c.Spares e) s es t := by
  have hdecided {α : Type} (read : c.Read α) : (c.handlers.call read).Silent ∨
      ∀ err screen, c.handlers.call read none (some err) screen ≠ some screen := by
    by_cases hread : c.IsRealDocumentId read
    · right
      intro err screen
      rw [eq_none_of_isRealDocumentId hread]
      simp
    · left
      exact silent_of_not_isRealDocumentId hread
  refine (Handlers.forall_failed_iff hdecided h).trans ?_
  exact h.iff_steps (I := fun _ => True) (fun _ _ _ _ => trivial)
    (fun {s _ _} _ _ _ => silentAt_iff s.state) trivial

/-- They can then be left out of the run. -/
theorem runs_filter_failed (h : c.handlers.system.Steps (fun _ e => c.Spares e) s es t) :
    c.handlers.system.Runs s (es.filter fun e => !e.failed) t := by
  have hsilent : c.handlers.system.Steps (fun _ e => c.handlers.SilentAt e) s es t :=
    (h.runs.iff_steps (I := fun _ => True) (fun _ _ _ _ => trivial)
      (fun {s _ _} _ _ _ => (silentAt_iff s.state).symm) trivial).mp h
  exact (Handlers.steps_filter hsilent).runs

/-- A controller over the empty database. -/
def shown {σ : Type} (vc : σ) : Handlers.State (Displayed σ) :=
  ⟨{ vc, store := .empty, tableView := vc, collectionView := vc }, false⟩

/-- The query of a day fails, and then that of the likes. -/
def offline : List contentRouteViewController.Event :=
  [.called (.getRoute 0) none (some "unavailable"),
    .called .getLikeCount (some [("like", ContentRouteViewController.favorite "a@b.c")]) none,
    .called .checkLikeImage none (some "unavailable")]

theorem offline_spares : ∃ t : Handlers.State (Displayed contentRouteViewController.Properties),
    contentRouteViewController.handlers.system.Runs
      (shown ({ contentId := "trip" } : ContentRouteViewController)) offline t ∧
    ∀ fs e u v, fs ++ [e] <+: offline →
      contentRouteViewController.handlers.system.Runs
        (shown ({ contentId := "trip" } : ContentRouteViewController)) fs u →
      contentRouteViewController.handlers.system.step u e = some v → e.failed = true → v = u := by
  have hrun : contentRouteViewController.handlers.system.Runs
      (shown ({ contentId := "trip" } : ContentRouteViewController)) offline _ :=
    .cons trivial rfl (.cons trivial rfl (.single trivial rfl))
  refine ⟨_, hrun, (steps_spares_iff hrun).mpr (hrun.of_forall ?_)⟩
  simp [offline, Spares, IsRealDocumentId]

/-- The listener for the identifier of the trip fails. -/
theorem exists_failed_trapped : ¬∀ {c : Controller} {s t : Handlers.State (Displayed c.Properties)}
    {es : List c.Event}, c.handlers.system.Runs s es t →
    ∀ fs e u v, fs ++ [e] <+: es → c.handlers.system.Runs s fs u →
      c.handlers.system.step u e = some v → e.failed = true → v = u := by
  intro hall
  have hrun : searchViewController.handlers.system.Runs
      (shown ({ createId := "trip" } : SearchViewController))
      [.called .getRealDocumentId none (some "permission-denied")] _ := .single trivial rfl
  have hsame := hall hrun [] _ _ _ (List.prefix_refl _) (.nil _) rfl rfl
  exact Bool.noConfusion (congrArg Handlers.State.trapped hsame)

end Controller

end Groute
