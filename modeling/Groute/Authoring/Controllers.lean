import Groute.Lib.Ordering
import Groute.Model

/-!
# The five screens of the authoring flow

`TitleViewController` → `SearchViewController` → `AddRouteViewController` →
`RouteListViewController` → `DetailTourViewController`.  Each controller is a
record of the properties the flow uses, and each method is a function on it
under the source's name.  A method that talks to Firestore is split where the
source is: the call itself, and the completion handler (`…Done`) that runs
later.

The screens hand values on in `prepare(for:sender:)`; the destination controller
is created by the segue, so its other properties have their initial values.
-/

namespace Groute

/-! ## The title screen -/

/-- The alphabet of `randomString`. -/
def letters : List Char := "abcdefghijklmnopqrstuvwxyzABCDEFGHIJKLMNOPQRSTUVWXYZ0123456789".toList

/-- `randomString(length:)`: one random letter for each position. -/
def randomString (length : Nat) (randomElement : Nat → Fin letters.length) : String :=
  String.ofList ((List.range length).map fun i => letters[randomElement i])

theorem length_randomString (n : Nat) (randomElement : Nat → Fin letters.length) :
    (randomString n randomElement).length = n := by
  simp [randomString]

theorem randomString_ne_empty {n : Nat} (h : n ≠ 0) (randomElement : Nat → Fin letters.length) :
    randomString n randomElement ≠ "" := fun he =>
  h (by rw [← length_randomString n randomElement, he]; rfl)

/-- The screen on which a trip is given its title and memo. -/
structure TitleViewController where
  titleTextField : String := ""
  memoTextView : String := ""
  createId : String := ""
deriving DecidableEq

namespace TitleViewController

/-- The identifier `createRouteDocument` draws. -/
def drawId (randomElement : Nat → Fin letters.length) : String := randomString 20 randomElement

/-- The document that `createRouteDocument` adds to `Content`. -/
def createRouteDocument (createId : String) (currentUser : Option String) (now : Date) : Document :=
  .ofFields [
    ("id", .string createId),
    ("email", .string (currentUser.getD "")),
    ("timestamp", .timestamp now),
    ("title", .string ""),
    ("memo", .string ""),
    ("imageAddress", .string ""),
    ("location", .string "")]

end TitleViewController

/-! ## The city screen -/

/-- The screen on which the city of a trip is chosen. -/
structure SearchViewController where
  cityName : List City := []
  filteredCityName : List City := []
  createId : String := ""
  contentTitle : String := ""
  contentMemo : String := ""
  id : DocId := ""
  searchBar : String := ""
deriving DecidableEq

/-- The test in `prepare(for:sender:)` of the title screen. -/
def TitleViewController.isFilled (vc : TitleViewController) : Prop :=
  vc.titleTextField ≠ "" ∨ vc.memoTextView ≠ ""

instance (vc : TitleViewController) : Decidable vc.isFilled :=
  inferInstanceAs (Decidable (_ ∨ _))

/-- `prepare(for:sender:)` for the segue "title".  When both texts are empty
the method shows an alert and returns, but it cannot stop the segue: the city
screen appears with its initial values. -/
def TitleViewController.prepare (vc : TitleViewController) : SearchViewController :=
  if vc.isFilled then
    { contentTitle := vc.titleTextField, contentMemo := vc.memoTextView, createId := vc.createId }
  else {}

/-- The texts are handed on, also when both are empty. -/
theorem TitleViewController.prepare_texts (vc : TitleViewController) :
    vc.prepare.contentTitle = vc.titleTextField ∧ vc.prepare.contentMemo = vc.memoTextView := by
  by_cases hfilled : vc.isFilled
  · rw [prepare, if_pos hfilled]
    exact ⟨rfl, rfl⟩
  · rw [prepare, if_neg hfilled]
    obtain ⟨htitle, hmemo⟩ := not_or.mp hfilled
    exact ⟨(not_not.mp htitle).symm, (not_not.mp hmemo).symm⟩

/-- The identifier that is left in a variable to which a loop assigns the
identifier of each document. -/
def lastId (documents : List (DocId × Document)) (id : DocId) : DocId :=
  documents.foldl (fun _ document => document.1) id

/-- It is one of the documents', unless there are none. -/
theorem lastId_mem {documents : List (DocId × Document)} (h : documents ≠ []) (id : DocId) :
    ∃ document ∈ documents, lastId documents id = document.1 := by
  induction documents generalizing id with
  | nil => exact absurd rfl h
  | cons document documents ih =>
      by_cases hnil : documents = []
      · exact ⟨document, List.mem_cons_self, by simp [lastId, hnil]⟩
      · obtain ⟨document', hmem, heq⟩ := ih hnil document.1
        exact ⟨document', List.mem_cons_of_mem _ hmem, heq⟩

/-- A property of the identifier before and of those of all documents is one of
the identifier after the loop. -/
theorem lastId_induction {P : DocId → Prop} {documents : List (DocId × Document)} {id : DocId}
    (hid : P id) (h : ∀ document ∈ documents, P document.1) : P (lastId documents id) := by
  by_cases hnil : documents = []
  · rwa [hnil]
  · obtain ⟨document, hmem, heq⟩ := lastId_mem hnil id
    exact heq ▸ h document hmem

namespace SearchViewController

/-- The completion handler of `getRealDocumentId`: the last document wins. -/
def getRealDocumentIdDone (vc : SearchViewController) (documents : List (DocId × Document)) :
    SearchViewController :=
  documents.foldl (fun vc document => { vc with id := document.1 }) vc

/-- It changes the identifier only. -/
theorem getRealDocumentIdDone_eq (vc : SearchViewController)
    (documents : List (DocId × Document)) :
    vc.getRealDocumentIdDone documents = { vc with id := lastId documents vc.id } := by
  induction documents generalizing vc with
  | nil => rfl
  | cons document documents ih => exact ih { vc with id := document.1 }

/-- The fields that `updateTitle` writes. -/
def updateTitle (vc : SearchViewController) : Fields :=
  [("title", .string vc.contentTitle), ("memo", .string vc.contentMemo)]

end SearchViewController

/-! ## The planner -/

/-- The screen on which a trip is planned, day by day. -/
structure AddRouteViewController where
  point : GeoPoint := ⟨0, 0⟩
  location : String := ""
  createDocumentId : String := ""
  newDocumentId : DocId := ""
  tmp0 : List RouteName := []
  tmp1 : List RouteName := []
  tmp2 : List RouteName := []
  tmp3 : List RouteName := []
  tmp4 : List RouteName := []
  section0 : List RouteName := []
  section1 : List RouteName := []
  section2 : List RouteName := []
  section3 : List RouteName := []
  section4 : List RouteName := []
deriving DecidableEq

/-- `prepare(for:sender:)` for the segue "city". -/
def SearchViewController.prepare (vc : SearchViewController) (city : City) :
    AddRouteViewController :=
  { point := city.point, location := city.cityName, createDocumentId := vc.createId }

namespace AddRouteViewController

/-- The record `updateRouteDocument` builds from a document. -/
def content (document : DocId × Document) : Option Content :=
  (document.2.date "timestamp").map fun timestamp =>
    { id := document.1
      location := (document.2.string "location").getD ""
      email := (document.2.string "email").getD ""
      title := (document.2.string "title").getD ""
      memo := (document.2.string "memo").getD ""
      timestamp
      imageAddress := (document.2.string "imageAddress").getD ""
      favorite := some ((document.2.int "favorite").getD 0) }

/-- The completion handler of `updateRouteDocument`. -/
def updateRouteDocumentDone (vc : AddRouteViewController)
    (documents : List (DocId × Document)) : Option AddRouteViewController :=
  documents.foldlM (fun vc document =>
    (content document).map fun content => { vc with newDocumentId := content.id }) vc

/-- It changes the identifier only. -/
theorem updateRouteDocumentDone_eq {vc vc' : AddRouteViewController}
    {documents : List (DocId × Document)} (h : vc.updateRouteDocumentDone documents = some vc') :
    vc' = { vc with newDocumentId := lastId documents vc.newDocumentId } := by
  induction documents generalizing vc with
  | nil => exact (Option.some.inj h).symm
  | cons document documents ih =>
      obtain ⟨vc₁, h₁, h₂⟩ := Option.bind_eq_some_iff.mp (List.foldlM_cons.symm.trans h)
      obtain ⟨c, hc, rfl⟩ := Option.map_eq_some_iff.mp h₁
      obtain ⟨timestamp, -, rfl⟩ := Option.map_eq_some_iff.mp hc
      exact ih h₂

/-- The record `getRouteData` builds from a document. -/
def routeName (doc : DocId × Document) : Option RouteName :=
  (doc.2.geoPoint "geopoint").map fun point =>
    { id := doc.1
      name := (doc.2.string "name").getD ""
      section_ := (doc.2.int "section").getD 0
      point
      imageAddress := (doc.2.string "imageAddress").getD "" }

/-- Put a stop into the bucket of its day; days from the sixth on have none. -/
def append (order : SetOrder RouteName) (vc : AddRouteViewController) (route : RouteName) :
    AddRouteViewController :=
  if route.section_ = 0 then
    { vc with tmp0 := vc.tmp0 ++ [route], section0 := order.list (vc.tmp0 ++ [route]) }
  else if route.section_ = 1 then
    { vc with tmp1 := vc.tmp1 ++ [route], section1 := order.list (vc.tmp1 ++ [route]) }
  else if route.section_ = 2 then
    { vc with tmp2 := vc.tmp2 ++ [route], section2 := order.list (vc.tmp2 ++ [route]) }
  else if route.section_ = 3 then
    { vc with tmp3 := vc.tmp3 ++ [route], section3 := order.list (vc.tmp3 ++ [route]) }
  else if route.section_ = 4 then
    { vc with tmp4 := vc.tmp4 ++ [route], section4 := order.list (vc.tmp4 ++ [route]) }
  else vc

/-- The handler of the listener that `getRouteData` registers. -/
def getRouteDataDone (order : SetOrder RouteName) (vc : AddRouteViewController)
    (documents : List (DocId × Document)) : Option AddRouteViewController :=
  documents.foldlM (fun vc doc => (routeName doc).map (vc.append order)) vc

/-- The stops of a day as they were received, and without repetitions. -/
def bucket (vc : AddRouteViewController) (day : Int) : List RouteName × List RouteName :=
  if day = 0 then (vc.tmp0, vc.section0)
  else if day = 1 then (vc.tmp1, vc.section1)
  else if day = 2 then (vc.tmp2, vc.section2)
  else if day = 3 then (vc.tmp3, vc.section3)
  else if day = 4 then (vc.tmp4, vc.section4)
  else ([], [])

/-- The days that have a bucket. -/
def HasBucket (day : Int) : Prop := 0 ≤ day ∧ day < 5

/-- A stop goes into the bucket of its day. -/
theorem append_bucket (order : SetOrder RouteName) (vc : AddRouteViewController)
    (route : RouteName) {day : Int} (h : HasBucket day) :
    (vc.append order route).bucket day =
      if route.section_ = day then
        ((vc.bucket day).1 ++ [route], order.list ((vc.bucket day).1 ++ [route]))
      else vc.bucket day := by
  obtain ⟨hlow, hhigh⟩ := h
  have hday : day = 0 ∨ day = 1 ∨ day = 2 ∨ day = 3 ∨ day = 4 := by omega
  unfold append
  rcases hday with rfl | rfl | rfl | rfl | rfl <;> split_ifs <;> first | rfl | omega

/-- A stop goes into the buckets; the other properties stay. -/
theorem append_fixed (order : SetOrder RouteName) (vc : AddRouteViewController)
    (route : RouteName) :
    (vc.append order route).newDocumentId = vc.newDocumentId ∧
      (vc.append order route).createDocumentId = vc.createDocumentId ∧
      (vc.append order route).location = vc.location := by
  unfold append
  split_ifs <;> exact ⟨rfl, rfl, rfl⟩

/-- The listener fills the buckets; the other properties stay. -/
theorem getRouteDataDone_fixed {order : SetOrder RouteName} {vc vc' : AddRouteViewController}
    {documents : List (DocId × Document)} (h : vc.getRouteDataDone order documents = some vc') :
    vc'.newDocumentId = vc.newDocumentId ∧ vc'.createDocumentId = vc.createDocumentId ∧
      vc'.location = vc.location := by
  induction documents generalizing vc with
  | nil => cases h; exact ⟨rfl, rfl, rfl⟩
  | cons doc documents ih =>
      obtain ⟨vc₁, h₁, h₂⟩ := Option.bind_eq_some_iff.mp (List.foldlM_cons.symm.trans h)
      obtain ⟨route, -, rfl⟩ := Option.map_eq_some_iff.mp h₁
      obtain ⟨hnew, hcreate, hlocation⟩ := append_fixed order vc route
      obtain ⟨hnew', hcreate', hlocation'⟩ := ih h₂
      exact ⟨hnew'.trans hnew, hcreate'.trans hcreate, hlocation'.trans hlocation⟩

/-- Received documents extend the bucket of each day by the stops of that day. -/
theorem getRouteDataDone_bucket {order : SetOrder RouteName} {vc vc' : AddRouteViewController}
    {documents : List (DocId × Document)} (day : Int) (hday : HasBucket day)
    (h : vc.getRouteDataDone order documents = some vc') :
    vc'.bucket day =
      let received := (documents.filterMap routeName).filter (·.section_ = day)
      if received = [] then vc.bucket day
      else ((vc.bucket day).1 ++ received, order.list ((vc.bucket day).1 ++ received)) := by
  induction documents generalizing vc with
  | nil => cases h; rfl
  | cons doc documents ih =>
      obtain ⟨vc₁, h₁, h₂⟩ := Option.bind_eq_some_iff.mp (List.foldlM_cons.symm.trans h)
      obtain ⟨route, hroute, rfl⟩ := Option.map_eq_some_iff.mp h₁
      rw [ih h₂, append_bucket order vc route hday, List.filterMap_cons_some hroute]
      dsimp only
      by_cases hs : route.section_ = day
      · rw [if_pos hs, List.filter_cons_of_pos (by simpa using hs)]
        by_cases hnil : (documents.filterMap routeName).filter (·.section_ = day) = []
        · simp [hnil]
        · simp [hnil]
      · rw [if_neg hs, List.filter_cons_of_neg (by simpa using hs)]

end AddRouteViewController

/-! ## The list of places -/

/-- The screen that lists the places of the region. -/
structure RouteListViewController where
  tourList : List TourModel := []
  filteredTourList : List TourModel := []
  section_ : Int := 0
  documentId : DocId := ""
  location : String := ""
  mainImageAddress : String := ""
  email : String := ""
  searchBar : String := ""
deriving DecidableEq

/-- `prepare(for:sender:)` for the segue "addRoute", from a row of the given
section.  The image is that of the first stop of day 1, if there is one yet. -/
def AddRouteViewController.prepare (vc : AddRouteViewController) (currentUser : Option String)
    (section_ : Int) : RouteListViewController :=
  { section_
    documentId := vc.newDocumentId
    location := vc.location
    email := currentUser.getD ""
    mainImageAddress := (vc.section0.head?.map RouteName.imageAddress).getD "" }

/-- The fields that `changeContentField` writes. -/
def RouteListViewController.changeContentField (vc : RouteListViewController) : Fields :=
  [("email", .string vc.email), ("location", .string vc.location),
    ("imageAddress", .string vc.mainImageAddress)]

/-! ## The details of a place -/

/-- The screen that shows one place and adds it to the trip.  The two labels
start with the texts of the storyboard. -/
structure DetailTourViewController where
  tourId : DocId := ""
  section_ : Int := 0
  imageAddress : String := ""
  address : String := ""
  documentId : DocId := ""
  geoPoint : GeoPoint := ⟨0, 0⟩
  nameLabel : String := "name"
  addressLabel : String := "address"
  descriptionLabel : String := "description"
deriving DecidableEq

/-- `prepare(for:sender:)` for the segue "detailTour". -/
def RouteListViewController.prepare (vc : RouteListViewController) (tourId : DocId) :
    DetailTourViewController :=
  { tourId, section_ := vc.section_, documentId := vc.documentId }

namespace DetailTourViewController

/-- The completion handler of `getDetailTour`.  A field of another type than
expected leaves the property as it was. -/
def getDetailTourDone (vc : DetailTourViewController) (snapshot : Document) :
    DetailTourViewController :=
  { vc with
    imageAddress := (snapshot.string "imageAddress").getD vc.imageAddress
    nameLabel := (snapshot.string "name").getD vc.nameLabel
    addressLabel := (snapshot.string "roadAddress").getD vc.addressLabel
    address := (snapshot.string "address").getD vc.address
    descriptionLabel := (snapshot.string "description").getD vc.descriptionLabel
    geoPoint := (snapshot.geoPoint "geopoint").getD vc.geoPoint }

/-- The document that the confirm action of `addClick` adds to `Route`. -/
def addClick (vc : DetailTourViewController) : Document :=
  .ofFields [
    ("section", .int vc.section_),
    ("name", .string vc.nameLabel),
    ("imageAddress", .string vc.imageAddress),
    ("address", .string vc.addressLabel),
    ("roadAddress", .string vc.address),
    ("geopoint", .geopoint vc.geoPoint)]

end DetailTourViewController

end Groute
