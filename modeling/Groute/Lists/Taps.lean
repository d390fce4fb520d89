import Mathlib.Data.List.Infix
import Groute.Authoring.Controllers
import Groute.Lib.TableView
import Groute.Main.Controller

/-!
# The row that is tapped

Three screens show a list and open the details of a row that is tapped: the main
list, the list of cities and the list of places.  Each of them decides three
times which array it shows — for the number of rows, for a cell and in
`prepare(for:sender:)` — and fetches, searches and sorts change the arrays in
between.  A cell is the record of what it shows, together with the item it was
rendered from.

Two of them search with `contains(_:)`, which compares strings as Unicode does.  The lists
rely on nothing about it, and it is a parameter.
-/

namespace Groute

open TableView

variable (contains : String → String → Bool)

/-! ## The main list -/

/-- A cell of the main list.  The time is shown as a day. -/
structure MainTableViewCell where
  content : Content
  locationImageView : String
  locationName : String
  locationAddress : Date
  favoriteCountLabel : String
deriving DecidableEq

namespace ViewController

/-- What a cell shows of a trip. -/
def cell (content : Content) : MainTableViewCell :=
  { content
    locationImageView := content.imageAddress
    locationName := content.title
    locationAddress := content.timestamp
    favoriteCountLabel := "좋아요 " ++ toString (content.favorite.getD 0) ++ "개" }

/-- `tableView(_:numberOfRowsInSection:)`. -/
def numberOfRowsInSection (vc : ViewController) : Nat := vc.content.length

/-- `tableView(_:cellForRowAt:)`. -/
def cellForRowAt (vc : ViewController) (row : Nat) : Option MainTableViewCell :=
  vc.content[row]?.map cell

/-- `prepare(for:sender:)` for the segue "content": the identifier that is handed on. -/
def prepare (vc : ViewController) (row : Nat) : Option DocId := vc.content[row]?.map Content.id

/-- The handlers of the listeners do not reload the table. -/
def reloads : MainList.Event → Bool
  | .favorites _ _ => false
  | .fetched _ | .segmentSelect _ _ => true

/-- The main list with its table. -/
def screen : TableView.Screen ViewController MainList.Event MainTableViewCell DocId where
  numberOfRows := numberOfRowsInSection
  cellForRow := cellForRowAt
  prepare := prepare
  handle vc e := MainList.controller { vc } e
  reloads := reloads

theorem lawful_screen :
    screen.Lawful ViewController.content cell fun _ content => content.id where
  numberOfRows _ := rfl
  cellForRow _ _ := rfl
  prepare _ _ := rfl
  frame {vc vc' e} hreloads h := by
    cases e with
    | favorites i documents => cases h; rfl
    | fetched | segmentSelect => cases hreloads

end ViewController

/-! ## The list of cities -/

/-- A cell of the list of cities. -/
structure CityTableViewCell where
  city : City
  cityNameLabel : String
  cityImageView : String
deriving DecidableEq

/-- What can happen on a screen with a search bar. -/
inductive SearchEvent where
  /-- The fetch of the list completes. -/
  | fetched (documents : List (DocId × Document))
  /-- The text of the search bar changes. -/
  | textDidChange (searchText : String)

namespace SearchViewController

/-- The record `getCityName` builds from a document; it has a default for every
field. -/
def city (document : DocId × Document) : City where
  cityName := (document.2.string "cityName").getD ""
  cityEtc := (document.2.string "cityEtc").getD ""
  cityImage := (document.2.string "cityImage").getD ""
  point := (document.2.geoPoint "geopoint").getD ⟨0, 0⟩

/-- The completion handler of `getCityName`. -/
def getCityNameDone (vc : SearchViewController) (documents : List (DocId × Document)) :
    SearchViewController :=
  documents.foldl (fun vc document => { vc with cityName := vc.cityName ++ [city document] }) vc

/-- `search`. -/
def search (vc : SearchViewController) : SearchViewController :=
  { vc with filteredCityName := vc.cityName.filter fun city => contains city.cityName vc.searchBar }

/-- The text of the search bar changes, and `searchBar(_:textDidChange:)` is called. -/
def textDidChange (vc : SearchViewController) (searchText : String) : SearchViewController :=
  let vc := { vc with searchBar := searchText }
  if searchText ≠ "" then vc.search contains else vc

/-- What a cell shows of a city. -/
def cell (city : City) : CityTableViewCell :=
  { city, cityNameLabel := city.cityName, cityImageView := city.cityImage }

/-- `tableView(_:numberOfRowsInSection:)`. -/
def numberOfRowsInSection (vc : SearchViewController) : Nat :=
  if vc.searchBar ≠ "" then vc.filteredCityName.length else vc.cityName.length

/-- `tableView(_:cellForRowAt:)`. -/
def cellForRowAt (vc : SearchViewController) (row : Nat) : Option CityTableViewCell :=
  if vc.searchBar ≠ "" then vc.filteredCityName[row]?.map cell else vc.cityName[row]?.map cell

/-- `prepare(for:sender:)` for the segue "city", from a row. -/
def prepareRow (vc : SearchViewController) (row : Nat) : Option AddRouteViewController :=
  if vc.searchBar ≠ "" then vc.filteredCityName[row]?.map vc.prepare
  else vc.cityName[row]?.map vc.prepare

/-- The handlers. -/
def handle (vc : SearchViewController) : SearchEvent → SearchViewController
  | .fetched documents => vc.getCityNameDone documents
  | .textDidChange searchText => vc.textDidChange contains searchText

/-- The list of cities with its table; both handlers reload it. -/
def screen :
    TableView.Screen SearchViewController SearchEvent CityTableViewCell AddRouteViewController where
  numberOfRows := numberOfRowsInSection
  cellForRow := cellForRowAt
  prepare := prepareRow
  handle vc e := some (vc.handle contains e)
  reloads _ := true

/-- The cities that are shown. -/
def shown (vc : SearchViewController) : List City :=
  if vc.searchBar ≠ "" then vc.filteredCityName else vc.cityName

theorem lawful_screen : (screen contains).Lawful shown cell prepare where
  numberOfRows vc := by
    show vc.numberOfRowsInSection = _
    rw [numberOfRowsInSection, shown]
    split_ifs <;> rfl
  cellForRow vc row := by
    show vc.cellForRowAt row = _
    rw [cellForRowAt, shown]
    split_ifs <;> rfl
  prepare vc row := by
    show vc.prepareRow row = _
    rw [prepareRow, shown]
    split_ifs <;> rfl
  frame hreloads _ := nomatch hreloads

end SearchViewController

/-! ## The list of places -/

/-- A cell of the list of places. -/
structure RouteListTableViewCell where
  tour : TourModel
  locationImageView : String
  locationNameLabel : String
  locationAddressLabel : String
deriving DecidableEq

namespace RouteListViewController

/-- The record `getList` builds from a document; one without point traps. -/
def tour (document : DocId × Document) : Option TourModel :=
  (document.2.geoPoint "geopoint").map fun geoPoint =>
    { id := document.1
      address := (document.2.string "address").getD ""
      imageAddress := (document.2.string "imageAddress").getD ""
      name := (document.2.string "name").getD ""
      roadAddress := (document.2.string "roadAddress").getD ""
      geoPoint }

/-- The completion handler of `getList`. -/
def getListDone (vc : RouteListViewController) (documents : List (DocId × Document)) :
    Option RouteListViewController :=
  documents.foldlM (fun vc document => (tour document).map fun tour =>
    { vc with tourList := vc.tourList ++ [tour] }) { vc with tourList := [] }

/-- `search`. -/
def search (vc : RouteListViewController) : RouteListViewController :=
  { vc with filteredTourList := vc.tourList.filter fun tour => contains tour.name vc.searchBar }

/-- The text of the search bar changes, and `searchBar(_:textDidChange:)` is called. -/
def textDidChange (vc : RouteListViewController) (searchText : String) :
    RouteListViewController :=
  let vc := { vc with searchBar := searchText }
  if searchText ≠ "" then vc.search contains else vc

/-- What a cell shows of a place. -/
def cell (tour : TourModel) : RouteListTableViewCell :=
  { tour
    locationImageView := tour.imageAddress
    locationNameLabel := tour.name
    locationAddressLabel := tour.roadAddress }

/-- `tableView(_:numberOfRowsInSection:)`. -/
def numberOfRowsInSection (vc : RouteListViewController) : Nat :=
  if vc.searchBar ≠ "" then vc.filteredTourList.length else vc.tourList.length

/-- `tableView(_:cellForRowAt:)`. -/
def cellForRowAt (vc : RouteListViewController) (row : Nat) : Option RouteListTableViewCell :=
  if vc.searchBar ≠ "" then vc.filteredTourList[row]?.map cell else vc.tourList[row]?.map cell

/-- `prepare(for:sender:)` for the segue "detailTour", from a row. -/
def prepareRow (vc : RouteListViewController) (row : Nat) : Option DetailTourViewController :=
  if vc.searchBar ≠ "" then vc.filteredTourList[row]?.map fun tour => vc.prepare tour.id
  else vc.tourList[row]?.map fun tour => vc.prepare tour.id

/-- The handlers. -/
def handle (vc : RouteListViewController) : SearchEvent → Option RouteListViewController
  | .fetched documents => vc.getListDone documents
  | .textDidChange searchText => some (vc.textDidChange contains searchText)

/-- The list of places with its table; both handlers reload it. -/
def screen :
    TableView.Screen RouteListViewController SearchEvent RouteListTableViewCell
      DetailTourViewController where
  numberOfRows := numberOfRowsInSection
  cellForRow := cellForRowAt
  prepare := prepareRow
  handle := handle contains
  reloads _ := true

/-- The places that are shown. -/
def shown (vc : RouteListViewController) : List TourModel :=
  if vc.searchBar ≠ "" then vc.filteredTourList else vc.tourList

theorem lawful_screen : (screen contains).Lawful shown cell fun vc tour => vc.prepare tour.id where
  numberOfRows vc := by
    show vc.numberOfRowsInSection = _
    rw [numberOfRowsInSection, shown]
    split_ifs <;> rfl
  cellForRow vc row := by
    show vc.cellForRowAt row = _
    rw [cellForRowAt, shown]
    split_ifs <;> rfl
  prepare vc row := by
    show vc.prepareRow row = _
    rw [prepareRow, shown]
    split_ifs <;> rfl
  frame hreloads _ := nomatch hreloads

end RouteListViewController

/-! ## Taps -/

/-- **A tap opens the row that was shown.**  On each of the three screens, from the
moment it is opened, the table holds what the data source would return, and a tap
hands on the identifier — the name and the point of a city — of the item that the
row shows, whatever the search finds. -/
theorem current_screens :
    (∀ {es : List (TableView.Screen.Event MainList.Event)} {s : TableView.Screen.State _ _ _},
      ViewController.screen.system.Runs ⟨{}, [], none, false⟩ es s →
        ViewController.screen.Current (fun cell => cell.content.id) id s) ∧
    (∀ (title : TitleViewController) {es : List (TableView.Screen.Event SearchEvent)}
      {s : TableView.Screen.State _ _ _},
      (SearchViewController.screen contains).system.Runs ⟨title.prepare, [], none, false⟩ es s →
        (SearchViewController.screen contains).Current
          (fun cell => (cell.city.cityName, cell.city.point))
          (fun planner => (planner.location, planner.point)) s) ∧
    ∀ (planner : AddRouteViewController) (currentUser : Option String) (section_ : Int)
      {es : List (TableView.Screen.Event SearchEvent)} {s : TableView.Screen.State _ _ _},
      (RouteListViewController.screen contains).system.Runs
          ⟨planner.prepare currentUser section_, [], none, false⟩ es s →
        (RouteListViewController.screen contains).Current (fun cell => cell.tour.id)
          (fun detailTour => detailTour.tourId) s := by
  refine ⟨fun hrun => ?_, fun title _ _ hrun => ?_, fun planner currentUser section_ _ _ hrun => ?_⟩
  · exact ViewController.lawful_screen.current (fun _ _ => rfl) hrun rfl
  · refine (SearchViewController.lawful_screen contains).current (fun _ _ => rfl) hrun ?_
    have hshown : title.prepare.shown = [] := by
      rw [TitleViewController.prepare]
      split_ifs <;> rfl
    exact (congrArg (List.map SearchViewController.cell) hshown).symm
  · exact (RouteListViewController.lawful_screen contains).current (fun _ _ => rfl) hrun rfl

/-- `contains(_:)` of strings that spell the same characters alike. -/
def characterwise (text word : String) : Bool := decide (word.toList <:+: text.toList)

/-- A place of that name. -/
def place (name : String) : Document :=
  .ofFields [("name", .string name), ("geopoint", .geopoint ⟨0, 0⟩)]

/-- Places are searched, then fetched again in another order. -/
theorem current_searched :
    ∃ main cities places,
      ViewController.screen.system.Runs ⟨{}, [], none, false⟩
        [.handled (.fetched [("t", .ofFields [("timestamp", .timestamp 0)])]), .tap 0] main ∧
      (SearchViewController.screen characterwise).system.Runs
        ⟨({} : TitleViewController).prepare, [], none, false⟩
        [.handled (.fetched [("c", .ofFields [("cityName", .string "c")])]), .tap 0] cities ∧
      (RouteListViewController.screen characterwise).system.Runs
        ⟨({} : AddRouteViewController).prepare none 0, [], none, false⟩
        [.handled (.fetched [("a", place "a"), ("b", place "b")]), .handled (.textDidChange "b"),
          .handled (.fetched [("b", place "b"), ("a", place "a")]), .tap 0] places ∧
      ViewController.screen.Current (fun cell => cell.content.id) id main ∧
      (SearchViewController.screen characterwise).Current
        (fun cell => (cell.city.cityName, cell.city.point))
        (fun planner => (planner.location, planner.point)) cities ∧
      (RouteListViewController.screen characterwise).Current (fun cell => cell.tour.id)
        (fun detailTour => detailTour.tourId) places := by
  obtain ⟨main, hmain, -⟩ := EventSystem.exists_runs_of_exec ViewController.screen.system
    ⟨{}, [], none, false⟩
    [.handled (.fetched [("t", .ofFields [("timestamp", .timestamp 0)])]), .tap 0]
    (fun _ => true) (by decide)
  obtain ⟨cities, hcities, -⟩ := EventSystem.exists_runs_of_exec
    (SearchViewController.screen characterwise).system
    ⟨({} : TitleViewController).prepare, [], none, false⟩
    [.handled (.fetched [("c", .ofFields [("cityName", .string "c")])]), .tap 0]
    (fun _ => true) (by decide)
  obtain ⟨places, hplaces, -⟩ := EventSystem.exists_runs_of_exec
    (RouteListViewController.screen characterwise).system
    ⟨({} : AddRouteViewController).prepare none 0, [], none, false⟩
    [.handled (.fetched [("a", place "a"), ("b", place "b")]), .handled (.textDidChange "b"),
      .handled (.fetched [("b", place "b"), ("a", place "a")]), .tap 0]
    (fun s => s.opened.any fun opened => opened.tourId = "b") (by decide)
  obtain ⟨hmainCurrent, hcitiesCurrent, hplacesCurrent⟩ := current_screens characterwise
  exact ⟨main, cities, places, hmain, hcities, hplaces, hmainCurrent hmain,
    hcitiesCurrent _ hcities, hplacesCurrent _ _ _ hplaces⟩

end Groute
