import Groute.Content.Controllers
import Groute.Lib.Ordering
import Groute.Lib.TableView

/-!
# The second screen for a trip

`ContentRouteViewController` shows a trip in a collection view: a section of four
fixed cells, a section for each day that has been received, and a section of the
reviews.  Five sources fill its properties, each of them with a handler of its own.

The methods of the data source tell the sections apart by three different tests;
each has one lemma for each kind of section.
-/

namespace Groute

/-- The screen that shows a trip day by day. -/
structure ContentRouteViewController where
  /-- The day that `routeTime` spells out, once there is one. -/
  routeTime : Option Date := none
  routeLocation : String := ""
  routeMemo : String := ""
  routeUser : String := ""
  exRoutes : List (List String) := []
  ex1 : List String := []
  review : List Comment := []
  like : List Favorite := []
  likeCount : Nat := 0
  reviewCount : String := ""
  contentId : DocId := ""
  isExist : Bool := false
deriving DecidableEq

/-- A header of the collection view, which may have been in use for another section. -/
structure FirstTabCollectionReusableView where
  isHidden : Bool := false
  title : String := ""
  /-- `reviewCount.isHidden`. -/
  reviewCountHidden : Bool := false
  reviewCount : String := ""
deriving DecidableEq

namespace FirstTabCollectionReusableView

/-- The title that the user reads, if any. -/
def reads (headerView : FirstTabCollectionReusableView) : Option String :=
  if headerView.isHidden then none else some headerView.title

end FirstTabCollectionReusableView

namespace ContentRouteViewController

variable {vc vc' : ContentRouteViewController} {documents : List (DocId × Document)}

/-! ## The handlers -/

/-- The loop in the handler of `getRoute`: the names of the documents are collected
in `ex1`. -/
def collectNames (vc : ContentRouteViewController) (documents : List (DocId × Document)) :
    Option ContentRouteViewController :=
  documents.foldlM (fun vc document => (getName document).map fun name =>
    { vc with ex1 := vc.ex1 ++ [name] }) { vc with ex1 := [] }

/-- The handler of one of the queries of `getRoute`; a stop without name traps, and a
day without stops is left out. -/
def getRouteDone (vc : ContentRouteViewController) (documents : List (DocId × Document)) :
    Option ContentRouteViewController :=
  (vc.collectNames documents).map fun vc =>
    if vc.ex1.isEmpty then vc else { vc with exRoutes := vc.exRoutes ++ [vc.ex1] }

/-- The handler of the listener that `checkLikeImage` registers. -/
def checkLikeImageDone (vc : ContentRouteViewController) (documents : List (DocId × Document)) :
    ContentRouteViewController :=
  { vc with isExist := !documents.isEmpty }

/-- What the listener of `getExistLikeLocation` does to the screen; what it writes is
`getExistLikeLocationDone`. -/
def existLikeLocationDone (vc : ContentRouteViewController)
    (documents : List (DocId × Document)) : ContentRouteViewController :=
  { vc with isExist := documents.isEmpty }

/-- The handler of the listener that `getLikeCount` registers; a like without e-mail
traps. -/
def getLikeCountDone (vc : ContentRouteViewController) (documents : List (DocId × Document)) :
    Option ContentRouteViewController :=
  (documents.foldlM (fun vc document => (getLike document).map fun like =>
    { vc with like := vc.like ++ [like] }) { vc with like := [] }).map fun vc =>
      { vc with likeCount := vc.like.length }

/-- The comparator of `getReview`. -/
def newer (lhs rhs : Comment) : Bool := rhs.timestamp < lhs.timestamp

/-- The handler of the listener that `getReview` registers; a review without timestamp
traps.  The clock is read anew for each document. -/
def getReviewDone (sorter : Sorter Comment) (now : DocId → Date) (vc : ContentRouteViewController)
    (documents : List (DocId × Document)) : Option ContentRouteViewController :=
  (documents.foldlM (fun vc document => (getReview (now document.1) document).map fun review =>
    { vc with review := vc.review ++ [review] }) { vc with review := [] }).map fun vc =>
      let review := sorter.sort newer vc.review
      { vc with review, reviewCount := "(" ++ toString review.length ++ ")" }

/-- The handler of `getContent`; a field of another type than expected leaves the
property as it was. -/
def getContentDone (vc : ContentRouteViewController) (snapshot : Document) :
    ContentRouteViewController :=
  { vc with
    routeLocation := (snapshot.string "title").getD vc.routeLocation
    routeMemo := (snapshot.string "memo").getD vc.routeMemo
    routeUser := (snapshot.string "email").getD vc.routeUser
    routeTime := (snapshot.date "timestamp").or vc.routeTime }

/-- The names are those of all documents, unless one has none. -/
theorem collectNames_mapM (vc : ContentRouteViewController)
    (documents : List (DocId × Document)) :
    vc.collectNames documents = (documents.mapM getName).map fun ex1 => { vc with ex1 } :=
  TableView.foldlM_concat ex1 (fun vc ex1 => { vc with ex1 }) (fun _ _ => rfl)
    (fun _ _ _ => rfl) (fun _ => rfl) getName documents { vc with ex1 := [] }

/-- A day with stops becomes the last one that is shown. -/
theorem getRouteDone_mapM (vc : ContentRouteViewController)
    (documents : List (DocId × Document)) :
    vc.getRouteDone documents = (documents.mapM getName).map fun ex1 =>
      { vc with
        ex1, exRoutes := if ex1.isEmpty then vc.exRoutes else vc.exRoutes ++ [ex1] } := by
  rw [getRouteDone, collectNames_mapM, Option.map_map]
  refine congrArg (Option.map · (documents.mapM getName)) (funext fun ex1 => ?_)
  rw [Function.comp_apply]
  split <;> rfl

/-! ## The data source -/

/-- `numberOfSections(in:)`. -/
def numberOfSections (vc : ContentRouteViewController) : Nat := vc.exRoutes.length + 2

/-- `filteringSection`, and with it `collectionView(_:numberOfItemsInSection:)`: three
tests, one after the other; an index beyond the end of `exRoutes` traps. -/
def filteringSection (vc : ContentRouteViewController) (data : Nat) : Option Nat :=
  let cells := 0
  let cells := if data = 0 then 4 else cells
  let cells := if data = vc.exRoutes.length + 1 then vc.review.length else cells
  if data ≠ 0 ∧ data ≠ vc.exRoutes.length + 1 then vc.exRoutes[data - 1]?.map List.length
  else some cells

/-- The title over the reviews. -/
def reviewTitle : String := "리뷰"

/-- The title over a day. -/
def dayTitle (section_ : Nat) : String := "Day -" ++ toString section_

/-- `collectionView(_:viewForSupplementaryElementOfKind:at:)` for a header. -/
def viewForHeader (vc : ContentRouteViewController) (headerView : FirstTabCollectionReusableView)
    (section_ : Nat) : FirstTabCollectionReusableView :=
  if section_ = 0 then { headerView with isHidden := true }
  else if section_ = vc.exRoutes.length + 1 then
    { headerView with isHidden := false, title := reviewTitle, reviewCount := vc.reviewCount }
  else
    { headerView with isHidden := false, reviewCountHidden := true, title := dayTitle section_ }

/-- A cell of the collection view. -/
inductive Cell where
  | timeLocation (locationLabel : String) (timeLabel : Option Date)
  | map
  /-- The button is a filled heart or an empty one. -/
  | likeUsername (filled : Bool) (tag : Nat) (likeCount userLabel : String)
  | memo (memoLabel : String)
  | reviewCell (userEmail reviewComment reviewTimestamp : String)
  | routeList (routeName : String)
deriving DecidableEq

/-- The four fixed cells. -/
def fixedCells (vc : ContentRouteViewController) : List Cell :=
  [.timeLocation vc.routeLocation vc.routeTime, .map,
    .likeUsername vc.isExist 2 (toString vc.likeCount) vc.routeUser, .memo vc.routeMemo]

/-- The cell of a review. -/
def reviewCell (review : Comment) : Cell :=
  .reviewCell review.email review.content review.calcTime

/-- `exRoutes[indexPath.section-1][indexPath.row]`; section 0 has no day before it. -/
def routeCell (vc : ContentRouteViewController) : Nat → Nat → Option Cell
  | 0, _ => none
  | section_ + 1, row => vc.exRoutes[section_]?.bind fun day => day[row]?.map Cell.routeList

/-- `collectionView(_:cellForItemAt:)`.  A fifth row of the first section falls through to
the last statement of the method. -/
def cellForItemAt (vc : ContentRouteViewController) (section_ row : Nat) : Option Cell :=
  if section_ = 0 then
    if row = 0 then some (.timeLocation vc.routeLocation vc.routeTime)
    else if row = 1 then some .map
    else if row = 2 then
      some (.likeUsername vc.isExist row (toString vc.likeCount) vc.routeUser)
    else if row = 3 then some (.memo vc.routeMemo)
    else vc.routeCell section_ row
  else if section_ = vc.numberOfSections - 1 then vc.review[row]?.map reviewCell
  else vc.routeCell section_ row

/-! ## The kinds of sections -/

/-- A section is the first one, that of a day, or that of the reviews. -/
theorem section_cases {section_ : Nat} (h : section_ < vc.numberOfSections) :
    section_ = 0 ∨ (∃ d day, section_ = d + 1 ∧ vc.exRoutes[d]? = some day) ∨
      section_ = vc.exRoutes.length + 1 := by
  rcases Nat.eq_zero_or_eq_succ_pred section_ with hzero | hsucc
  · exact .inl hzero
  · by_cases hlast : section_ = vc.exRoutes.length + 1
    · exact .inr (.inr hlast)
    · rw [numberOfSections] at h
      have hlt : section_.pred < vc.exRoutes.length := by omega
      exact .inr (.inl ⟨section_.pred, _, hsucc, List.getElem?_eq_getElem hlt⟩)

/-- A day is not the section of the reviews. -/
theorem day_ne {d : Nat} {day : List String} (h : vc.exRoutes[d]? = some day) :
    d + 1 ≠ vc.exRoutes.length + 1 := by
  obtain ⟨hlt, -⟩ := List.getElem?_eq_some_iff.mp h
  omega

theorem numberOfSections_sub_one (vc : ContentRouteViewController) :
    vc.numberOfSections - 1 = vc.exRoutes.length + 1 := rfl

theorem filteringSection_zero (vc : ContentRouteViewController) :
    vc.filteringSection 0 = some 4 := by
  simp [filteringSection]

theorem filteringSection_day {d : Nat} {day : List String} (h : vc.exRoutes[d]? = some day) :
    vc.filteringSection (d + 1) = some day.length := by
  have hne := day_ne h
  simp only [filteringSection, if_pos (⟨Nat.succ_ne_zero d, hne⟩ : _ ∧ _)]
  rw [Nat.add_sub_cancel, h, Option.map_some]

theorem filteringSection_review (vc : ContentRouteViewController) :
    vc.filteringSection (vc.exRoutes.length + 1) = some vc.review.length := by
  simp [filteringSection]

theorem cellForItemAt_zero {row : Nat} (h : row < 4) :
    vc.cellForItemAt 0 row = vc.fixedCells[row]? := by
  have hrow : row = 0 ∨ row = 1 ∨ row = 2 ∨ row = 3 := by omega
  rcases hrow with rfl | rfl | rfl | rfl <;> rfl

theorem cellForItemAt_day {d : Nat} {day : List String} (h : vc.exRoutes[d]? = some day)
    (row : Nat) : vc.cellForItemAt (d + 1) row = day[row]?.map Cell.routeList := by
  have hne := day_ne h
  rw [cellForItemAt, if_neg (Nat.succ_ne_zero d), numberOfSections_sub_one, if_neg hne, routeCell,
    h]
  rfl

theorem cellForItemAt_review (vc : ContentRouteViewController) (row : Nat) :
    vc.cellForItemAt (vc.exRoutes.length + 1) row = vc.review[row]?.map reviewCell := by
  rw [cellForItemAt, if_neg (Nat.succ_ne_zero _), numberOfSections_sub_one, if_pos rfl]

/-- The title over a day starts with a letter that the title over the reviews does not
have. -/
theorem dayTitle_ne (section_ : Nat) : dayTitle section_ ≠ reviewTitle := by
  intro h
  have hhead := congrArg (fun title => title.toList.head?) h
  simp [dayTitle, reviewTitle] at hhead

theorem reads_zero (headerView : FirstTabCollectionReusableView) :
    (vc.viewForHeader headerView 0).reads = none := rfl

theorem reads_day {d : Nat} {day : List String} (h : vc.exRoutes[d]? = some day)
    (headerView : FirstTabCollectionReusableView) :
    (vc.viewForHeader headerView (d + 1)).reads = some (dayTitle (d + 1)) := by
  rw [viewForHeader, if_neg (Nat.succ_ne_zero d), if_neg (day_ne h)]
  rfl

theorem reads_review (headerView : FirstTabCollectionReusableView) :
    (vc.viewForHeader headerView (vc.exRoutes.length + 1)).reads = some reviewTitle := by
  rw [viewForHeader, if_neg (Nat.succ_ne_zero _), if_pos rfl]
  rfl

end ContentRouteViewController

end Groute
