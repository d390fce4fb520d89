import Groute.Content.RouteScreen

/-!
# Counts, cells and headers of the second screen

Three methods of the data source of `ContentRouteViewController` tell what a section
is by three different tests.  In every state they agree: the first section holds the
fixed cells, the one with the review title the reviews, and the one with number `d`
the names of the `d`-th day, so the sections list the days and then the reviews.
-/

namespace Groute

namespace ContentRouteViewController

variable {vc : ContentRouteViewController} {headerView : FirstTabCollectionReusableView}
  {section_ row : Nat}

/-- The cell is the one that a section should have in this row, under its header. -/
structure Agree (vc : ContentRouteViewController) (headerView : FirstTabCollectionReusableView)
    (section_ row : Nat) (cell : Cell) : Prop where
  /-- The fixed cells are those of the first section, each in its row. -/
  fixed : cell ∈ vc.fixedCells ↔ section_ = 0
  fixedRow : section_ = 0 → vc.fixedCells[row]? = some cell
  /-- The `row`-th review, with its author, its text and its age, stands under the review
  title and nowhere else. -/
  review : (∃ review, vc.review[row]? = some review ∧
      cell = .reviewCell review.email review.content review.calcTime) ↔
    (vc.viewForHeader headerView section_).reads = some "리뷰"
  /-- Under a number stand the names of that day. -/
  day : section_ ≠ 0 → (vc.viewForHeader headerView section_).reads ≠ some "리뷰" →
    (vc.viewForHeader headerView section_).reads = some ("Day -" ++ toString section_) ∧
      ∃ day name, vc.exRoutes[section_ - 1]? = some day ∧ day[row]? = some name ∧
        cell = .routeList name

/-- A name is not one of the fixed cells. -/
theorem routeList_notMem_fixedCells (name : String) : Cell.routeList name ∉ vc.fixedCells := by
  simp [fixedCells]

/-- Nor is a review. -/
theorem reviewCell_notMem_fixedCells (userEmail reviewComment reviewTimestamp : String) :
    Cell.reviewCell userEmail reviewComment reviewTimestamp ∉ vc.fixedCells := by
  simp [fixedCells]

/-- The first section. -/
theorem agree_zero (h : row < 4) :
    ∃ cell, vc.cellForItemAt 0 row = some cell ∧ vc.Agree headerView 0 row cell := by
  have hlt : row < vc.fixedCells.length := h
  have hcell := List.getElem?_eq_getElem hlt
  refine ⟨vc.fixedCells[row], (cellForItemAt_zero h).trans hcell, ?_⟩
  refine ⟨iff_of_true (List.getElem_mem hlt) rfl, fun _ => hcell, ?_, fun hne => absurd rfl hne⟩
  refine iff_of_false ?_ (by simp [reads_zero])
  rintro ⟨review, -, heq⟩
  exact reviewCell_notMem_fixedCells _ _ _ (heq ▸ List.getElem_mem hlt)

/-- The section of a day. -/
theorem agree_day {d : Nat} {day : List String} (hday : vc.exRoutes[d]? = some day)
    (h : row < day.length) :
    ∃ cell, vc.cellForItemAt (d + 1) row = some cell ∧ vc.Agree headerView (d + 1) row cell := by
  have hname := List.getElem?_eq_getElem h
  refine ⟨.routeList day[row], ?_, ?_⟩
  · rw [cellForItemAt_day hday, hname, Option.map_some]
  · refine ⟨iff_of_false (routeList_notMem_fixedCells _) (Nat.succ_ne_zero d),
      fun hzero => absurd hzero (Nat.succ_ne_zero d), iff_of_false ?_ ?_,
      fun _ _ => ⟨reads_day hday headerView, day, day[row], hday, hname, rfl⟩⟩
    · rintro ⟨review, -, ⟨⟩⟩
    · rw [reads_day hday, Option.some.injEq]
      exact dayTitle_ne _

/-- The section of the reviews. -/
theorem agree_review (h : row < vc.review.length) :
    ∃ cell, vc.cellForItemAt (vc.exRoutes.length + 1) row = some cell ∧
      vc.Agree headerView (vc.exRoutes.length + 1) row cell := by
  have hreview := List.getElem?_eq_getElem h
  have hreads : (vc.viewForHeader headerView (vc.exRoutes.length + 1)).reads =
      some "리뷰" := reads_review headerView
  refine ⟨reviewCell vc.review[row], ?_, ?_⟩
  · rw [cellForItemAt_review, hreview, Option.map_some]
  · exact ⟨iff_of_false (reviewCell_notMem_fixedCells _ _ _) (Nat.succ_ne_zero _),
      fun hzero => absurd hzero (Nat.succ_ne_zero _), iff_of_true ⟨_, hreview, rfl⟩ hreads,
      fun _ hne => absurd hreads hne⟩

/-- The cells of a section, one for each row that is counted. -/
def cells (vc : ContentRouteViewController) (section_ : Nat) : Option (List Cell) :=
  (vc.filteringSection section_).bind fun count =>
    TableView.reload count (vc.cellForItemAt section_)

theorem cells_day {d : Nat} {day : List String} (h : vc.exRoutes[d]? = some day) :
    vc.cells (d + 1) = some (day.map Cell.routeList) := by
  rw [cells, filteringSection_day h, Option.bind_some, ← List.length_map Cell.routeList]
  refine TableView.reload_of_getElem? fun row _ => ?_
  rw [cellForItemAt_day h, List.getElem?_map]

theorem cells_review (vc : ContentRouteViewController) :
    vc.cells (vc.exRoutes.length + 1) = some (vc.review.map reviewCell) := by
  rw [cells, filteringSection_review, Option.bind_some, ← List.length_map reviewCell]
  refine TableView.reload_of_getElem? fun row _ => ?_
  rw [cellForItemAt_review, List.getElem?_map]

/-- The cells after those of the first section: a name for each stop of each day, and
the author, the text and the age of each review. -/
def listed (vc : ContentRouteViewController) : List (List Cell) :=
  vc.exRoutes.map (List.map Cell.routeList) ++ [vc.review.map fun review =>
    .reviewCell review.email review.content review.calcTime]

/-- The sections after the first list the days in their order, and then the reviews. -/
theorem reload_cells (vc : ContentRouteViewController) :
    TableView.reload (vc.numberOfSections - 1) (fun i => vc.cells (i + 1)) = some vc.listed := by
  have hlength : vc.listed.length = vc.numberOfSections - 1 := by
    rw [listed, List.length_append, List.length_map, List.length_singleton,
      numberOfSections_sub_one]
  rw [← hlength]
  refine TableView.reload_of_getElem? fun i hi => ?_
  rw [hlength, numberOfSections_sub_one] at hi
  rcases Nat.lt_succ_iff_lt_or_eq.mp hi with hlt | rfl
  · have hday := List.getElem?_eq_getElem hlt
    rw [cells_day hday, listed, List.getElem?_append_left (by simpa using hlt),
      List.getElem?_map, hday]
    rfl
  · rw [cells_review, listed, List.getElem?_append_right (by simp)]
    simp [reviewCell]

/-- **Counts, cells and headers agree.**  Every counted row of every section has the
cell that it should have under the header of its section, and together the sections
after the first list all days and then all reviews. -/
theorem sections_agree (vc : ContentRouteViewController)
    (headerView : Nat → FirstTabCollectionReusableView) :
    (∀ section_, section_ < vc.numberOfSections → ∃ count,
      vc.filteringSection section_ = some count ∧ ∀ row, row < count → ∃ cell,
        vc.cellForItemAt section_ row = some cell ∧
          vc.Agree (headerView section_) section_ row cell) ∧
    TableView.reload (vc.numberOfSections - 1) (fun i => vc.cells (i + 1)) = some vc.listed := by
  refine ⟨fun section_ hsection => ?_, reload_cells vc⟩
  rcases section_cases hsection with rfl | ⟨d, day, rfl, hday⟩ | rfl
  · exact ⟨4, filteringSection_zero vc, fun row hrow => agree_zero hrow⟩
  · exact ⟨day.length, filteringSection_day hday, fun row hrow => agree_day hday hrow⟩
  · exact ⟨vc.review.length, filteringSection_review vc, fun row hrow => agree_review hrow⟩

end ContentRouteViewController

end Groute
