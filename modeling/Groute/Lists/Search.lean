import Groute.Lists.Taps

/-!
# Are the search results current?

The list of cities and the list of places keep the results of the last search in an
array of their own, which is computed when the text of the search bar changes.  The
completion of the fetch changes the list behind it and reloads the table, but does not
search again.  So the rows are those that the text asks for throughout exactly if no
fetch that completes under a text changes the results.
-/

namespace Groute

open TableView

variable (contains : String → String → Bool)

namespace SearchViewController

variable {vc : SearchViewController} {documents : List (DocId × Document)}

/-- The cities that the text of the search bar asks for. -/
def wanted (vc : SearchViewController) : List City :=
  if vc.searchBar ≠ "" then vc.cityName.filter fun city => contains city.cityName vc.searchBar
  else vc.cityName

/-- A fetch adds a city for each document. -/
theorem getCityNameDone_eq (vc : SearchViewController) (documents : List (DocId × Document)) :
    vc.getCityNameDone documents =
      { vc with cityName := vc.cityName ++ documents.map city } := by
  induction documents generalizing vc with
  | nil => simp [getCityNameDone]
  | cons document documents ih =>
      change getCityNameDone { vc with cityName := vc.cityName ++ [city document] } documents = _
      rw [ih]
      simp

/-- A search shows what the text asks for. -/
theorem shown_textDidChange (vc : SearchViewController) (searchText : String) :
    (vc.textDidChange contains searchText).shown =
      (vc.textDidChange contains searchText).wanted contains := by
  unfold textDidChange
  dsimp only
  split_ifs with htext <;> simp [shown, wanted, search, htext]

/-- A fetch leaves the results current exactly if the text is empty or asks for none of
the new cities. -/
theorem shown_getCityNameDone_iff (h : vc.shown = vc.wanted contains) :
    (vc.getCityNameDone documents).shown = (vc.getCityNameDone documents).wanted contains ↔
      (vc.searchBar ≠ "" →
        ∀ document ∈ documents, contains (city document).cityName vc.searchBar = false) := by
  rw [getCityNameDone_eq]
  unfold shown wanted at h ⊢
  by_cases htext : vc.searchBar = ""
  · simp [htext]
  · rw [if_pos htext, if_pos htext] at h ⊢
    rw [h, List.filter_append, List.self_eq_append_right, List.filter_eq_nil_iff,
      List.forall_mem_map]
    simp only [Bool.not_eq_true, ne_eq, htext, not_false_eq_true, true_imp_iff]

/-- A fetch completes while the text is empty or asks for none of the new cities. -/
def Unmatched (s : Screen.State SearchViewController CityTableViewCell AddRouteViewController) :
    Screen.Event SearchEvent → Prop
  | .handled (.fetched documents) => s.vc.searchBar ≠ "" →
      ∀ document ∈ documents, contains (city document).cityName s.vc.searchBar = false
  | .handled (.textDidChange _) | .tap _ => True

/-- A step keeps the results current exactly if it brings no new ones. -/
theorem shown_iff {s t : Screen.State SearchViewController CityTableViewCell AddRouteViewController}
    {e : Screen.Event SearchEvent} (h : s.vc.shown = s.vc.wanted contains)
    (hstep : (screen contains).step s e = some t) :
    t.vc.shown = t.vc.wanted contains ↔ Unmatched contains s e := by
  rcases e with (documents | searchText) | row
  · have hvc : t.vc = s.vc.getCityNameDone documents :=
      (lawful_screen contains).vc_handled hstep
    rw [hvc]
    exact shown_getCityNameDone_iff contains h
  · have hvc : t.vc = s.vc.textDidChange contains searchText :=
      (lawful_screen contains).vc_handled hstep
    rw [hvc]
    exact iff_of_true (shown_textDidChange contains _ _) trivial
  · rw [Screen.Lawful.vc_tap hstep]
    exact iff_of_true h trivial

end SearchViewController

namespace RouteListViewController

variable {vc vc' : RouteListViewController} {documents : List (DocId × Document)}

/-- The places that the text of the search bar asks for. -/
def wanted (vc : RouteListViewController) : List TourModel :=
  if vc.searchBar ≠ "" then vc.tourList.filter fun tour => contains tour.name vc.searchBar
  else vc.tourList

/-- A fetch replaces the list by a place for each document. -/
theorem getListDone_mapM (vc : RouteListViewController) (documents : List (DocId × Document)) :
    vc.getListDone documents =
      (documents.mapM tour).map fun tourList => { vc with tourList } :=
  foldlM_concat tourList (fun vc tourList => { vc with tourList }) (fun _ _ => rfl)
    (fun _ _ _ => rfl) (fun _ => rfl) tour documents { vc with tourList := [] }

/-- A search shows what the text asks for. -/
theorem shown_textDidChange (vc : RouteListViewController) (searchText : String) :
    (vc.textDidChange contains searchText).shown =
      (vc.textDidChange contains searchText).wanted contains := by
  unfold textDidChange
  dsimp only
  split_ifs with htext <;> simp [shown, wanted, search, htext]

/-- Another list leaves the results current exactly if the text is empty or asks for the
same places of both lists. -/
theorem shown_tourList_iff (h : vc.shown = vc.wanted contains) (tourList : List TourModel) :
    shown { vc with tourList } = wanted contains { vc with tourList } ↔
      (vc.searchBar ≠ "" → tourList.filter (fun tour => contains tour.name vc.searchBar) =
        vc.tourList.filter fun tour => contains tour.name vc.searchBar) := by
  unfold shown wanted at h ⊢
  by_cases htext : vc.searchBar = ""
  · simp [htext]
  · rw [if_pos htext, if_pos htext] at h ⊢
    rw [h]
    simp [htext, eq_comm]

/-- A fetch completes while the text is empty or asks for the same places of the old list
and the new one. -/
def Unmatched
    (s : Screen.State RouteListViewController RouteListTableViewCell DetailTourViewController) :
    Screen.Event SearchEvent → Prop
  | .handled (.fetched documents) => s.vc.searchBar ≠ "" →
      ∀ tourList, documents.mapM tour = some tourList →
        tourList.filter (fun tour => contains tour.name s.vc.searchBar) =
          s.vc.tourList.filter fun tour => contains tour.name s.vc.searchBar
  | .handled (.textDidChange _) | .tap _ => True

/-- A step keeps the results current exactly if it does not change them. -/
theorem shown_iff
    {s t : Screen.State RouteListViewController RouteListTableViewCell DetailTourViewController}
    {e : Screen.Event SearchEvent} (h : s.vc.shown = s.vc.wanted contains)
    (hstep : (screen contains).step s e = some t) :
    t.vc.shown = t.vc.wanted contains ↔ Unmatched contains s e := by
  rcases e with (documents | searchText) | row
  · have hvc : t.vc = (s.vc.getListDone documents).getD s.vc :=
      (lawful_screen contains).vc_handled hstep
    rw [getListDone_mapM] at hvc
    cases hlist : documents.mapM tour with
    | none =>
        rw [hlist] at hvc
        rw [hvc]
        refine iff_of_true h fun _ tourList htourList => ?_
        cases hlist.symm.trans htourList
    | some tourList =>
        rw [hlist] at hvc
        rw [hvc]
        refine (shown_tourList_iff contains h tourList).trans (imp_congr_right fun _ => ?_)
        refine ⟨fun heq tourList' htourList => ?_, fun hall => hall tourList hlist⟩
        cases hlist.symm.trans htourList
        exact heq
  · have hvc : t.vc = s.vc.textDidChange contains searchText :=
      (lawful_screen contains).vc_handled hstep
    rw [hvc]
    exact iff_of_true (shown_textDidChange contains _ _) trivial
  · rw [Screen.Lawful.vc_tap hstep]
    exact iff_of_true h trivial

end RouteListViewController

/-! ## Both lists -/

/-- **Search results.**  On the list of cities and on the list of places, from the moment
the screen is opened, the rows are those that the text asks for after every event exactly
if no fetch changes the results under a text, whatever the search finds in a text. -/
theorem forall_wanted_iff (title : TitleViewController) (planner : AddRouteViewController)
    (currentUser : Option String) (section_ : Int) {es es' : List (Screen.Event SearchEvent)}
    {cities : Screen.State SearchViewController CityTableViewCell AddRouteViewController}
    {places :
      Screen.State RouteListViewController RouteListTableViewCell DetailTourViewController}
    (hcities : (SearchViewController.screen contains).system.Runs
      ⟨title.prepare, [], none, false⟩ es cities)
    (hplaces : (RouteListViewController.screen contains).system.Runs
      ⟨planner.prepare currentUser section_, [], none, false⟩ es' places) :
    ((∀ fs u, fs <+: es →
        (SearchViewController.screen contains).system.Runs ⟨title.prepare, [], none, false⟩ fs u →
        u.table = (u.vc.wanted contains).map SearchViewController.cell) ↔
      (SearchViewController.screen contains).system.Steps (SearchViewController.Unmatched contains)
        ⟨title.prepare, [], none, false⟩ es cities) ∧
    ((∀ fs u, fs <+: es' →
        (RouteListViewController.screen contains).system.Runs
          ⟨planner.prepare currentUser section_, [], none, false⟩ fs u →
        u.table = (u.vc.wanted contains).map RouteListViewController.cell) ↔
      (RouteListViewController.screen contains).system.Steps
        (RouteListViewController.Unmatched contains)
        ⟨planner.prepare currentUser section_, [], none, false⟩ es' places) := by
  constructor
  · have hnone : title.prepare.shown = [] ∧ title.prepare.wanted contains = [] := by
      rw [TitleViewController.prepare]
      split_ifs <;> exact ⟨rfl, rfl⟩
    refine (SearchViewController.lawful_screen contains).forall_table_iff
      (fun _ _ h => congrArg CityTableViewCell.city h)
      (SearchViewController.shown_iff contains) hcities ?_ ?_
    · rw [hnone.1]
      rfl
    · exact hnone.1.trans hnone.2.symm
  · exact (RouteListViewController.lawful_screen contains).forall_table_iff
      (fun _ _ h => congrArg RouteListTableViewCell.tour h)
      (RouteListViewController.shown_iff contains) hplaces rfl rfl

instance (s : Screen.State SearchViewController CityTableViewCell AddRouteViewController)
    (e : Screen.Event SearchEvent) : Decidable (SearchViewController.Unmatched contains s e) :=
  match e with
  | .handled (.fetched documents) => inferInstanceAs (Decidable (s.vc.searchBar ≠ "" →
      ∀ document ∈ documents, contains (SearchViewController.city document).cityName
        s.vc.searchBar = false))
  | .handled (.textDidChange _) | .tap _ => inferInstanceAs (Decidable True)

instance (s : Screen.State RouteListViewController RouteListTableViewCell DetailTourViewController)
    (e : Screen.Event SearchEvent) : Decidable (RouteListViewController.Unmatched contains s e) :=
  match e with
  | .handled (.fetched documents) => inferInstanceAs (Decidable (s.vc.searchBar ≠ "" →
      ∀ tourList ∈ documents.mapM RouteListViewController.tour,
        tourList.filter (fun tour => contains tour.name s.vc.searchBar) =
          s.vc.tourList.filter fun tour => contains tour.name s.vc.searchBar))
  | .handled (.textDidChange _) | .tap _ => inferInstanceAs (Decidable True)

/-- A city. -/
def cityDocument (name : String) : DocId × Document :=
  (name, .ofFields [("cityName", .string name)])

/-- The list of cities is searched in vain before it is fetched, and the list of places
when it is there. -/
theorem wanted_searched : ∃ cities places,
    (SearchViewController.screen characterwise).system.Runs
      ⟨({} : TitleViewController).prepare, [], none, false⟩
      [.handled (.textDidChange "x"), .handled (.fetched [cityDocument "c"]),
        .handled (.textDidChange "c")] cities ∧
    (RouteListViewController.screen characterwise).system.Runs
      ⟨({} : AddRouteViewController).prepare none 0, [], none, false⟩
      [.handled (.fetched [("a", place "a"), ("b", place "b")]), .handled (.textDidChange "b")]
      places ∧
    cities.table = (cities.vc.wanted characterwise).map SearchViewController.cell ∧
    places.table = (places.vc.wanted characterwise).map RouteListViewController.cell := by
  obtain ⟨cities, hcities, -⟩ := EventSystem.exists_steps_of_exec
    (SearchViewController.screen characterwise).system
    (SearchViewController.Unmatched characterwise)
    ⟨({} : TitleViewController).prepare, [], none, false⟩
    [.handled (.textDidChange "x"), .handled (.fetched [cityDocument "c"]),
      .handled (.textDidChange "c")] (fun _ => true) (by decide)
  obtain ⟨places, hplaces, -⟩ := EventSystem.exists_steps_of_exec
    (RouteListViewController.screen characterwise).system
    (RouteListViewController.Unmatched characterwise)
    ⟨({} : AddRouteViewController).prepare none 0, [], none, false⟩
    [.handled (.fetched [("a", place "a"), ("b", place "b")]), .handled (.textDidChange "b")]
    (fun _ => true) (by decide)
  obtain ⟨hcityRows, hplaceRows⟩ :=
    forall_wanted_iff characterwise {} {} none 0 hcities.runs hplaces.runs
  have hcityRows := hcityRows.mpr hcities
  have hplaceRows := hplaceRows.mpr hplaces
  exact ⟨cities, places, hcities.runs, hplaces.runs,
    hcityRows _ _ (List.prefix_refl _) hcities.runs,
    hplaceRows _ _ (List.prefix_refl _) hplaces.runs⟩

/-- The name of a city is typed before the list is fetched. -/
theorem exists_not_wanted : ¬∀ (title : TitleViewController)
    {es : List (Screen.Event SearchEvent)} {s : Screen.State _ _ _},
    (SearchViewController.screen characterwise).system.Runs ⟨title.prepare, [], none, false⟩ es s →
      s.table = (s.vc.wanted characterwise).map SearchViewController.cell := by
  intro hall
  obtain ⟨s, hrun, hs⟩ := EventSystem.exists_runs_of_exec
    (SearchViewController.screen characterwise).system
    ⟨({} : TitleViewController).prepare, [], none, false⟩
    [.handled (.textDidChange "c"), .handled (.fetched [cityDocument "c"])]
    (fun s => s.table ≠ (s.vc.wanted characterwise).map SearchViewController.cell) (by decide)
  exact of_decide_eq_true hs (hall {} hrun)

end Groute
