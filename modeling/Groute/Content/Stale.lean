import Groute.Content.RouteScreen
import Groute.Lib.SectionedTable

/-!
# Is the collection view up to date?

The days and the reviews of `ContentRouteViewController` decide how many sections its
collection view has and how many items each of them.  Of the handlers that change
them, the one of `getReview` reloads the view; the one of `getRoute` does not.  So the
view is up to date throughout exactly if no query of `getRoute` ever delivers a stop.
-/

namespace Groute

namespace ContentRouteViewController

/-- What can happen; a source that reports an error delivers nothing. -/
inductive Event where
  | getContent (snapshot : Option Document)
  | getRoute (documents : Option (List (DocId × Document)))
  | getReview (sorter : Sorter Comment) (now : DocId → Date)
      (documents : Option (List (DocId × Document)))
  | getLikeCount (documents : Option (List (DocId × Document)))
  | checkLikeImage (documents : Option (List (DocId × Document)))
  | getExistLikeLocation (documents : Option (List (DocId × Document)))
  | likeButtonClicked

/-- The screen after an event, and whether its handler calls `reloadData`. -/
def handle (vc : ContentRouteViewController) :
    Event → Option (ContentRouteViewController × Bool)
  | .getContent (some snapshot) => some (vc.getContentDone snapshot, true)
  | .getRoute (some documents) => (vc.getRouteDone documents).map (·, false)
  | .getReview sorter now (some documents) => (vc.getReviewDone sorter now documents).map (·, true)
  | .getLikeCount (some documents) => (vc.getLikeCountDone documents).map (·, true)
  | .checkLikeImage (some documents) => some (vc.checkLikeImageDone documents, false)
  | .getExistLikeLocation (some documents) => some (vc.existLikeLocationDone documents, true)
  | .likeButtonClicked => some (vc, true)
  | .getContent none | .getRoute none | .getReview _ _ none | .getLikeCount none
  | .checkLikeImage none | .getExistLikeLocation none => some (vc, false)

/-- The numbers of items of all sections. -/
def counts (vc : ContentRouteViewController) : Option (List Nat) :=
  TableView.reload vc.numberOfSections vc.filteringSection

/-- The collection view. -/
def collectionView : SectionedTable ContentRouteViewController Event := ⟨counts, handle⟩

variable {vc vc' : ContentRouteViewController} {e : Event} {es : List Event}
  {s : SectionedTable.State ContentRouteViewController}

/-- No item of a section is missing. -/
theorem counts_eq (vc : ContentRouteViewController) :
    vc.counts = some (4 :: (vc.exRoutes.map List.length ++ [vc.review.length])) := by
  have hlength : (4 :: (vc.exRoutes.map List.length ++ [vc.review.length])).length =
      vc.numberOfSections := by
    simp [numberOfSections]
  rw [counts, ← hlength]
  refine TableView.reload_of_getElem? fun section_ hsection => ?_
  rw [hlength] at hsection
  rcases section_cases hsection with rfl | ⟨d, day, rfl, hday⟩ | rfl
  · exact filteringSection_zero vc
  · have hlt := (List.getElem?_eq_some_iff.mp hday).1
    rw [filteringSection_day hday, List.getElem?_cons_succ,
      List.getElem?_append_left (by simpa using hlt), List.getElem?_map, hday]
    rfl
  · rw [filteringSection_review, List.getElem?_cons_succ,
      List.getElem?_append_right (by simp)]
    simp

/-- An answer to a query of `getRoute` has no stops. -/
def NoStops : Event → Prop
  | .getRoute (some documents) => ∀ names, documents.mapM getName = some names → names = []
  | .getRoute none | .getContent _ | .getReview _ _ _ | .getLikeCount _ | .checkLikeImage _
  | .getExistLikeLocation _ | .likeButtonClicked => True

/-- One more day is one more section. -/
theorem paired_getRoute_iff {documents : List (DocId × Document)} :
    collectionView.Paired s (.getRoute (some documents)) ↔
      NoStops (.getRoute (some documents)) := by
  have hhandle (vc : ContentRouteViewController) :
      collectionView.handle s.vc (.getRoute (some documents)) = some (vc, false) ↔
        ∃ names, documents.mapM getName = some names ∧ { s.vc with
          ex1 := names
          exRoutes := if names.isEmpty then s.vc.exRoutes else s.vc.exRoutes ++ [names] } = vc := by
    change (s.vc.getRouteDone documents).map (·, false) = some (vc, false) ↔ _
    rw [getRouteDone_mapM, Option.map_map, Option.map_eq_some_iff]
    simp
  constructor
  · intro hpaired names hnames
    have hcounts := hpaired _ ((hhandle _).mpr ⟨names, hnames, rfl⟩)
    by_contra hne
    have hlength := congrArg (Option.map List.length) hcounts
    change (counts _).map List.length = (counts _).map List.length at hlength
    rw [counts_eq, counts_eq] at hlength
    simp [hne] at hlength
  · intro hnone vc hvc
    obtain ⟨names, hnames, rfl⟩ := (hhandle vc).mp hvc
    obtain rfl := hnone names hnames
    change counts _ = counts _
    rw [counts_eq, counts_eq]
    rfl

/-- The other handlers that do not reload the view change neither days nor reviews. -/
theorem handle_frame (hroute : ∀ documents, e ≠ .getRoute (some documents))
    (h : vc.handle e = some (vc', false)) :
    vc'.exRoutes = vc.exRoutes ∧ vc'.review = vc.review := by
  cases e with
  | getRoute documents =>
      cases documents with
      | none => cases h; exact ⟨rfl, rfl⟩
      | some documents => exact absurd rfl (hroute documents)
  | getReview _ _ documents | getLikeCount documents =>
      cases documents with
      | none => cases h; exact ⟨rfl, rfl⟩
      | some documents => obtain ⟨_, -, ⟨⟩⟩ := Option.map_eq_some_iff.mp h
  | getContent documents | checkLikeImage documents | getExistLikeLocation documents =>
      cases documents <;> cases h <;> exact ⟨rfl, rfl⟩
  | likeButtonClicked => cases h

/-- An event needs no reload exactly if it is no answer with stops. -/
theorem paired_iff : collectionView.Paired s e ↔ NoStops e := by
  by_cases hroute : ∃ documents, e = .getRoute (some documents)
  · obtain ⟨documents, rfl⟩ := hroute
    exact paired_getRoute_iff
  · have hnone : NoStops e := by
      rcases e with _ | (_ | documents) | _ | _ | _ | _ | _ <;>
        first | trivial | exact absurd ⟨documents, rfl⟩ hroute
    refine iff_of_true (fun vc hvc => ?_) hnone
    obtain ⟨hroutes, hreview⟩ := handle_frame (fun documents h => hroute ⟨documents, h⟩) hvc
    change counts vc = counts s.vc
    rw [counts_eq, counts_eq, hroutes, hreview]

/-- **Stale sections.**  Along a run of the screen, the numbers of sections and items
that the collection view holds are those of the data source after every event exactly
if no answer to a query of `getRoute` has a stop. -/
theorem steps_noStops_iff (h : collectionView.system.Runs (collectionView.display vc) es s) :
    (∀ fs u, fs <+: es → collectionView.system.Runs (collectionView.display vc) fs u →
        collectionView.Fresh u) ↔
      collectionView.system.Steps (fun _ e => NoStops e) (collectionView.display vc) es s := by
  rw [SectionedTable.forall_fresh_iff h]
  exact h.iff_steps (I := fun _ => True) (fun _ _ _ _ => trivial) (fun _ _ _ => paired_iff) trivial

/-- A review. -/
def written : DocId × Document :=
  ("review", .ofFields [("comment", .string "good"), ("timestamp", .timestamp 0)])

/-- A trip with a review and without stops. -/
def reviewed : List Event :=
  [.getContent (some (.ofFields [("title", .string "trip")])), .getRoute (some []),
    .getReview .insertion (fun _ => 60) (some [written]), .getLikeCount none]

theorem reviewed_fresh : ∃ s, collectionView.system.Runs
      (collectionView.display { contentId := "trip" }) reviewed s ∧
    s.counts = [4, 1] ∧ collectionView.Fresh s := by
  obtain ⟨s, hrun, hs⟩ := EventSystem.exists_runs_of_exec collectionView.system
    (collectionView.display { contentId := "trip" }) reviewed (fun s => s.counts = [4, 1])
    (by decide)
  have hnone : ∀ e ∈ reviewed, SectionedTable.State ContentRouteViewController → NoStops e := by
    simp [reviewed, NoStops]
  have hfresh := (steps_noStops_iff hrun).mpr (hrun.of_forall hnone)
  exact ⟨s, hrun, of_decide_eq_true hs, hfresh _ s (List.prefix_refl _) hrun⟩

/-- The first day arrives. -/
theorem exists_not_fresh : ¬∀ {vc : ContentRouteViewController} {es : List Event}
    {s : SectionedTable.State ContentRouteViewController},
    collectionView.system.Runs (collectionView.display vc) es s → collectionView.Fresh s := by
  intro hall
  obtain ⟨s, hrun, hs⟩ := EventSystem.exists_runs_of_exec collectionView.system
    (collectionView.display { contentId := "trip" })
    [.getRoute (some [("stop", .ofFields [("name", .string "beach")])])]
    (fun s => !s.trapped && decide (collectionView.counts s.vc ≠ some s.counts)) (by decide)
  obtain ⟨hrunning, hstale⟩ := Bool.and_eq_true_iff.mp hs
  exact of_decide_eq_true hstale (hall hrun (by simpa using hrunning))

end ContentRouteViewController

end Groute
