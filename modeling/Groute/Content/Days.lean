import Mathlib.Data.List.Perm.Subperm
import Groute.Content.Sections

/-!
# Which day is which

`getRoute` asks for the stops of each of 101 days in a query of its own.  The handler
appends the names it is given to `exRoutes` when it runs, and leaves out a day without
stops, so a header numbers the days in the order in which their stops arrived.

The numbers are right exactly if the days with stops are the first ones and their
answers arrive in the order of the days, up to days with the same names.
-/

namespace Groute

namespace ContentRouteViewController

variable {c : Collection DocId Document} {arrivals : List Nat} {vc : ContentRouteViewController}

/-- The query of `getRoute` for a day. -/
def dayQuery (c : Collection DocId Document) (i : Nat) : List (DocId × Document) :=
  c.query fun d => d.get "section" = some (.int i)

/-- The names of the stops of a day. -/
def names (c : Collection DocId Document) (i : Nat) : List String :=
  (dayQuery c i).filterMap getName

/-- The handlers of the queries run, in the order in which the answers arrive. -/
def getRoute (c : Collection DocId Document) (arrivals : List Nat)
    (vc : ContentRouteViewController) : Option ContentRouteViewController :=
  arrivals.foldlM (fun vc i => vc.getRouteDone (dayQuery c i)) vc

/-- The days with stops, in the order in which their answers arrive. -/
def occupied (c : Collection DocId Document) (arrivals : List Nat) : List Nat :=
  arrivals.filter fun i => names c i ≠ []

/-- Every stop has a name and the number of one of the days that are asked for. -/
def Complete (c : Collection DocId Document) : Prop :=
  ∀ doc ∈ c.docs, (getName doc).isSome ∧ ∃ i, i ≤ 100 ∧ doc.2.get "section" = some (.int (i : Nat))

/-- The days are shown as they are: every name is shown once, and under the header with
number `d` stand the names of the stops of the `d`-th day. -/
structure Matches (c : Collection DocId Document) (vc : ContentRouteViewController) : Prop where
  once : vc.exRoutes.flatten.Perm (c.docs.filterMap getName)
  header : ∀ d, 1 ≤ d → d ≤ vc.exRoutes.length → ∀ headerView,
    (vc.viewForHeader headerView d).reads = some (dayTitle d) ∧
      ∃ listed : List String, vc.cells d = some (listed.map Cell.routeList) ∧
        listed.Perm (names c (d - 1))

/-- The days with stops are the first ones, and their answers arrive in the order of the
days, up to days with the same names. -/
structure InOrder (c : Collection DocId Document) (arrivals : List Nat) : Prop where
  first : ∀ i, names c i ≠ [] → ∀ d, d < i → names c d ≠ []
  order : ∀ d i, (occupied c arrivals)[d]? = some i → (names c i).Perm (names c d)

/-- What the handlers leave: the days with stops, as they arrived. -/
theorem getRoute_eq (h : ∀ doc ∈ c.docs, (getName doc).isSome) (arrivals : List Nat)
    (vc : ContentRouteViewController) : ∃ vc', getRoute c arrivals vc = some vc' ∧
      vc'.exRoutes = vc.exRoutes ++ (occupied c arrivals).map (names c) := by
  induction arrivals generalizing vc with
  | nil => exact ⟨vc, rfl, by simp [occupied]⟩
  | cons i arrivals ih =>
      have hnames : (dayQuery c i).mapM getName = some (names c i) :=
        TableView.mapM_of_isSome fun doc hdoc => h doc (List.mem_of_mem_filter hdoc)
      have hdone : vc.getRouteDone (dayQuery c i) = some { vc with
          ex1 := names c i
          exRoutes := if (names c i).isEmpty then vc.exRoutes
            else vc.exRoutes ++ [names c i] } := by
        rw [getRouteDone_mapM, hnames, Option.map_some]
      rw [getRoute, List.foldlM_cons, hdone]
      obtain ⟨vc', hvc', hroutes⟩ := ih _
      refine ⟨vc', hvc', hroutes.trans ?_⟩
      by_cases hnil : names c i = []
      · simp [occupied, hnil]
      · simp [occupied, hnil]

/-- Every stop belongs to one of the days that are asked for. -/
theorem perm_flatMap_names (h : Complete c) (harrivals : arrivals.Perm (List.range 101)) :
    (arrivals.flatMap (names c)).Perm (c.docs.filterMap getName) := by
  have hdays : ((arrivals.map fun i => some (Value.int (i : Nat))).flatMap fun v =>
      c.docs.filter fun doc => doc.2.get "section" = v).Perm c.docs := by
    refine Collection.perm_flatMap_filter
      (fun doc : DocId × Document => doc.2.get "section") ?_ fun doc hdoc => ?_
    · refine (harrivals.nodup_iff.mpr List.nodup_range).map fun i j hij => ?_
      simpa using hij
    · obtain ⟨-, i, hi, hsection⟩ := h doc hdoc
      rw [hsection]
      exact List.mem_map_of_mem (harrivals.mem_iff.mpr (List.mem_range.mpr (by omega)))
  rw [List.flatMap_map] at hdays
  have hnames := hdays.filterMap getName
  rwa [List.filterMap_flatMap] at hnames

/-- Leaving out the days without stops leaves out no name. -/
theorem flatten_occupied (c : Collection DocId Document) (arrivals : List Nat) :
    ((occupied c arrivals).map (names c)).flatten = arrivals.flatMap (names c) := by
  induction arrivals with
  | nil => rfl
  | cons i arrivals ih =>
      rw [List.flatMap_cons, ← ih, occupied, List.filter_cons]
      by_cases hnil : names c i = []
      · simp [hnil, occupied]
      · simp [hnil, occupied]

/-- If every day with stops has the names of the day in whose place it arrived, the days
with stops are the first ones. -/
theorem first_of_order (h : Complete c) (harrivals : arrivals.Perm (List.range 101))
    (horder : ∀ d i, (occupied c arrivals)[d]? = some i → (names c i).Perm (names c d)) :
    ∀ i, names c i ≠ [] → ∀ d, d < i → names c d ≠ [] := by
  have hmem (i : Nat) : i ∈ occupied c arrivals ↔ names c i ≠ [] := by
    rw [occupied, List.mem_filter, decide_eq_true_eq, and_iff_right_iff_imp]
    intro hne
    obtain ⟨name, hname⟩ := List.exists_mem_of_ne_nil _ hne
    obtain ⟨doc, hdoc, -⟩ := List.mem_filterMap.mp hname
    obtain ⟨hdocs, hsection⟩ := List.mem_filter.mp hdoc
    obtain ⟨-, j, hj, hsection'⟩ := h doc hdocs
    rw [decide_eq_true_eq, hsection'] at hsection
    have hij : (j : Int) = i := Value.int.inj (Option.some.inj hsection)
    exact harrivals.mem_iff.mpr (List.mem_range.mpr (by omega))
  have hnodup : (occupied c arrivals).Nodup :=
    (harrivals.nodup_iff.mpr List.nodup_range).filter _
  -- as many days as arrived are occupied, so these are all
  have hsub : List.range (occupied c arrivals).length ⊆ occupied c arrivals := by
    intro d hd
    have hget := List.getElem?_eq_getElem (List.mem_range.mp hd)
    rw [hmem]
    intro hnil
    refine (hmem _).mp (List.getElem_mem (List.mem_range.mp hd)) ?_
    exact (hnil ▸ horder d _ hget).eq_nil
  have hperm := (List.subperm_of_subset List.nodup_range hsub).perm_of_length_le (by simp)
  intro i hi d hd
  rw [← hmem, ← hperm.mem_iff, List.mem_range] at hi ⊢
  exact hd.trans hi

/-- What stands under a header are the names that arrived there. -/
theorem Matches.order (h : Matches c vc)
    (hroutes : vc.exRoutes = (occupied c arrivals).map (names c)) (d i : Nat)
    (hd : (occupied c arrivals)[d]? = some i) : (names c i).Perm (names c d) := by
  have hday : vc.exRoutes[d]? = some (names c i) := by
    rw [hroutes, List.getElem?_map, hd, Option.map_some]
  have hlt := (List.getElem?_eq_some_iff.mp hday).1
  obtain ⟨-, listed, hcells, hperm⟩ := h.header (d + 1) (Nat.succ_pos d) hlt {}
  rw [cells_day hday, Option.some.injEq] at hcells
  have hlisted := List.map_injective_iff.mpr (fun _ _ => Cell.routeList.inj) hcells
  exact hlisted ▸ hperm

/-- If the days arrived in order, they are shown as they are. -/
theorem InOrder.matches (h : InOrder c arrivals)
    (hroutes : vc.exRoutes = (occupied c arrivals).map (names c)) (hc : Complete c)
    (harrivals : arrivals.Perm (List.range 101)) : Matches c vc := by
  refine ⟨?_, fun d hd hle headerView => ?_⟩
  · rw [hroutes, flatten_occupied]
    exact perm_flatMap_names hc harrivals
  · obtain ⟨d, rfl⟩ := Nat.exists_eq_add_one_of_ne_zero (Nat.one_le_iff_ne_zero.mp hd)
    have hlt : d < (occupied c arrivals).length := by
      rwa [hroutes, List.length_map] at hle
    have hget := List.getElem?_eq_getElem hlt
    have hday : vc.exRoutes[d]? = some (names c (occupied c arrivals)[d]) := by
      rw [hroutes, List.getElem?_map, hget, Option.map_some]
    exact ⟨reads_day hday headerView, _, cells_day hday, h.order d _ hget⟩

/-- **Day headers.**  Whatever the order in which the answers to the 101 queries arrive,
in the end the days are shown as they are exactly if the days with stops come first and
have arrived in their order, up to days with the same names. -/
theorem matches_iff (contentId : DocId) (h : Complete c)
    (harrivals : arrivals.Perm (List.range 101)) :
    ∃ vc, getRoute c arrivals { contentId } = some vc ∧ (Matches c vc ↔ InOrder c arrivals) := by
  obtain ⟨vc, hvc, hroutes⟩ := getRoute_eq (fun doc hdoc => (h doc hdoc).1) arrivals { contentId }
  rw [List.nil_append] at hroutes
  refine ⟨vc, hvc, fun hmatches => ?_, fun horder => horder.matches hroutes h harrivals⟩
  have horder := hmatches.order hroutes
  exact ⟨first_of_order h harrivals horder, horder⟩

/-- A stop on each of the first two days. -/
def twoDays : Collection DocId Document :=
  (Collection.empty.set "a" (.ofFields [("name", .string "x"), ("section", .int 0)])).set "b"
    (.ofFields [("name", .string "y"), ("section", .int 1)])

theorem complete_twoDays : Complete twoDays := by
  intro doc hdoc
  rcases List.mem_cons.mp hdoc with rfl | hdoc
  · exact ⟨rfl, 1, by decide, rfl⟩
  · obtain rfl := List.mem_singleton.mp hdoc
    exact ⟨rfl, 0, by decide, rfl⟩

/-- The answers arrive in the order of the days. -/
theorem matches_twoDays : ∃ vc,
    getRoute twoDays (List.range 101) { contentId := "trip" } = some vc ∧ Matches twoDays vc := by
  obtain ⟨vc, hvc, hiff⟩ := matches_iff "trip" complete_twoDays (.refl (List.range 101))
  refine ⟨vc, hvc, hiff.mpr ?_⟩
  have hoccupied : occupied twoDays (List.range 101) = [0, 1] := by decide
  have horder : ∀ d i, (occupied twoDays (List.range 101))[d]? = some i →
      (names twoDays i).Perm (names twoDays d) := by
    intro d i hd
    rw [hoccupied] at hd
    match d, hd with
    | 0, hd => cases hd; exact .refl _
    | 1, hd => cases hd; exact .refl _
  exact ⟨first_of_order complete_twoDays (.refl _) horder, horder⟩

/-- The answers arrive in the opposite order. -/
theorem exists_not_matches : ¬∀ {c : Collection DocId Document} {arrivals : List Nat}
    {vc : ContentRouteViewController}, Complete c → arrivals.Perm (List.range 101) →
      getRoute c arrivals { contentId := "trip" } = some vc → Matches c vc := by
  intro hall
  obtain ⟨vc, hvc, hroutes⟩ := getRoute_eq (fun doc hdoc => (complete_twoDays doc hdoc).1)
    (List.range 101).reverse { contentId := "trip" }
  have hmatches := hall complete_twoDays (List.reverse_perm _) hvc
  have hoccupied : (occupied twoDays (List.range 101).reverse)[0]? = some 1 := by decide
  have hperm := hmatches.order (hroutes.trans (List.nil_append _)) 0 1 hoccupied
  exact absurd hperm (by decide)

end ContentRouteViewController

end Groute
