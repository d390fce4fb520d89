import Mathlib.Data.List.Perm.Basic
import Groute.Authoring.Controllers
import Groute.Lib.TableView

/-!
# The planner's buckets

The planner shows the stops of a day from a bucket that is never emptied:
every delivered stop is appended to the shadow `tmp` of its day, and the bucket
itself is the shadow without repetitions.  `Holds vc received` says which stops
have been received altogether; one delivery extends `received`, so the buckets
depend on the set of the received stops only.

Days from the sixth on have no bucket.  The data source of the table shows them
like a day without stops.
-/

namespace Groute

namespace AddRouteViewController

variable {vc vc' : AddRouteViewController} {order : SetOrder RouteName} {stops : List RouteName}
  {received : List RouteName} {documents : List (DocId × Document)} {day : Int}
  {route : RouteName}

/-! ## The data source -/

/-- `numberOfSections(in:)`, from `days` in the user defaults. -/
def numberOfSections (days : Option Int) : Int := days.getD 0

/-- How many rows a day has in `tableView(_:numberOfRowsInSection:)`. -/
def rowCount (stops : List RouteName) : Nat :=
  if stops.isEmpty then 1 else stops.length

/-- Blank or not, a day has a row. -/
theorem rowCount_eq (stops : List RouteName) : rowCount stops = max 1 stops.length := by
  cases stops <;> simp [rowCount]

/-- `tableView(_:numberOfRowsInSection:)`. -/
def numberOfRowsInSection (vc : AddRouteViewController) (section_ : Int) : Nat :=
  if section_ = 0 then rowCount vc.section0
  else if section_ = 1 then rowCount vc.section1
  else if section_ = 2 then rowCount vc.section2
  else if section_ = 3 then rowCount vc.section3
  else if section_ = 4 then rowCount vc.section4
  else 1

/-- The text of a row of a day in `tableView(_:cellForRowAt:)`, which traps
beyond the end. -/
def locationLabel (stops : List RouteName) (row : Nat) : Option String :=
  if stops.isEmpty then some "" else stops[row]?.map RouteName.name

/-- `tableView(_:cellForRowAt:)`, the text of the cell. -/
def cellForRowAt (vc : AddRouteViewController) (section_ : Int) (row : Nat) : Option String :=
  if section_ = 0 then locationLabel vc.section0 row
  else if section_ = 1 then locationLabel vc.section1 row
  else if section_ = 2 then locationLabel vc.section2 row
  else if section_ = 3 then locationLabel vc.section3 row
  else if section_ = 4 then locationLabel vc.section4 row
  else some ""

/-- The texts of a day's rows after a reload. -/
def rows (vc : AddRouteViewController) (section_ : Int) : Option (List String) :=
  TableView.reload (vc.numberOfRowsInSection section_) (vc.cellForRowAt section_)

/-- A row for each name, and a single blank one if there are none. -/
def labels (stops : List RouteName) : List String :=
  if stops.isEmpty then [""] else stops.map RouteName.name

/-- The data source counts the rows of the bucket. -/
theorem numberOfRowsInSection_eq (vc : AddRouteViewController) (day : Int) :
    vc.numberOfRowsInSection day = rowCount (vc.bucket day).2 := by
  unfold numberOfRowsInSection bucket
  split_ifs <;> rfl

/-- The data source shows the rows of the bucket. -/
theorem cellForRowAt_eq (vc : AddRouteViewController) (day : Int) (row : Nat) :
    vc.cellForRowAt day row = locationLabel (vc.bucket day).2 row := by
  unfold cellForRowAt bucket
  split_ifs <;> rfl

/-- Every row that is counted can be shown. -/
theorem rows_eq (vc : AddRouteViewController) (day : Int) :
    vc.rows day = some (labels (vc.bucket day).2) := by
  have hcell : vc.cellForRowAt day = locationLabel (vc.bucket day).2 :=
    funext (vc.cellForRowAt_eq day)
  rw [rows, numberOfRowsInSection_eq, hcell]
  cases (vc.bucket day).2 with
  | nil => rfl
  | cons route stops =>
      have hreload := TableView.reload_eq ((route :: stops).map RouteName.name)
      simp only [List.length_map, List.getElem?_map] at hreload
      exact hreload

/-! ## What the buckets hold -/

/-- The buckets hold the received stops. -/
structure Holds (vc : AddRouteViewController) (received : List RouteName) : Prop where
  tmp : ∀ day, HasBucket day → (vc.bucket day).1 = received.filter (·.section_ = day)
  nodup : ∀ day, (vc.bucket day).2.Nodup
  mem : ∀ day route, route ∈ (vc.bucket day).2 ↔
    HasBucket day ∧ route ∈ received ∧ route.section_ = day

instance (day : Int) : Decidable (HasBucket day) := inferInstanceAs (Decidable (_ ∧ _))

/-- Other days have no bucket. -/
theorem bucket_of_not_hasBucket (h : ¬HasBucket day) : vc.bucket day = ([], []) := by
  unfold HasBucket at h
  unfold bucket
  split_ifs <;> first | rfl | omega

/-- A planner that the city screen has just opened holds nothing. -/
theorem holds_prepare (vc : SearchViewController) (city : City) : (vc.prepare city).Holds [] := by
  have hbucket (day : Int) : (vc.prepare city).bucket day = ([], []) := by
    unfold bucket
    split_ifs <;> rfl
  refine ⟨fun day _ => ?_, fun day => ?_, fun day route => ?_⟩
  · rw [hbucket]; rfl
  · rw [hbucket]; exact List.nodup_nil
  · simp [hbucket]

/-- A delivery adds its stops. -/
theorem Holds.getRouteDataDone (h : vc.Holds received)
    (hdone : vc.getRouteDataDone order documents = some vc') :
    vc'.Holds (received ++ documents.filterMap routeName) := by
  have hbucket (day : Int) (hday : HasBucket day) := getRouteDataDone_bucket day hday hdone
  refine ⟨fun day hday => ?_, fun day => ?_, fun day route => ?_⟩
  · rw [hbucket day hday, List.filter_append, ← h.tmp day hday]
    dsimp only
    split_ifs with hnil
    · rw [hnil, List.append_nil]
    · rfl
  · by_cases hday : HasBucket day
    · rw [hbucket day hday]
      dsimp only
      split_ifs
      · exact h.nodup day
      · exact order.nodup_list _
    · rw [bucket_of_not_hasBucket hday]
      exact List.nodup_nil
  · by_cases hday : HasBucket day
    · rw [hbucket day hday, List.mem_append]
      dsimp only
      split_ifs with hnil
      · rw [h.mem]
        refine and_congr_right fun _ => and_congr_left fun hsection => ?_
        refine (or_iff_left fun hmem => ?_).symm
        exact List.filter_eq_nil_iff.mp hnil route hmem (by simpa using hsection)
      · rw [order.mem_list, h.tmp day hday]
        simp [hday, or_and_right]
    · simp [bucket_of_not_hasBucket hday, hday]

/-- A delivery traps only at a document without point. -/
theorem isSome_getRouteDataDone (order : SetOrder RouteName) (vc : AddRouteViewController)
    (documents : List (DocId × Document)) :
    (vc.getRouteDataDone order documents).isSome ↔
      ∀ doc ∈ documents, (routeName doc).isSome := by
  induction documents generalizing vc with
  | nil => simp [AddRouteViewController.getRouteDataDone]
  | cons doc documents ih =>
      rw [AddRouteViewController.getRouteDataDone, List.foldlM_cons, List.forall_mem_cons]
      cases hroute : routeName doc with
      | none => simp
      | some route =>
          refine Iff.trans (ih (vc.append order route)) ?_
          rw [Option.isSome_some, and_iff_right rfl]

/-! ## Many deliveries -/

/-- Deliveries to the listeners of a planner, one after the other.  Each may list
the elements of a set in its own order. -/
def deliver (vc : AddRouteViewController)
    (snapshots : List (SetOrder RouteName × List (DocId × Document))) :
    Option AddRouteViewController :=
  snapshots.foldlM (fun vc snapshot => vc.getRouteDataDone snapshot.1 snapshot.2) vc

/-- The documents that were delivered. -/
def delivered (snapshots : List (SetOrder RouteName × List (DocId × Document))) :
    List (DocId × Document) :=
  snapshots.flatMap Prod.snd

variable {snapshots snapshots' : List (SetOrder RouteName × List (DocId × Document))}

/-- Deliveries add their stops. -/
theorem Holds.deliver (h : vc.Holds received) (hdeliver : vc.deliver snapshots = some vc') :
    vc'.Holds (received ++ (delivered snapshots).filterMap routeName) := by
  induction snapshots generalizing vc received with
  | nil =>
      cases hdeliver
      simpa [delivered] using h
  | cons snapshot snapshots ih =>
      obtain ⟨vc₁, h₁, h₂⟩ := Option.bind_eq_some_iff.mp (List.foldlM_cons.symm.trans hdeliver)
      have hrest := ih (h.getRouteDataDone h₁) h₂
      rwa [List.append_assoc, ← List.filterMap_append] at hrest

/-- Deliveries trap only at a document without point. -/
theorem isSome_deliver :
    (vc.deliver snapshots).isSome ↔ ∀ doc ∈ delivered snapshots, (routeName doc).isSome := by
  induction snapshots generalizing vc with
  | nil => simp [AddRouteViewController.deliver, delivered]
  | cons snapshot snapshots ih =>
      rw [AddRouteViewController.deliver, List.foldlM_cons, delivered, List.flatMap_cons,
        List.forall_mem_append, ← isSome_getRouteDataDone snapshot.1 vc]
      cases vc.getRouteDataDone snapshot.1 snapshot.2 with
      | none => simp
      | some vc₁ =>
          have hrest : (vc₁.deliver snapshots).isSome ↔
              ∀ doc ∈ delivered snapshots, (routeName doc).isSome := ih
          refine hrest.trans ?_
          rw [Option.isSome_some, and_iff_right rfl]
          rfl

/-- **Order and repetition.**  Deliveries of the same documents to two planners
leave buckets without repetitions that hold the same stops, namely those of the
delivered documents, and the same numbers of rows. -/
theorem deliver_agree (screen screen' : SearchViewController) (city city' : City)
    (hsame : ∀ doc, doc ∈ delivered snapshots ↔ doc ∈ delivered snapshots')
    (h : (screen.prepare city).deliver snapshots = some vc) :
    ∃ vc', (screen'.prepare city').deliver snapshots' = some vc' ∧
      (∀ k, HasBucket k →
        (vc.bucket k).2.Nodup ∧ (vc'.bucket k).2.Nodup ∧
        (∀ route, route ∈ (vc.bucket k).2 ↔
          route.section_ = k ∧ ∃ doc ∈ delivered snapshots, routeName doc = some route) ∧
        ∀ route, route ∈ (vc'.bucket k).2 ↔ route ∈ (vc.bucket k).2) ∧
      ∀ section_, vc'.numberOfRowsInSection section_ = vc.numberOfRowsInSection section_ := by
  have hsome : ((screen'.prepare city').deliver snapshots').isSome := by
    refine isSome_deliver.mpr fun doc hdoc => ?_
    exact isSome_deliver.mp (Option.isSome_of_eq_some h) doc ((hsame doc).mpr hdoc)
  obtain ⟨vc', h'⟩ := Option.isSome_iff_exists.mp hsome
  have hholds := (holds_prepare screen city).deliver h
  have hholds' := (holds_prepare screen' city').deliver h'
  rw [List.nil_append] at hholds hholds'
  have hmem (k : Int) (route : RouteName) :
      route ∈ (vc'.bucket k).2 ↔ route ∈ (vc.bucket k).2 := by
    rw [hholds.mem, hholds'.mem, List.mem_filterMap, List.mem_filterMap]
    simp only [hsame]
  refine ⟨vc', h', fun k hk => ⟨hholds.nodup k, hholds'.nodup k, fun route => ?_, hmem k⟩,
    fun section_ => ?_⟩
  · rw [hholds.mem, List.mem_filterMap]
    simp [hk, and_comm]
  · have hperm : (vc'.bucket section_).2.Perm (vc.bucket section_).2 :=
      (List.perm_ext_iff_of_nodup (hholds'.nodup section_) (hholds.nodup section_)).mpr
        (hmem section_)
    rw [numberOfRowsInSection_eq, numberOfRowsInSection_eq, rowCount_eq, rowCount_eq,
      hperm.length_eq]

/-- A stop as the detail screen writes it. -/
def stop (section_ : Int) (name : String) : Document :=
  .ofFields [("section", .int section_), ("name", .string name), ("geopoint", .geopoint ⟨0, 0⟩)]

/-- Two stops, delivered together. -/
def together : List (SetOrder RouteName × List (DocId × Document)) :=
  [(.dedup, [("a", stop 0 "x"), ("b", stop 1 "y")])]

/-- The same stops, in overlapping deliveries. -/
def overlapping : List (SetOrder RouteName × List (DocId × Document)) :=
  [(.dedup, [("b", stop 1 "y")]), (.dedup, [("b", stop 1 "y"), ("a", stop 0 "x")])]

theorem deliver_agree_overlapping : ∃ vc vc' : AddRouteViewController,
    (({} : SearchViewController).prepare ⟨"", "", "", ⟨0, 0⟩⟩).deliver together = some vc ∧
      (({} : SearchViewController).prepare ⟨"", "", "", ⟨0, 0⟩⟩).deliver overlapping = some vc' ∧
      ∀ route, route ∈ vc'.section0 ↔ route ∈ vc.section0 := by
  have hsome : ((({} : SearchViewController).prepare ⟨"", "", "", ⟨0, 0⟩⟩).deliver
      together).isSome := by decide
  obtain ⟨vc, h⟩ := Option.isSome_iff_exists.mp hsome
  have hsame : ∀ doc, doc ∈ delivered together ↔ doc ∈ delivered overlapping := by
    intro doc
    simp only [delivered, together, overlapping, List.flatMap_cons, List.flatMap_nil,
      List.append_nil, List.cons_append, List.nil_append, List.mem_cons, List.not_mem_nil]
    tauto
  obtain ⟨vc', h', hbucket, -⟩ := deliver_agree {} {} ⟨"", "", "", ⟨0, 0⟩⟩ ⟨"", "", "", ⟨0, 0⟩⟩
    hsame h
  exact ⟨vc, vc', h, h', (hbucket 0 ⟨by decide, by decide⟩).2.2.2⟩

end AddRouteViewController

end Groute
