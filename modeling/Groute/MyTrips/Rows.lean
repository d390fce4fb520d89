import Groute.MyTrips.Controller

/-!
# Are the rows those of the database?

The rows are always sorted and without repetitions; which records they show is
a matter of the history alone.  They show the records that had been delivered
before the last `viewWillAppear`, except those swiped away since.  They should
show the records of the last fetch, except those of documents deleted since.
`History.UpToDate` says that the two agree.
-/

namespace Groute

namespace MyTrips

variable {t t' t₀ : MyTrips} {e : Event} {es : List Event}

/-- The rows are the records of a fetch whose documents have not been deleted
since, each once, newest first. -/
structure Shows (t : MyTrips) (records : List CurrentUserDocument) : Prop where
  perm : t.vc.filteredDocument.Perm (records.filter (·.id ∉ t.deleted))
  sorted : t.vc.filteredDocument.Pairwise fun lhs rhs => rhs.timestamp ≤ lhs.timestamp

/-- What had been fetched before the screen appeared last, without the rows
swiped since, is what the last fetch delivered, without the documents deleted
since. -/
def History.UpToDate (h : History) (deleted : List DocId) : Prop :=
  ∀ records ∈ h.lastFetch, ∀ r, r ∈ h.earlier ∧ r ∉ h.swiped ↔ r ∈ records ∧ r.id ∉ deleted

/-- The deletes of documents succeed. -/
def Succeeds (_ : MyTrips) : Event → Prop
  | .deletion _ e ok => e = .document → ok = true
  | .viewWillAppear _ | .read _ | .done _ _ | .swipe _ | .elsewhere _ => True

instance (t : MyTrips) (e : Event) : Decidable (Succeeds t e) :=
  match e with
  | .deletion _ e ok => inferInstanceAs (Decidable (e = .document → ok = true))
  | .viewWillAppear _ | .read _ | .done _ _ | .swipe _ | .elsewhere _ =>
      inferInstanceAs (Decidable True)

/-- The controller in terms of the history. -/
structure Follows (t : MyTrips) : Prop where
  current : t.vc.currentUserDocument = t.history.fetched
  set : ∀ r, r ∈ t.vc.setDocument ↔ r ∈ t.history.fetched
  set_nodup : t.vc.setDocument.Nodup
  rows : ∀ r, r ∈ t.vc.filteredDocument ↔ r ∈ t.history.earlier ∧ r ∉ t.history.swiped
  rows_nodup : t.vc.filteredDocument.Nodup
  sorted : t.vc.filteredDocument.Pairwise fun lhs rhs => rhs.timestamp ≤ lhs.timestamp
  answers : ∀ documents ∈ t.answers, (documents.map Prod.fst).Nodup
  last : ∀ records ∈ t.history.lastFetch, records.Nodup

theorem Start.follows (h : t.Start) : t.Follows where
  current := by rw [h.vc, h.history]
  set := by simp [h.vc, h.history]
  set_nodup := by rw [h.vc]; exact List.nodup_nil
  rows := by simp [h.vc, h.history]
  rows_nodup := by rw [h.vc]; exact List.nodup_nil
  sorted := by rw [h.vc]; exact List.Pairwise.nil
  answers := by simp [h.answers]
  last := by simp [h.history]

/-- The screen appears. -/
theorem Follows.viewWillAppear (h : t.Follows) (sorter : Sorter CurrentUserDocument) (asked : Nat) :
    Follows { t with
      vc := t.vc.viewWillAppear sorter
      asked
      history := { t.history with earlier := t.history.fetched, swiped := [] } } where
  current := h.current
  set := h.set
  set_nodup := h.set_nodup
  rows r := by
    rw [SecondTabViewController.viewWillAppear, sorter.mem_sort, h.set]
    simp
  rows_nodup := (sorter.perm_sort _ _).nodup_iff.mpr h.set_nodup
  sorted := by
    have hsorted := sorter.pairwise_sort
      (SecondTabViewController.strictWeakOn_newer t.vc.setDocument)
    refine hsorted.imp fun {a b} hab => ?_
    rwa [SecondTabViewController.newer, decide_eq_false_iff_not, not_lt] at hab
  answers := h.answers
  last := h.last

/-- Records of different documents are different. -/
theorem nodup_filterMap_info {documents : List (DocId × Document)}
    (h : (documents.map Prod.fst).Nodup) :
    (documents.filterMap SecondTabViewController.info).Nodup := by
  have hid : ((documents.filterMap SecondTabViewController.info).map
      CurrentUserDocument.id).Nodup := by
    refine Collection.nodup_map_filterMap (fun document r hr => ?_) h
    obtain ⟨_, -, rfl⟩ := Option.map_eq_some_iff.mp hr
    rfl
  exact hid.of_map _

/-- The handler of a fetch runs. -/
theorem Follows.done {i : Nat} {order : SetOrder CurrentUserDocument}
    {documents : List (DocId × Document)} {vc : SecondTabViewController} (h : t.Follows)
    (hi : t.answers[i]? = some documents)
    (hvc : t.vc.getCurrentUserDocumentDone order documents = some vc) :
    Follows { t with
      vc
      answers := t.answers.eraseIdx i
      history := { t.history with
        fetched := t.history.fetched ++ documents.filterMap SecondTabViewController.info
        lastFetch := some (documents.filterMap SecondTabViewController.info) } } := by
  rw [SecondTabViewController.getCurrentUserDocumentDone_eq hvc]
  exact {
    current := congrArg (· ++ documents.filterMap SecondTabViewController.info) h.current
    set := fun r => by
      by_cases hnil : documents = []
      · simpa [hnil] using h.set r
      · simp [hnil, order.mem_list, h.current]
    set_nodup := by
      dsimp only
      split
      · exact h.set_nodup
      · exact order.nodup_list _
    rows := h.rows
    rows_nodup := h.rows_nodup
    sorted := h.sorted
    answers := fun documents' hmem => h.answers documents' (List.eraseIdx_subset hmem)
    last := fun records hrecords => Option.some.inj hrecords ▸
      nodup_filterMap_info (h.answers documents (List.mem_of_getElem? hi)) }

/-- A row is swiped away. -/
theorem Follows.swipe {row : Nat} {myContent : CurrentUserDocument}
    {vc : SecondTabViewController} (h : t.Follows)
    (hrow : t.vc.commit row = some (myContent, vc)) (swipes : List Swipe) :
    Follows { t with
      vc, swipes, history := { t.history with swiped := myContent :: t.history.swiped } } := by
  obtain ⟨r, hr, heq⟩ := Option.map_eq_some_iff.mp hrow
  obtain ⟨rfl, rfl⟩ := Prod.mk.inj heq
  obtain ⟨hlt, hget⟩ := List.getElem?_eq_some_iff.mp hr
  have herase : t.vc.filteredDocument.eraseIdx row = t.vc.filteredDocument.erase r := by
    rw [← hget, h.rows_nodup.erase_getElem]
  exact { h with
    rows := fun r' => by
      rw [herase, h.rows_nodup.mem_erase_iff, h.rows, List.mem_cons, not_or]
      tauto
    rows_nodup := h.rows_nodup.eraseIdx row
    sorted := h.sorted.sublist (List.eraseIdx_sublist _ _) }

/-- Every successful step keeps the controller in line with the history. -/
theorem Follows.step (h : t.Follows) (hc : Succeeds t e) (ht : t.step e = some t') :
    t'.Follows := by
  obtain ⟨-, ht⟩ := Option.ite_none_left_eq_some.mp ht
  cases e with
  | viewWillAppear sorter =>
      cases ht
      exact h.viewWillAppear sorter _
  | read ok =>
      obtain ⟨-, ⟨⟩⟩ := Option.ite_none_left_eq_some.mp ht
      refine { h with answers := fun documents hmem => ?_ }
      rcases List.mem_append.mp hmem with hmem | hmem
      · exact h.answers documents hmem
      · split at hmem
        · rw [List.mem_singleton.mp hmem]
          exact Collection.nodup_query _ _
        · cases hmem
  | done i order =>
      obtain ⟨documents, hi, rfl⟩ := Option.map_eq_some_iff.mp ht
      cases hvc : t.vc.getCurrentUserDocumentDone order documents with
      | some vc => exact h.done hi hvc
      | none => exact { h with }
  | swipe row =>
      obtain ⟨⟨myContent, vc⟩, hrow, rfl⟩ := Option.map_eq_some_iff.mp ht
      exact h.swipe hrow _
  | deletion j e ok =>
      obtain ⟨s, -, ht⟩ := Option.bind_eq_some_iff.mp ht
      obtain ⟨⟨deletion, writes⟩, -, rfl⟩ := Option.map_eq_some_iff.mp ht
      have hafter : t.afterDocument s e ok = some t.vc := if_neg fun ⟨he, hok⟩ =>
        Bool.noConfusion (hok.symm.trans (hc he))
      rw [hafter]
      exact { h with }
  | elsewhere w =>
      obtain ⟨-, ⟨⟩⟩ := Option.ite_none_right_eq_some.mp ht
      exact { h with }

/-- **The user's own trips.**  However the screen appeared, fetched and was
swiped, and whatever else wrote to the database, in between: the rows are those
of the last fetch exactly if the history is up to date. -/
theorem shows_iff {records : List CurrentUserDocument} (h₀ : t₀.Start)
    (h : system.Steps Succeeds t₀ es t) (hlast : t.history.lastFetch = some records) :
    t.Shows records ↔ t.history.UpToDate t.deleted := by
  have hI : t.Follows := h.invariant (fun hI hc ht => hI.step hc ht) h₀.follows
  have hnodup := (hI.last records hlast).filter (·.id ∉ t.deleted)
  have hperm : t.vc.filteredDocument.Perm (records.filter (·.id ∉ t.deleted)) ↔
      ∀ r, r ∈ t.history.earlier ∧ r ∉ t.history.swiped ↔ r ∈ records ∧ r.id ∉ t.deleted := by
    rw [List.perm_ext_iff_of_nodup hI.rows_nodup hnodup]
    refine forall_congr' fun r => ?_
    rw [hI.rows, List.mem_filter, decide_eq_true_eq]
  constructor
  · intro hshows records' hrecords'
    cases hlast.symm.trans hrecords'
    exact hperm.mp hshows.perm
  · intro hcurrent
    exact ⟨hperm.mpr (hcurrent records hlast), hI.sorted⟩

/-- The only trip of a user. -/
def oneTrip : MyTrips where
  store := Store.empty.apply (.addContent "trip" (.ofFields
    [("email", .string "a@b.c"), ("title", .string "Jeju"), ("timestamp", .timestamp 0)]))
  currentUser := some "a@b.c"

theorem start_oneTrip : oneTrip.Start := ⟨rfl, rfl, rfl, rfl⟩

/-- The screen appears, and its fetch is delivered. -/
def appear : List Event := [.viewWillAppear .insertion, .read true, .done 0 .dedup]

/-- The second time, the trip is shown. -/
theorem appearTwice_shows : ∃ t records, system.Steps Succeeds oneTrip (appear ++ appear) t ∧
    t.Shows records := by
  obtain ⟨t, hrun, ht⟩ := EventSystem.exists_steps_of_exec system Succeeds oneTrip
    (appear ++ appear) (fun t => t.deleted = [] ∧
      t.history = {
        fetched := [⟨"trip", "Jeju", "", 0⟩, ⟨"trip", "Jeju", "", 0⟩]
        lastFetch := some [⟨"trip", "Jeju", "", 0⟩]
        earlier := [⟨"trip", "Jeju", "", 0⟩] }) (by decide)
  obtain ⟨hdeleted, hhistory⟩ := of_decide_eq_true ht
  refine ⟨t, _, hrun, (shows_iff start_oneTrip hrun (by rw [hhistory])).mpr ?_⟩
  intro records hrecords r
  rw [hhistory] at hrecords ⊢
  cases hrecords
  simp [hdeleted]

/-- The first time, it is not: the rows were computed before the fetch. -/
theorem exists_not_shows : ¬∀ {t₀ t : MyTrips} {es : List Event}
    {records : List CurrentUserDocument}, t₀.Start → system.Steps Succeeds t₀ es t →
    t.Quiescent → t.history.lastFetch = some records → t.Shows records := by
  intro hall
  obtain ⟨t, hrun, ht⟩ := EventSystem.exists_steps_of_exec system Succeeds oneTrip appear
    (fun t => (t.asked = 0 ∧ t.answers.isEmpty ∧ t.swipes = [] ∧ t.trapped = false) ∧
      t.deleted = [] ∧ t.vc.filteredDocument = [] ∧
      t.history.lastFetch = some [⟨"trip", "Jeju", "", 0⟩]) (by decide)
  obtain ⟨⟨hasked, hanswers, hswipes, htrapped⟩, hdeleted, hrows, hlast⟩ := of_decide_eq_true ht
  have hquiescent : t.Quiescent :=
    ⟨hasked, List.isEmpty_iff.mp hanswers, by simp [hswipes], htrapped⟩
  have hperm := (hall start_oneTrip hrun hquiescent hlast).perm
  rw [hrows, hdeleted] at hperm
  exact absurd hperm.length_eq (by decide)

end MyTrips

end Groute
