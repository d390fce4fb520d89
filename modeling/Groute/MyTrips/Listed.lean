import Groute.MyTrips.Controller
import Mathlib.Data.List.Perm.Basic

/-!
# One trip on the list

Every fetch appends what it has found to `currentUserDocument`, so a trip stands there once for
each fetch that was delivered.  The rows come from the set of these records, and are computed
when the screen appears.

`steps_listed` follows a trip that is left alone: its row is missing until the screen appears
after a fetch has been delivered, and from then on it is there once.
-/

namespace Groute

namespace MyTrips

/-- The rows for one trip. -/
def rowsOf (created : DocId) (rows : List CurrentUserDocument) : List CurrentUserDocument :=
  rows.filter fun r => r.id = created

/-- The trip is left alone: no row of it is swiped, and nothing else writes to it.  Other rows
may be swiped, and their deletes may fail. -/
def Spares (created : DocId) (t : MyTrips) : Event → Prop
  | .swipe row => ∀ r ∈ t.vc.filteredDocument[row]?, r.id ≠ created
  | .elsewhere w => w.target ≠ created
  | .viewWillAppear _ | .read _ | .done _ _ | .deletion _ _ _ => True

instance (created : DocId) (t : MyTrips) (e : Event) : Decidable (Spares created t e) :=
  match e with
  | .swipe row => inferInstanceAs (Decidable (∀ r ∈ t.vc.filteredDocument[row]?, r.id ≠ created))
  | .elsewhere w => inferInstanceAs (Decidable (w.target ≠ created))
  | .viewWillAppear _ | .read _ | .done _ _ | .deletion _ _ _ => inferInstanceAs (Decidable True)

/-- The arrays hold the one record of the trip, in the set once and in the rows once since the
screen has appeared after a fetch. -/
structure Lists (created : DocId) (document : Document) (row : CurrentUserDocument)
    (t : MyTrips) : Prop where
  store : t.store.content.get created = some document
  email : document.get "email" = some (.string (t.currentUser.getD ""))
  answers : ∀ documents ∈ t.answers,
    rowsOf created (documents.filterMap SecondTabViewController.info) = [row]
  fetched : t.vc.currentUserDocument = t.history.fetched
  current : ∀ r ∈ t.history.fetched, r.id = created → r = row
  delivered : t.history.fetched ≠ [] → row ∈ t.history.fetched
  set : ∀ r, r ∈ t.vc.setDocument ↔ r ∈ t.history.fetched
  set_nodup : t.vc.setDocument.Nodup
  rows : rowsOf created t.vc.filteredDocument = if t.history.earlier = [] then [] else [row]
  swipes : ∀ s ∈ t.swipes, s.myContent.id ≠ created ∧ s.deletion.target ≠ created

variable {t t' t₀ : MyTrips} {e : Event} {es : List Event} {created : DocId}
  {document : Document} {row r : CurrentUserDocument} {rows rows' : List CurrentUserDocument}

@[simp] theorem mem_rowsOf : r ∈ rowsOf created rows ↔ r ∈ rows ∧ r.id = created := by
  simp [rowsOf]

/-- A row of another trip comes or goes. -/
theorem rowsOf_of_perm_cons (h : rows'.Perm (r :: rows)) (hr : r.id ≠ created) :
    (rowsOf created rows').Perm (rowsOf created rows) := by
  refine (h.filter _).trans (.of_eq ?_)
  exact List.filter_cons_of_neg (by simpa using hr)

/-- No row or one is in one order only. -/
theorem eq_of_perm_ite {c : Prop} [Decidable c] (h : rows.Perm (if c then [] else [row])) :
    rows = if c then [] else [row] := by
  by_cases hc : c
  · rw [if_pos hc] at h ⊢
    exact List.perm_nil.mp h
  · rw [if_neg hc] at h ⊢
    exact List.perm_singleton.mp h

/-- A fetch finds the trip once. -/
theorem rowsOf_ownDocuments {st : Store} {currentUser : String}
    (hdocument : st.content.get created = some document)
    (hemail : document.get "email" = some (.string currentUser))
    (hrow : SecondTabViewController.info (created, document) = some row)
    {documents : List (DocId × Document)} (hperm : documents.Perm (ownDocuments st currentUser)) :
    rowsOf created (documents.filterMap SecondTabViewController.info) = [row] := by
  refine Collection.filter_filterMap_key (fun doc r hr => ?_) ?_ ?_ hrow
  · obtain ⟨_, -, rfl⟩ := Option.map_eq_some_iff.mp hr
    rfl
  · exact (hperm.map Prod.fst).nodup_iff.mpr (Collection.nodup_query _ _)
  · exact hperm.mem_iff.mpr (Collection.mem_query_iff.mpr ⟨hdocument, decide_eq_true hemail⟩)

/-- The screen appears: the rows are the set in another order. -/
theorem Lists.viewWillAppear (h : t.Lists created document row)
    (hid : row.id = created) (sorter : Sorter CurrentUserDocument) (asked : Nat) :
    Lists created document row { t with
      vc := t.vc.viewWillAppear sorter
      asked
      history := { t.history with earlier := t.history.fetched, swiped := [] } } := by
  refine { h with rows := ?_ }
  have hperm : (rowsOf created (t.vc.viewWillAppear sorter).filteredDocument).Perm
      (rowsOf created t.vc.setDocument) := (sorter.perm_sort _ _).filter _
  refine eq_of_perm_ite (hperm.trans ?_)
  have hnodup : (rowsOf created t.vc.setDocument).Nodup := h.set_nodup.filter _
  refine (List.perm_ext_iff_of_nodup hnodup (by split <;> simp)).mpr fun r => ?_
  rw [mem_rowsOf, h.set]
  by_cases hnil : t.history.fetched = []
  · rw [if_pos hnil, hnil]
    simp
  · rw [if_neg hnil, List.mem_singleton]
    constructor
    · rintro ⟨hr, hr'⟩
      exact h.current r hr hr'
    · rintro rfl
      exact ⟨h.delivered hnil, hid⟩

/-- The handler of a fetch runs. -/
theorem Lists.done {i : Nat} {order : SetOrder CurrentUserDocument}
    {documents : List (DocId × Document)} {vc : SecondTabViewController}
    (h : t.Lists created document row) (hi : t.answers[i]? = some documents)
    (hvc : t.vc.getCurrentUserDocumentDone order documents = some vc) :
    Lists created document row { t with
      vc
      answers := t.answers.eraseIdx i
      history := { t.history with
        fetched := t.history.fetched ++ documents.filterMap SecondTabViewController.info
        lastFetch := some (documents.filterMap SecondTabViewController.info) } } := by
  have hrows := h.answers documents (List.mem_of_getElem? hi)
  have hmem : ∀ r, r ∈ documents.filterMap SecondTabViewController.info ∧ r.id = created ↔
      r = row := fun r => by
    rw [← mem_rowsOf, hrows, List.mem_singleton]
  rw [SecondTabViewController.getCurrentUserDocumentDone_eq hvc]
  refine { h with
    answers := fun documents' hmem' => h.answers documents' (List.eraseIdx_subset hmem')
    fetched := congrArg (· ++ documents.filterMap SecondTabViewController.info) h.fetched
    current := fun r hr hid => ?_
    delivered := fun _ => List.mem_append_right _ ((hmem row).mpr rfl).1
    set := fun r => ?_
    set_nodup := ?_ }
  · rcases List.mem_append.mp hr with hr | hr
    · exact h.current r hr hid
    · exact (hmem r).mp ⟨hr, hid⟩
  · by_cases hnil : documents = []
    · simpa [hnil] using h.set r
    · simp [hnil, order.mem_list, h.fetched]
  · dsimp only
    split
    · exact h.set_nodup
    · exact order.nodup_list _

/-- A row of another trip is swiped away. -/
theorem Lists.swipe {i : Nat} {vc : SecondTabViewController} {myContent : CurrentUserDocument}
    (h : t.Lists created document row) (hcommit : t.vc.commit i = some (myContent, vc))
    (hid : myContent.id ≠ created) (swiped : List CurrentUserDocument) :
    Lists created document row { t with
      vc
      swipes := t.swipes ++ [⟨myContent, i, .swipe myContent.id⟩]
      history := { t.history with swiped } } := by
  obtain ⟨r, hr, heq⟩ := Option.map_eq_some_iff.mp hcommit
  obtain ⟨rfl, rfl⟩ := Prod.mk.inj heq
  obtain ⟨hlt, rfl⟩ := List.getElem?_eq_some_iff.mp hr
  refine { h with rows := ?_, swipes := ?_ }
  · refine eq_of_perm_ite ((rowsOf_of_perm_cons ?_ hid).symm.trans (.of_eq h.rows))
    exact (List.getElem_cons_eraseIdx_perm hlt).symm
  · intro s hs
    rcases List.mem_append.mp hs with hs | hs
    · exact h.swipes s hs
    · cases List.mem_singleton.mp hs
      exact ⟨hid, hid⟩

/-- An operation of a swipe completes; a failed delete puts back a row of another trip. -/
theorem Lists.deletion {j : Nat} {s : Swipe} {e : Deletion.Event} {ok : Bool}
    {deletion : Deletion} {writes : List Write} {vc : SecondTabViewController}
    (h : t.Lists created document row) (hs : t.swipes[j]? = some s)
    (hstep : s.deletion.step t.store e ok = some (deletion, writes))
    (hvc : t.afterDocument s e ok = some vc) (deleted : List DocId) :
    Lists created document row { t with
      store := t.store.applyAll writes
      vc
      swipes := t.swipes.set j { s with deletion }
      deleted } := by
  obtain ⟨hid, htarget⟩ := h.swipes s (List.mem_of_getElem? hs)
  have hdocument : (t.store.applyAll writes).content.get created = some document := by
    refine (Store.sameAt_applyAll fun w hw => ?_).content.trans h.store
    rw [((Deletion.step_writes hstep) w hw).1]
    exact Ne.symm htarget
  have hswipes : ∀ s' ∈ t.swipes.set j { s with deletion },
      s'.myContent.id ≠ created ∧ s'.deletion.target ≠ created := by
    intro s' hs'
    rcases List.mem_or_eq_of_mem_set hs' with hs' | rfl
    · exact h.swipes s' hs'
    · exact ⟨hid, (Deletion.step_target hstep).trans_ne htarget⟩
  rw [afterDocument] at hvc
  split at hvc
  · obtain ⟨hle, ⟨⟩⟩ := Option.ite_none_right_eq_some.mp hvc
    refine { h with store := hdocument, rows := ?_, swipes := hswipes }
    refine eq_of_perm_ite ((rowsOf_of_perm_cons ?_ hid).trans (.of_eq h.rows))
    exact List.perm_insertIdx _ _ hle
  · cases hvc
    exact { h with store := hdocument, swipes := hswipes }

/-- Every step that leaves the trip alone keeps its one row. -/
theorem Lists.step (h : t.Lists created document row)
    (hrow : SecondTabViewController.info (created, document) = some row)
    (hc : Spares created t e) (ht : t.step e = some t') : t'.Lists created document row := by
  obtain ⟨-, ht⟩ := Option.ite_none_left_eq_some.mp ht
  cases e with
  | viewWillAppear sorter =>
      cases ht
      have hid : row.id = created := by
        obtain ⟨_, -, rfl⟩ := Option.map_eq_some_iff.mp hrow
        rfl
      exact h.viewWillAppear hid sorter _
  | read ok =>
      obtain ⟨-, ⟨⟩⟩ := Option.ite_none_left_eq_some.mp ht
      refine { h with answers := fun documents hmem => ?_ }
      rcases List.mem_append.mp hmem with hmem | hmem
      · exact h.answers documents hmem
      · split at hmem
        · rw [List.mem_singleton.mp hmem]
          exact rowsOf_ownDocuments h.store h.email hrow (.refl _)
        · cases hmem
  | done i order =>
      obtain ⟨documents, hi, rfl⟩ := Option.map_eq_some_iff.mp ht
      cases hvc : t.vc.getCurrentUserDocumentDone order documents with
      | some vc => exact h.done hi hvc
      | none => exact { h with }
  | swipe i =>
      obtain ⟨⟨myContent, vc⟩, hcommit, rfl⟩ := Option.map_eq_some_iff.mp ht
      obtain ⟨r, hr, heq⟩ := Option.map_eq_some_iff.mp hcommit
      exact h.swipe hcommit ((Prod.mk.inj heq).1 ▸ hc r hr) _
  | deletion j e ok =>
      obtain ⟨s, hs, ht⟩ := Option.bind_eq_some_iff.mp ht
      obtain ⟨⟨deletion, writes⟩, hstep, rfl⟩ := Option.map_eq_some_iff.mp ht
      cases hvc : t.afterDocument s e ok with
      | some vc => exact h.deletion hs hstep hvc _
      | none => exact { h with }
  | elsewhere w =>
      obtain ⟨-, ⟨⟩⟩ := Option.ite_none_right_eq_some.mp ht
      refine { h with store := ?_ }
      exact (Store.sameAt_apply (Ne.symm hc)).content.trans h.store

end MyTrips

end Groute
