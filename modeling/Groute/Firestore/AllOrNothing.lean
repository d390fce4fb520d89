import Groute.Firestore.Deletion
import Groute.Lib.EventSystem

/-!
# Is deleting a trip all or nothing?

A `Teardown` is a deletion on its way, together with the database and the
documents other clients add meanwhile.  Its four chains of operations are
independent and their errors are ignored, so the outcome is decided by the
operations that succeed and by nothing else: `Teardown.Outcome` says that the
document is gone exactly if its delete succeeded, and that a document of a
subcollection is gone exactly if its own delete succeeded.

The read of a subcollection and its handler are one event.  The deletes that
the handler issues complete at any later time, so a later start of the handler
would add no behaviour.
-/

namespace Groute

/-- A deletion, the database, and the identifiers used so far in the three
subcollections. -/
structure Teardown where
  store : Store
  deletion : Deletion
  used : List (Sub × DocId)

namespace Teardown

/-- What can happen while a trip is being deleted. -/
inductive Event where
  /-- An operation of the deletion completes. -/
  | complete (e : Deletion.Event) (ok : Bool)
  /-- Another client adds a like or a comment under a fresh identifier. -/
  | added (c : Sub) (id : DocId) (data : Document)

/-- The state after an event. -/
def step (t : Teardown) : Event → Option Teardown
  | .complete e ok => (t.deletion.step t.store e ok).map fun (deletion, writes) =>
      { t with store := t.store.applyAll writes, deletion }
  | .added c id data =>
      if c ≠ .route ∧ (c, id) ∉ t.used then
        some { t with
          store := t.store.apply (.addSub c t.deletion.target id data)
          used := (c, id) :: t.used }
      else none

/-- The deletion of one trip. -/
def system : EventSystem Teardown Event := ⟨step⟩

/-- The documents of the subcollections of a trip. -/
def keys (st : Store) (target : DocId) : List (Sub × DocId) :=
  [Sub.route, .comment, .favorite].flatMap fun c => (st.sub c target).docs.map fun doc => (c, doc.1)

theorem mem_keys_iff {st : Store} {target id : DocId} {c : Sub} :
    (c, id) ∈ keys st target ↔ ((st.sub c target).get id).isSome := by
  rw [Option.isSome_iff_exists]
  simp only [keys, List.mem_flatMap, List.mem_map, Prod.mk.injEq, Prod.exists]
  constructor
  · rintro ⟨c', -, id', data, hdoc, rfl, rfl⟩
    exact ⟨data, Collection.mem_docs_iff.mp hdoc⟩
  · rintro ⟨data, hdata⟩
    exact ⟨c, by cases c <;> simp, id, data, Collection.mem_docs_iff.mpr hdata, rfl, rfl⟩

/-- One of the two screens starts to delete a trip that exists. -/
structure Start (t : Teardown) : Prop where
  deletion : t.deletion = .swipe t.deletion.target ∨ t.deletion = .saveCancel t.deletion.target
  content : (t.store.content.get t.deletion.target).isSome
  used : t.used = keys t.store t.deletion.target

variable {t t' t₀ : Teardown} {e : Event} {es : List Event} {c : Sub} {id : DocId}

/-- The document of the trip was deleted. -/
def DocumentDeleted (es : List Event) : Prop := .complete .document true ∈ es

/-- A document of a subcollection was deleted. -/
def SubDeleted (es : List Event) (c : Sub) (id : DocId) : Prop :=
  .complete (.deleted c id) true ∈ es

/-- A document of a subcollection was there or was added. -/
def Present (t₀ : Teardown) (es : List Event) (c : Sub) (id : DocId) : Prop :=
  ((t₀.store.sub c t₀.deletion.target).get id).isSome ∨ ∃ data, .added c id data ∈ es

/-- Everything is gone, or the document and all that was under it are there. -/
def AllOrNothing (t₀ t : Teardown) : Prop :=
  t.store.content.get t₀.deletion.target = none ∧
      (∀ c, t.store.sub c t₀.deletion.target = .empty) ∨
    (t.store.content.get t₀.deletion.target).isSome ∧
      ∀ c id, ((t₀.store.sub c t₀.deletion.target).get id).isSome →
        ((t.store.sub c t₀.deletion.target).get id).isSome

/-- What the events so far have left of the trip. -/
structure Outcome (t₀ : Teardown) (es : List Event) (t : Teardown) : Prop where
  target : t.deletion.target = t₀.deletion.target
  content : (t.store.content.get t₀.deletion.target).isSome ↔ ¬DocumentDeleted es
  sub : ∀ c id, ((t.store.sub c t₀.deletion.target).get id).isSome ↔
    Present t₀ es c id ∧ ¬SubDeleted es c id
  deletes : ∀ {c id}, (c, id) ∈ t.deletion.deletes → (c, id) ∈ t.used
  deleted : ∀ {c id}, SubDeleted es c id → (c, id) ∈ t.used
  present : ∀ {c id}, Present t₀ es c id → (c, id) ∈ t.used

theorem outcome_start (h : Start t₀) : Outcome t₀ [] t₀ where
  target := rfl
  content := by simpa [DocumentDeleted] using h.content
  sub := by simp [Present, SubDeleted]
  deletes := by rcases h.deletion with h | h <;> (rw [h]; rintro _ _ ⟨⟩)
  deleted := by rintro _ _ ⟨⟩
  present := by
    rw [h.used]
    rintro c id (hget | ⟨data, hmem⟩)
    · exact mem_keys_iff.mpr hget
    · cases hmem

@[simp] theorem documentDeleted_append : DocumentDeleted (es ++ [e]) ↔
    DocumentDeleted es ∨ e = .complete .document true := by
  simp [DocumentDeleted, eq_comm]

@[simp] theorem subDeleted_append : SubDeleted (es ++ [e]) c id ↔
    SubDeleted es c id ∨ e = .complete (.deleted c id) true := by
  simp [SubDeleted, eq_comm]

@[simp] theorem present_append : Present t₀ (es ++ [e]) c id ↔
    Present t₀ es c id ∨ ∃ data, e = .added c id data := by
  simp only [Present, List.mem_append, List.mem_singleton, exists_or, or_assoc,
    eq_comm (a := e)]

/-- A read leaves the database as it is; the deletes it issues are of documents
that are there. -/
theorem Outcome.read {ok : Bool} {d : Deletion} {c₀ : Sub} (h : Outcome t₀ es t)
    (htarget : d.target = t.deletion.target)
    (hdeletes : ∀ {c id}, (c, id) ∈ d.deletes → (c, id) ∈ t.deletion.deletes ∨
      ((t.store.sub c t.deletion.target).get id).isSome) :
    Outcome t₀ (es ++ [.complete (.read c₀) ok]) { t with deletion := d } where
  target := htarget.trans h.target
  content := by simpa using h.content
  sub := by simpa using h.sub
  deletes hmem := (hdeletes hmem).elim h.deletes fun hget =>
    h.present ((h.sub _ _).mp (h.target ▸ hget)).1
  deleted hmem := h.deleted (by simpa using hmem)
  present hmem := h.present (by simpa using hmem)

/-- The delete of a document of a subcollection completes. -/
theorem Outcome.deletedSub {ok : Bool} {d : Deletion} {c₀ : Sub} {id₀ : DocId}
    (h : Outcome t₀ es t) (hmem : (c₀, id₀) ∈ t.deletion.deletes)
    (htarget : d.target = t.deletion.target) (hsub : d.deletes ⊆ t.deletion.deletes) :
    Outcome t₀ (es ++ [.complete (.deleted c₀ id₀) ok])
      { t with
        store := t.store.applyAll (if ok then [.deleteSub c₀ t.deletion.target id₀] else [])
        deletion := d } where
  target := htarget.trans h.target
  content := by cases ok <;> simpa [Store.apply] using h.content
  sub c id := by
    cases ok with
    | false => simpa using h.sub c id
    | true =>
        rw [if_pos rfl, Store.applyAll_singleton, h.target]
        by_cases hid : c = c₀ ∧ id = id₀
        · obtain ⟨rfl, rfl⟩ := hid
          simp [Store.apply]
        · have hkeep : ((t.store.apply (.deleteSub c₀ t₀.deletion.target id₀)).sub c
              t₀.deletion.target).get id = (t.store.sub c t₀.deletion.target).get id :=
            Store.get_sub_deleteSub fun h => hid ⟨h.1, h.2.2⟩
          have hne : ¬(c₀ = c ∧ id₀ = id) := fun h => hid ⟨h.1.symm, h.2.symm⟩
          rw [hkeep, h.sub]
          simp [hne]
  deletes hmem := h.deletes (hsub hmem)
  deleted hdel := by
    rcases subDeleted_append.mp hdel with hdel | heq
    · exact h.deleted hdel
    · cases heq
      exact h.deletes hmem
  present hmem := h.present (by simpa using hmem)

/-- The delete of the document completes. -/
theorem Outcome.deletedDocument {ok : Bool} {d : Deletion} (h : Outcome t₀ es t)
    (htarget : d.target = t.deletion.target) (hsub : d.deletes = t.deletion.deletes) :
    Outcome t₀ (es ++ [.complete .document ok])
      { t with
        store := t.store.applyAll (if ok then [.deleteContent t.deletion.target] else [])
        deletion := d } where
  target := htarget.trans h.target
  content := by
    cases ok with
    | false => simpa using h.content
    | true => simp [Store.apply, h.target]
  sub c id := by cases ok <;> simpa [Store.apply] using h.sub c id
  deletes hmem := h.deletes (hsub ▸ hmem)
  deleted hdel := h.deleted (by simpa using hdel)
  present hmem := h.present (by simpa using hmem)

/-- Another client adds a document, under an identifier that was never used. -/
theorem Outcome.added {c₀ : Sub} {id₀ : DocId} {data : Document} (h : Outcome t₀ es t)
    (hfresh : (c₀, id₀) ∉ t.used) :
    Outcome t₀ (es ++ [.added c₀ id₀ data])
      { t with
        store := t.store.apply (.addSub c₀ t.deletion.target id₀ data)
        used := (c₀, id₀) :: t.used } where
  target := h.target
  content := by simpa [Store.apply] using h.content
  sub c id := by
    rw [h.target]
    by_cases hid : c = c₀ ∧ id = id₀
    · obtain ⟨rfl, rfl⟩ := hid
      have hnot : ¬SubDeleted es c id := fun hdel => hfresh (h.deleted hdel)
      simp [Store.apply, hnot]
    · have hkeep : ((t.store.apply (.addSub c₀ t₀.deletion.target id₀ data)).sub c
          t₀.deletion.target).get id = (t.store.sub c t₀.deletion.target).get id :=
        Store.get_sub_addSub fun h => hid ⟨h.1, h.2.2⟩
      have hne : ¬(c₀ = c ∧ id₀ = id) := fun h => hid ⟨h.1.symm, h.2.symm⟩
      rw [hkeep, h.sub]
      simp [← and_assoc, hne]
  deletes hmem := List.mem_cons_of_mem _ (h.deletes hmem)
  deleted hdel := List.mem_cons_of_mem _ (h.deleted (by simpa using hdel))
  present hmem := by
    rcases present_append.mp hmem with hmem | ⟨_, heq⟩
    · exact List.mem_cons_of_mem _ (h.present hmem)
    · cases heq
      exact List.mem_cons_self

/-- Every event extends the outcome. -/
theorem Outcome.step (h : Outcome t₀ es t) (ht : t.step e = some t') :
    Outcome t₀ (es ++ [e]) t' := by
  cases e with
  | complete e ok =>
      obtain ⟨⟨d, ws⟩, hd, rfl⟩ := Option.map_eq_some_iff.mp ht
      obtain ⟨c, -, rfl, rfl, rfl⟩ | ⟨c, id, hmem, rfl, rfl, rfl⟩ | ⟨-, rfl, rfl, rfl⟩ :=
        Deletion.step_cases hd
      · refine h.read rfl fun {c' id'} hmem => ?_
        refine (List.mem_append.mp hmem).imp_right fun hmem => ?_
        split at hmem
        · obtain ⟨⟨id, data⟩, hdoc, heq⟩ := List.mem_map.mp hmem
          obtain ⟨rfl, rfl⟩ := Prod.mk.inj heq
          rw [Collection.mem_docs_iff.mp hdoc]
          rfl
        · cases hmem
      · exact h.deletedSub hmem rfl List.erase_subset
      · exact h.deletedDocument rfl rfl
  | added c id data =>
      obtain ⟨⟨-, hfresh⟩, ⟨⟩⟩ := Option.ite_none_right_eq_some.mp ht
      exact h.added hfresh

/-- **Deleting a trip.**  Whatever has completed and failed so far, in whatever
order, the deletion is all or nothing exactly if the delete of the document
succeeded together with that of every document that was in a subcollection or
was added, or did not succeed, together with that of every document that was in
a subcollection. -/
theorem allOrNothing_iff (h₀ : t₀.Start) (h : system.Runs t₀ es t) :
    AllOrNothing t₀ t ↔
      DocumentDeleted es ∧ (∀ c id, Present t₀ es c id → SubDeleted es c id) ∨
      ¬DocumentDeleted es ∧
        ∀ c id, ((t₀.store.sub c t₀.deletion.target).get id).isSome → ¬SubDeleted es c id := by
  have hout : Outcome t₀ es t := h.invariant_history (I := Outcome t₀)
    (fun hI _ hstep => hI.step hstep) (outcome_start h₀)
  have hcontent : t.store.content.get t₀.deletion.target = none ↔ DocumentDeleted es := by
    rw [← Option.not_isSome_iff_eq_none, hout.content, not_not]
  have hgone : (∀ c, t.store.sub c t₀.deletion.target = .empty) ↔
      ∀ c id, Present t₀ es c id → SubDeleted es c id := by
    refine forall_congr' fun c => ?_
    rw [Collection.eq_empty_iff]
    refine forall_congr' fun id => ?_
    rw [← Option.not_isSome_iff_eq_none, hout.sub, not_and_not_right]
  have hkept : (∀ c id, ((t₀.store.sub c t₀.deletion.target).get id).isSome →
        ((t.store.sub c t₀.deletion.target).get id).isSome) ↔
      ∀ c id, ((t₀.store.sub c t₀.deletion.target).get id).isSome → ¬SubDeleted es c id := by
    refine forall_congr' fun c => forall_congr' fun id => imp_congr_right fun hget => ?_
    rw [hout.sub]
    exact and_iff_right (Or.inl hget)
  rw [AllOrNothing, hcontent, hgone, hout.content, hkept]

/-- The swipe on a trip with one like. -/
def likedTrip : Teardown where
  store := ((Store.empty.apply (.addContent "trip" (.ofFields []))).apply
    (.addSub .favorite "trip" "like" (.ofFields [("email", .string "a@b.c")])))
  deletion := .swipe "trip"
  used := [(.favorite, "like")]

theorem start_likedTrip : likedTrip.Start := ⟨Or.inl rfl, rfl, rfl⟩

/-- A comment is added in time, and every operation succeeds. -/
def completeDeletion : List Event :=
  [.complete (.read .route) true, .complete .document true,
    .added .comment "comment" (.ofFields []), .complete (.read .favorite) true,
    .complete (.read .comment) true, .complete (.deleted .comment "comment") true,
    .complete (.deleted .favorite "like") true]

theorem completeDeletion_allOrNothing :
    ∃ t, system.Runs likedTrip completeDeletion t ∧ AllOrNothing likedTrip t := by
  obtain ⟨t, hrun, -⟩ := EventSystem.exists_runs_of_exec system likedTrip
    completeDeletion (fun _ => true) (by decide)
  refine ⟨t, hrun, (allOrNothing_iff start_likedTrip hrun).mpr (Or.inl ⟨?_, ?_⟩)⟩
  · simp [DocumentDeleted, completeDeletion]
  · rintro c id (hget | ⟨data, hmem⟩)
    · have hkey : (c, id) ∈ [(Sub.favorite, "like")] := mem_keys_iff.mpr hget
      cases List.mem_singleton.mp hkey
      simp [SubDeleted, completeDeletion]
    · simp only [completeDeletion, List.mem_cons, reduceCtorEq, Event.added.injEq, false_or,
        List.not_mem_nil, or_false] at hmem
      obtain ⟨rfl, rfl, -⟩ := hmem
      simp [SubDeleted, completeDeletion]

/-- The like is deleted, the trip is not. -/
theorem exists_partial_deletion : ¬∀ {t₀ t : Teardown} {es : List Event}, t₀.Start →
    system.Runs t₀ es t → t.deletion.isDone → AllOrNothing t₀ t := by
  intro hall
  obtain ⟨t, hrun, ht⟩ := EventSystem.exists_runs_of_exec system likedTrip
    [.complete (.read .favorite) true, .complete (.read .comment) true,
      .complete (.read .route) true, .complete (.deleted .favorite "like") true,
      .complete .document false]
    (fun t => decide t.deletion.isDone && ((t.store.content.get "trip").isSome &&
      ((t.store.sub .favorite "trip").get "like").isNone)) (by decide)
  obtain ⟨hdone, ht⟩ := Bool.and_eq_true_iff.mp ht
  obtain ⟨hdocument, hlike⟩ := Bool.and_eq_true_iff.mp ht
  rcases hall start_likedTrip hrun (of_decide_eq_true hdone) with ⟨hgone, -⟩ | ⟨-, hkept⟩
  · change t.store.content.get "trip" = none at hgone
    rw [hgone] at hdocument
    cases hdocument
  · have hget : ((t.store.sub .favorite "trip").get "like").isSome := hkept .favorite "like" rfl
    rw [Option.isNone_iff_eq_none.mp hlike] at hget
    cases hget

end Teardown

end Groute
