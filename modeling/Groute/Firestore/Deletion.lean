import Groute.Firestore.Store

/-!
# Deleting a trip

Two screens delete a Content document together with its three subcollections:
the swipe in `SecondTabViewController` and the cancel action of the save alert
in `AddRouteViewController`.  Both issue the same four operations at once — a
read of each subcollection, whose handler deletes every document it got, and
the delete of the document itself — and wait for none of them.

A `Deletion` is what is still outstanding.  Operations complete one at a time
and in any order; a failed read deletes nothing, a failed delete changes
nothing, and neither has any other effect on the database.
-/

namespace Groute

/-- The operations of a deletion that have not completed. -/
structure Deletion where
  /-- The trip. -/
  target : DocId
  /-- Subcollections whose read has not been answered. -/
  reads : List Sub
  /-- Documents whose delete has not been answered. -/
  deletes : List (Sub × DocId)
  /-- The delete of the document itself has not been answered. -/
  document : Bool
deriving DecidableEq

/-- Documents of subcollections are compared by both parts of their path. -/
instance : LawfulBEq (Sub × DocId) := inferInstance

namespace Deletion

/-- The swipe in `SecondTabViewController`. -/
def swipe (target : DocId) : Deletion := ⟨target, [.favorite, .comment, .route], [], true⟩

/-- The cancel action in `AddRouteViewController`. -/
def saveCancel (target : DocId) : Deletion := ⟨target, [.route, .favorite, .comment], [], true⟩

/-- The completion of an operation. -/
inductive Event where
  /-- The read of a subcollection; its handler issues the deletes. -/
  | read (c : Sub)
  /-- The delete of a document of a subcollection. -/
  | deleted (c : Sub) (id : DocId)
  /-- The delete of the document itself. -/
  | document
deriving DecidableEq

/-- What remains, and what is written, when an operation completes: with success
if `ok`, and otherwise with an error that the handlers ignore. -/
def step (s : Store) (d : Deletion) : Event → Bool → Option (Deletion × List Write)
  | .read c, ok =>
      if c ∈ d.reads then
        some ({ d with
          reads := d.reads.erase c
          deletes := d.deletes ++
            if ok then (s.sub c d.target).docs.map fun doc => (c, doc.1) else [] }, [])
      else none
  | .deleted c id, ok =>
      if (c, id) ∈ d.deletes then
        some ({ d with deletes := d.deletes.erase (c, id) },
          if ok then [.deleteSub c d.target id] else [])
      else none
  | .document, ok =>
      if d.document then
        some ({ d with document := false }, if ok then [.deleteContent d.target] else [])
      else none

/-- Every operation has completed. -/
def isDone (d : Deletion) : Prop := d.reads = [] ∧ d.deletes = [] ∧ d.document = false

instance (d : Deletion) : Decidable d.isDone := inferInstanceAs (Decidable (_ ∧ _ ∧ _))

variable {s : Store} {d d' : Deletion} {e : Event} {ok : Bool} {ws : List Write}

/-- What a completion can do. -/
theorem step_cases (h : d.step s e ok = some (d', ws)) :
    (∃ c ∈ d.reads, e = .read c ∧ ws = [] ∧
      d' = { d with
        reads := d.reads.erase c
        deletes := d.deletes ++
          if ok then (s.sub c d.target).docs.map fun doc => (c, doc.1) else [] }) ∨
    (∃ c id, (c, id) ∈ d.deletes ∧ e = .deleted c id ∧
      ws = (if ok then [.deleteSub c d.target id] else []) ∧
      d' = { d with deletes := d.deletes.erase (c, id) }) ∨
    (d.document = true ∧ e = .document ∧
      ws = (if ok then [.deleteContent d.target] else []) ∧
      d' = { d with document := false }) := by
  cases e with
  | read c =>
      simp only [step, Option.ite_none_right_eq_some, Option.some.injEq, Prod.mk.injEq] at h
      obtain ⟨hc, rfl, rfl⟩ := h
      exact Or.inl ⟨c, hc, rfl, rfl, rfl⟩
  | deleted c id =>
      simp only [step, Option.ite_none_right_eq_some, Option.some.injEq, Prod.mk.injEq] at h
      obtain ⟨hc, rfl, rfl⟩ := h
      exact Or.inr (Or.inl ⟨c, id, hc, rfl, rfl, rfl⟩)
  | document =>
      simp only [step, Option.ite_none_right_eq_some, Option.some.injEq, Prod.mk.injEq] at h
      obtain ⟨hc, rfl, rfl⟩ := h
      exact Or.inr (Or.inr ⟨hc, rfl, rfl, rfl⟩)

/-- The trip stays the same. -/
theorem step_target (h : d.step s e ok = some (d', ws)) : d'.target = d.target := by
  obtain ⟨c, -, -, -, rfl⟩ | ⟨c, id, -, -, -, rfl⟩ | ⟨-, -, -, rfl⟩ := step_cases h <;> rfl

/-- A deletion writes to its own trip only, and leaves the field `id` alone. -/
theorem step_writes (h : d.step s e ok = some (d', ws)) :
    ∀ w ∈ ws, w.target = d.target ∧ w.keepsId := by
  obtain ⟨c, -, -, rfl, -⟩ | ⟨c, id, -, -, rfl, -⟩ | ⟨-, -, rfl, -⟩ := step_cases h
  · simp
  · exact Write.forall_mem_ite ⟨rfl, rfl⟩
  · exact Write.forall_mem_ite ⟨rfl, rfl⟩

/-! ## What is still to be deleted -/

/-- Everything at and under the trip is yet to be read or deleted. -/
structure Covers (d : Deletion) (s : Store) : Prop where
  sub : ∀ {c id}, ((s.sub c d.target).get id).isSome → c ∈ d.reads ∨ (c, id) ∈ d.deletes
  content : (s.content.get d.target).isSome → d.document = true

theorem covers_saveCancel (s : Store) (target : DocId) : (saveCancel target).Covers s where
  sub {c _} _ := Or.inl (by cases c <;> simp [saveCancel])
  content _ := rfl

/-- A successful completion leaves the rest covered. -/
theorem Covers.step (hd : d.Covers s) (h : d.step s e true = some (d', ws)) :
    d'.Covers (s.applyAll ws) := by
  obtain ⟨c, -, -, rfl, rfl⟩ | ⟨c, id, -, -, rfl, rfl⟩ | ⟨-, -, rfl, rfl⟩ := step_cases h
  · refine ⟨fun {c' id'} hget => ?_, hd.content⟩
    by_cases hc : c' = c
    · subst hc
      obtain ⟨data, hdata⟩ := Option.isSome_iff_exists.mp hget
      exact Or.inr (List.mem_append_right _
        (List.mem_map_of_mem (f := fun doc : DocId × Document => (c', doc.1))
          (Collection.mem_docs_iff.mpr hdata)))
    · refine (hd.sub hget).imp (fun h => ?_) (List.mem_append_left _)
      exact (List.mem_erase_of_ne hc).mpr h
  · refine ⟨fun {c' id'} hget => ?_, hd.content⟩
    by_cases hc : c' = c ∧ id' = id
    · obtain ⟨rfl, rfl⟩ := hc
      simp [Store.apply] at hget
    · have hne : (c', id') ≠ (c, id) := fun h => hc (Prod.mk.inj h)
      refine (hd.sub ?_).imp_right (List.mem_erase_of_ne hne).mpr
      rwa [if_pos rfl, Store.applyAll_singleton,
        Store.get_sub_deleteSub fun h => hc ⟨h.1, h.2.2⟩] at hget
  · refine ⟨fun hget => hd.sub hget, fun hget => ?_⟩
    simp [Store.apply] at hget

/-- When all is done, nothing is left of the trip. -/
theorem Covers.gone (hd : d.Covers s) (h : d.isDone) :
    s.content.get d.target = none ∧ ∀ c, s.sub c d.target = .empty := by
  obtain ⟨hreads, hdeletes, hdocument⟩ := h
  constructor
  · rw [← Option.not_isSome_iff_eq_none]
    intro hget
    exact Bool.noConfusion (hdocument.symm.trans (hd.content hget))
  · refine fun c => Collection.eq_empty_iff.mpr fun id => ?_
    rw [← Option.not_isSome_iff_eq_none]
    intro hget
    rcases hd.sub hget with hmem | hmem
    · rw [hreads] at hmem
      cases hmem
    · rw [hdeletes] at hmem
      cases hmem

end Deletion

end Groute
