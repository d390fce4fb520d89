import Groute.Lib.Collection
import Groute.Firestore.Value

/-!
# The Content tree of the database

`Content` holds one document per trip; under each document lie the three
subcollections `Route`, `Comment` and `Favorite`.  A subcollection is found
through the path alone: deleting a document leaves its subcollections behind,
and documents can be added under a document that does not exist.

`Write` lists the five shapes of write the app issues, and `Store.apply` is
what each of them does when it succeeds.  A write concerns one Content document
only (`Write.target`), which is what `SameAt` and the two frame equations say.
-/

namespace Groute

/-- The identifier of a document. -/
abbrev DocId := String

/-- The subcollections of a Content document. -/
inductive Sub where
  | route
  | comment
  | favorite
deriving DecidableEq, Repr

/-- The Content tree. -/
structure Store where
  /-- The collection `Content`. -/
  content : Collection DocId Document
  /-- The subcollections, found by their path. -/
  sub : Sub → DocId → Collection DocId Document

/-- A write under `Content`. -/
inductive Write where
  /-- `collection("Content").addDocument(data:)`, under a fresh identifier. -/
  | addContent (id : DocId) (data : Document)
  /-- `collection("Content").document(id).updateData(fields)`. -/
  | updateContent (id : DocId) (fields : Fields)
  /-- `collection("Content").document(id).delete()`. -/
  | deleteContent (id : DocId)
  /-- `addDocument(data:)` in a subcollection, under a fresh identifier. -/
  | addSub (c : Sub) (id sub : DocId) (data : Document)
  /-- `delete()` of a document of a subcollection. -/
  | deleteSub (c : Sub) (id sub : DocId)

namespace Write

/-- The Content document a write is about. -/
def target : Write → DocId
  | .addContent id _ | .updateContent id _ | .deleteContent id
  | .addSub _ id _ _ | .deleteSub _ id _ => id

/-- The subcollection that a write is about, or none if it is about the document. -/
def into : Write → Option Sub
  | .addContent _ _ | .updateContent _ _ | .deleteContent _ => none
  | .addSub c _ _ _ | .deleteSub c _ _ => some c

/-- The write neither adds a Content document nor changes the field `id` of one. -/
def keepsId : Write → Bool
  | .addContent _ _ => false
  | .updateContent _ fields => (fields.lookup "id").isNone
  | .deleteContent _ | .addSub _ _ _ _ | .deleteSub _ _ _ => true

/-- A call that may fail writes one thing at most. -/
theorem forall_mem_ite {p : Write → Prop} {w : Write} {ok : Bool} (h : p w) :
    ∀ w' ∈ if ok then [w] else [], p w' := by
  intro w' hw'
  split at hw'
  · rwa [List.mem_singleton.mp hw']
  · cases hw'

end Write

namespace Store

variable {s t u : Store} {w : Write} {id : DocId}

/-- The empty database. -/
def empty : Store := ⟨.empty, fun _ _ => .empty⟩

instance : Inhabited Store := ⟨empty⟩

/-- Replace one subcollection. -/
def setSub (s : Store) (c : Sub) (id : DocId) (docs : Collection DocId Document) : Store :=
  { s with sub := fun c' id' => if c' = c ∧ id' = id then docs else s.sub c' id' }

@[simp] theorem setSub_content (c : Sub) (docs : Collection DocId Document) :
    (s.setSub c id docs).content = s.content := rfl

@[simp] theorem setSub_sub_self (c : Sub) (docs : Collection DocId Document) :
    (s.setSub c id docs).sub c id = docs := if_pos ⟨rfl, rfl⟩

theorem setSub_sub_of_ne {c c' : Sub} {id' : DocId} (docs : Collection DocId Document)
    (h : ¬(c' = c ∧ id' = id)) : (s.setSub c id docs).sub c' id' = s.sub c' id' := if_neg h

/-- Replacing a subcollection by itself changes nothing. -/
@[simp] theorem setSub_self (s : Store) (c : Sub) (id : DocId) :
    s.setSub c id (s.sub c id) = s := by
  obtain ⟨content, sub⟩ := s
  rw [setSub, mk.injEq]
  refine ⟨rfl, ?_⟩
  funext c' id'
  split
  · next h => rw [h.1, h.2]
  · rfl

/-- What a successful write does.  `updateData` fails on a document that does
not exist, and `delete` of an absent document changes nothing. -/
def apply (s : Store) : Write → Store
  | .addContent id data => { s with content := s.content.set id data }
  | .updateContent id fields => { s with content := s.content.modify id (·.updateData fields) }
  | .deleteContent id => { s with content := s.content.erase id }
  | .addSub c id sub data => s.setSub c id ((s.sub c id).set sub data)
  | .deleteSub c id sub => s.setSub c id ((s.sub c id).erase sub)

theorem sub_addSub {c : Sub} {sub : DocId} {data : Document} :
    (s.apply (.addSub c id sub data)).sub c id = (s.sub c id).set sub data :=
  setSub_sub_self _ _

theorem sub_deleteSub {c : Sub} {sub : DocId} :
    (s.apply (.deleteSub c id sub)).sub c id = (s.sub c id).erase sub :=
  setSub_sub_self _ _

/-- Deleting an absent document changes nothing. -/
theorem apply_deleteSub_of_get_eq_none {c : Sub} {sub : DocId} (h : (s.sub c id).get sub = none) :
    s.apply (.deleteSub c id sub) = s := by
  rw [apply, Collection.erase_of_get_eq_none h, setSub_self]

/-- Deleting a document of a subcollection leaves the others. -/
theorem get_sub_deleteSub {c c' : Sub} {id' sub sub' : DocId}
    (h : ¬(c' = c ∧ id' = id ∧ sub' = sub)) :
    ((s.apply (.deleteSub c id sub)).sub c' id').get sub' = (s.sub c' id').get sub' := by
  by_cases hc : c' = c ∧ id' = id
  · obtain ⟨rfl, rfl⟩ := hc
    rw [sub_deleteSub]
    exact Collection.get_erase_of_ne _ fun hsub => h ⟨rfl, rfl, hsub⟩
  · rw [apply, setSub_sub_of_ne _ hc]

/-- So does adding one. -/
theorem get_sub_addSub {c c' : Sub} {id' sub sub' : DocId} {data : Document}
    (h : ¬(c' = c ∧ id' = id ∧ sub' = sub)) :
    ((s.apply (.addSub c id sub data)).sub c' id').get sub' = (s.sub c' id').get sub' := by
  by_cases hc : c' = c ∧ id' = id
  · obtain ⟨rfl, rfl⟩ := hc
    rw [sub_addSub]
    exact Collection.get_set_of_ne _ _ fun hsub => h ⟨rfl, rfl, hsub⟩
  · rw [apply, setSub_sub_of_ne _ hc]

/-- The effect of writes that succeed in order. -/
def applyAll (s : Store) (ws : List Write) : Store := ws.foldl apply s

@[simp] theorem applyAll_nil : s.applyAll [] = s := rfl

@[simp] theorem applyAll_singleton : s.applyAll [w] = s.apply w := rfl

/-- The effect of a write, if there is one. -/
def after (s : Store) (w : Option Write) : Store := w.elim s s.apply

@[simp] theorem after_none : s.after none = s := rfl

/-- `collection("Content").whereField("id", isEqualTo: x)`. -/
def contentWithId (s : Store) (x : String) : List (DocId × Document) :=
  s.content.query fun d => d.get "id" = some (.string x)

theorem mem_contentWithId_iff {x : String} {d : Document} :
    (id, d) ∈ s.contentWithId x ↔
      s.content.get id = some d ∧ d.get "id" = some (.string x) := by
  rw [contentWithId, Collection.mem_query_iff, decide_eq_true_eq]

/-- After a write that keeps the identifiers, every Content document was there
before, with the same field `id`. -/
theorem exists_get_of_get_apply {d' : Document} (hw : w.keepsId)
    (h : (s.apply w).content.get id = some d') :
    ∃ d, s.content.get id = some d ∧ d'.get "id" = d.get "id" := by
  cases w with
  | addContent i data => cases hw
  | updateContent i fields =>
      by_cases hi : id = i
      · subst hi
        obtain ⟨d, hd, rfl⟩ := Option.map_eq_some_iff.mp
          ((Collection.get_modify_self _ _ _).symm.trans h)
        exact ⟨d, hd, Document.get_updateData_of_lookup_none (Option.isNone_iff_eq_none.mp hw)⟩
      · exact ⟨d', (Collection.get_modify_of_ne _ _ hi).symm.trans h, rfl⟩
  | deleteContent i =>
      by_cases hi : id = i
      · subst hi
        cases (Collection.get_erase_self _ _).symm.trans h
      · exact ⟨d', (Collection.get_erase_of_ne _ hi).symm.trans h, rfl⟩
  | addSub c i sub data => exact ⟨d', h, rfl⟩
  | deleteSub c i sub => exact ⟨d', h, rfl⟩

/-- The same after several such writes. -/
theorem exists_get_of_get_applyAll {ws : List Write} {d' : Document}
    (hw : ∀ w ∈ ws, w.keepsId) (h : (s.applyAll ws).content.get id = some d') :
    ∃ d, s.content.get id = some d ∧ d'.get "id" = d.get "id" := by
  induction ws generalizing s with
  | nil => exact ⟨d', h, rfl⟩
  | cons w ws ih =>
      obtain ⟨d₁, hd₁, he₁⟩ := ih (fun w' hw' => hw w' (List.mem_cons_of_mem w hw')) h
      obtain ⟨d, hd, he⟩ := exists_get_of_get_apply (hw w List.mem_cons_self) hd₁
      exact ⟨d, hd, he₁.trans he⟩

/-! ## Frames -/

/-- `s` and `t` agree on the Content document `id` and its subcollections. -/
structure SameAt (id : DocId) (s t : Store) : Prop where
  /-- The document is the same. -/
  content : t.content.get id = s.content.get id
  /-- Its subcollections are the same. -/
  sub : ∀ c, t.sub c id = s.sub c id

theorem SameAt.refl (id : DocId) (s : Store) : SameAt id s s := ⟨rfl, fun _ => rfl⟩

theorem SameAt.trans (h : SameAt id s t) (h' : SameAt id t u) : SameAt id s u :=
  ⟨h'.content.trans h.content, fun c => (h'.sub c).trans (h.sub c)⟩

/-- A write leaves every other Content document and its subcollections alone. -/
theorem sameAt_apply (h : id ≠ w.target) : SameAt id s (s.apply w) := by
  cases w with
  | addContent i data => exact ⟨Collection.get_set_of_ne _ _ h, fun _ => rfl⟩
  | updateContent i fields => exact ⟨Collection.get_modify_of_ne _ _ h, fun _ => rfl⟩
  | deleteContent i => exact ⟨Collection.get_erase_of_ne _ h, fun _ => rfl⟩
  | addSub c i sub data => exact ⟨rfl, fun c' => setSub_sub_of_ne _ fun hc => h hc.2⟩
  | deleteSub c i sub => exact ⟨rfl, fun c' => setSub_sub_of_ne _ fun hc => h hc.2⟩

/-- A write elsewhere, or to another subcollection, leaves a subcollection alone. -/
theorem sub_apply_of_ne {c : Sub} (h : ¬(w.target = id ∧ w.into = some c)) :
    (s.apply w).sub c id = s.sub c id := by
  by_cases htarget : id = w.target
  · cases w with
    | addContent | updateContent | deleteContent => rfl
    | addSub c' id' sub data | deleteSub c' id' sub =>
        refine setSub_sub_of_ne _ ?_
        rintro ⟨rfl, rfl⟩
        exact h ⟨rfl, rfl⟩
  · exact (sameAt_apply htarget).sub c

theorem sameAt_applyAll {ws : List Write} (h : ∀ w ∈ ws, id ≠ w.target) :
    SameAt id s (s.applyAll ws) := by
  induction ws generalizing s with
  | nil => exact .refl id s
  | cons w ws ih =>
      exact (sameAt_apply (h w List.mem_cons_self)).trans
        (ih fun w' hw' => h w' (List.mem_cons_of_mem w hw'))

end Store

end Groute
