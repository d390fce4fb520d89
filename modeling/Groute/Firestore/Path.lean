import Mathlib.Data.List.DropRight
import Mathlib.Data.List.Infix
import Groute.Firestore.Store

/-!
# The paths of documents

`collection.document(path)` takes a path, not an identifier: Firestore splits it at the
slashes (`ResourcePath::FromString`), drops those at the ends, and aborts on two slashes in
a row and on a path that leads to a collection.  So a text that a user has typed can name
another document than the one with this identifier, or one of a subcollection.

A document is found by its path below the collection; those of the collection itself are
the ones whose path has no slash.
-/

namespace Groute

/-- The segments of a path. -/
def ResourcePath.fromString (path : String) : Option (List (List Char)) :=
  if ['/', '/'] <:+: path.toList then none
  else some ((path.toList.splitOn '/').filter (· ≠ []))

/-- `collection.document(path)`: the path below the collection, without slashes at its
ends.  A document has an even number of segments, and one of them is the collection. -/
def CollectionReference.document (path : String) : Option DocId :=
  (ResourcePath.fromString path).bind fun segments =>
    if segments.length % 2 = 1 then some (.ofList (['/'].intercalate segments)) else none

/-- The document is one of the collection, not of a subcollection. -/
def IsDirect (id : DocId) : Prop := '/' ∉ id.toList

instance (id : DocId) : Decidable (IsDirect id) := inferInstanceAs (Decidable (_ ∉ _))

/-- The last segment of the path. -/
def DocumentReference.documentID (id : DocId) : DocId := .ofList (id.toList.rtakeWhile (· ≠ '/'))

namespace CollectionReference

open DocumentReference

variable {path id : DocId}

/-- An identifier has no slash. -/
theorem isDirect_documentID (id : DocId) : IsDirect (documentID id) := by
  intro hmem
  rw [documentID, String.toList_ofList] at hmem
  have hne := List.mem_rtakeWhile_imp hmem
  simp at hne

/-- A document of the collection is found by its identifier. -/
theorem documentID_of_isDirect (h : IsDirect id) : documentID id = id := by
  have hself : id.toList.rtakeWhile (· ≠ '/') = id.toList := by
    refine List.rtakeWhile_eq_self_iff.mpr fun c hc => decide_eq_true ?_
    rintro rfl
    exact h hc
  rw [documentID, hself, String.ofList_toList]

/-- A path without slashes is the identifier of a document. -/
theorem document_of_isDirect (hne : path ≠ "") (h : IsDirect path) : document path = some path := by
  have hslashes : ¬['/', '/'] <:+: path.toList := fun hin => h (hin.subset (by simp))
  have hsplit : path.toList.splitOn '/' = [path.toList] := List.splitOn_eq_singleton h
  have hsegment : path.toList ≠ [] := fun hnil => hne (String.toList_eq_nil_iff.mp hnil)
  rw [document, ResourcePath.fromString, if_neg hslashes, hsplit,
    List.filter_cons_of_pos (by simpa using hsegment)]
  simp

/-- The empty path leads to the collection. -/
theorem document_empty : document "" = none := by
  simp [document, ResourcePath.fromString]

/-- The document has the identifier that was asked for exactly if the path has no slash. -/
theorem documentID_eq_iff (h : document path = some id) : documentID id = path ↔ IsDirect path := by
  constructor
  · rintro rfl
    exact isDirect_documentID id
  · intro hdirect
    have hne : path ≠ "" := by
      rintro rfl
      cases document_empty.symm.trans h
    cases (document_of_isDirect hne hdirect).symm.trans h
    exact documentID_of_isDirect hdirect

example : document "/x" = some "x" ∧ document "a/b" = none ∧ document "a//b" = none := by decide

end CollectionReference

end Groute
