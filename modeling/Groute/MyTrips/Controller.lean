import Groute.Firestore.Deletion
import Groute.Lib.EventSystem
import Groute.Lib.Ordering
import Groute.Model

/-!
# The list of the user's own trips

`SecondTabViewController` keeps three arrays: everything its fetches have ever
delivered, the same without repetitions, and the rows of the table.  The rows
are computed in `viewWillAppear` from what was delivered *before*; the fetch
issued at the same moment does not touch them.  A swipe removes a row and starts
a `Deletion`; when the delete of the document fails, the row is put back where
it was.

`MyTrips` is one such screen over the database.  A fetch reads at some moment
after it was issued and its handler runs at some later moment; other writes to
the database happen at any time.  Next to the controller stands a `History` of
what was fetched and swiped, which the steps of the controller do not read.
-/

namespace Groute

/-- The screen with the user's own trips. -/
structure SecondTabViewController where
  currentUserDocument : List CurrentUserDocument := []
  setDocument : List CurrentUserDocument := []
  filteredDocument : List CurrentUserDocument := []
deriving DecidableEq

namespace SecondTabViewController

/-- The record `getCurrentUserDocument` builds from a document. -/
def info (document : DocId × Document) : Option CurrentUserDocument :=
  (document.2.date "timestamp").map fun timestamp =>
    { id := document.1
      title := (document.2.string "title").getD ""
      imageAddress := (document.2.string "imageAddress").getD ""
      timestamp }

/-- The handler of `getCurrentUserDocument`; a document without timestamp traps. -/
def getCurrentUserDocumentDone (order : SetOrder CurrentUserDocument)
    (vc : SecondTabViewController) (documents : List (DocId × Document)) :
    Option SecondTabViewController :=
  documents.foldlM (fun vc document => (info document).map fun info =>
    { vc with
      currentUserDocument := vc.currentUserDocument ++ [info]
      setDocument := order.list (vc.currentUserDocument ++ [info]) }) vc

/-- The comparator of `viewWillAppear`: newest first. -/
def newer (lhs rhs : CurrentUserDocument) : Bool := rhs.timestamp < lhs.timestamp

/-- The rows that `viewWillAppear` computes. -/
def viewWillAppear (sorter : Sorter CurrentUserDocument) (vc : SecondTabViewController) :
    SecondTabViewController :=
  { vc with filteredDocument := sorter.sort newer vc.setDocument }

/-- A swipe removes the row. -/
def commit (vc : SecondTabViewController) (row : Nat) :
    Option (CurrentUserDocument × SecondTabViewController) :=
  vc.filteredDocument[row]?.map fun myContent =>
    (myContent, { vc with filteredDocument := vc.filteredDocument.eraseIdx row })

/-- A failed delete puts the row back; an index beyond the end traps. -/
def deleteFailed (vc : SecondTabViewController) (myContent : CurrentUserDocument) (row : Nat) :
    Option SecondTabViewController :=
  if row ≤ vc.filteredDocument.length then
    some { vc with filteredDocument := vc.filteredDocument.insertIdx row myContent }
  else none

variable {order : SetOrder CurrentUserDocument} {vc vc' : SecondTabViewController}
  {documents : List (DocId × Document)}

/-- A fetch extends the array by the records of its documents and, if there are
any, computes the set anew; the rows stay. -/
theorem getCurrentUserDocumentDone_eq
    (h : vc.getCurrentUserDocumentDone order documents = some vc') :
    vc' = { vc with
      currentUserDocument := vc.currentUserDocument ++ documents.filterMap info
      setDocument := if documents = [] then vc.setDocument
        else order.list (vc.currentUserDocument ++ documents.filterMap info) } := by
  induction documents generalizing vc with
  | nil =>
      cases h
      simp
  | cons document documents ih =>
      obtain ⟨vc₁, h₁, h₂⟩ := Option.bind_eq_some_iff.mp (List.foldlM_cons.symm.trans h)
      obtain ⟨r, hr, rfl⟩ := Option.map_eq_some_iff.mp h₁
      rw [ih h₂, List.filterMap_cons_some hr]
      by_cases hnil : documents = []
      · simp [hnil]
      · simp [hnil]

/-- Newest first is a strict weak order. -/
theorem strictWeakOn_newer (rows : List CurrentUserDocument) : StrictWeakOn newer rows :=
  .of_key CurrentUserDocument.timestamp fun _ _ _ _ => rfl

end SecondTabViewController

/-- A swipe whose operations have not all completed. -/
structure Swipe where
  myContent : CurrentUserDocument
  /-- `indexPath.row`. -/
  row : Nat
  deletion : Deletion
deriving DecidableEq

/-- What was fetched and swiped. -/
structure MyTrips.History where
  /-- The records that the fetches have delivered. -/
  fetched : List CurrentUserDocument := []
  /-- The records of the fetch delivered last. -/
  lastFetch : Option (List CurrentUserDocument) := none
  /-- The records delivered before the last `viewWillAppear`. -/
  earlier : List CurrentUserDocument := []
  /-- The rows swiped since. -/
  swiped : List CurrentUserDocument := []
deriving DecidableEq

/-- The screen over the database. -/
structure MyTrips where
  store : Store
  /-- `firebaseAuth.currentUser?.email`. -/
  currentUser : Option String
  vc : SecondTabViewController := {}
  /-- The fetches that have not read the database. -/
  asked : Nat := 0
  /-- Results whose handler has not run. -/
  answers : List (List (DocId × Document)) := []
  swipes : List Swipe := []
  /-- The documents of `Content` that were deleted; their identifiers do not
  come back. -/
  deleted : List DocId := []
  history : MyTrips.History := {}
  /-- The process has trapped. -/
  trapped : Bool := false

/-- The Content documents that a write deletes. -/
def Write.deletedIds : Write → List DocId
  | .deleteContent id => [id]
  | .addContent .. | .updateContent .. | .addSub .. | .deleteSub .. => []

/-- A write that adds a Content document does so under an identifier that was
not used. -/
def Write.IsFresh (st : Store) (deleted : List DocId) : Write → Prop
  | .addContent id _ => (st.content.get id).isNone ∧ id ∉ deleted
  | .updateContent .. | .deleteContent _ | .addSub .. | .deleteSub .. => True

instance (st : Store) (deleted : List DocId) (w : Write) : Decidable (w.IsFresh st deleted) :=
  match w with
  | .addContent id _ => inferInstanceAs (Decidable ((st.content.get id).isNone ∧ id ∉ deleted))
  | .updateContent .. | .deleteContent _ | .addSub .. | .deleteSub .. =>
      inferInstanceAs (Decidable True)

namespace MyTrips

/-- What can happen. -/
inductive Event where
  | viewWillAppear (sorter : Sorter CurrentUserDocument)
  /-- A fetch reads the database, or fails. -/
  | read (ok : Bool)
  /-- The handler of a fetch runs, on the `i`-th result. -/
  | done (i : Nat) (order : SetOrder CurrentUserDocument)
  /-- A row is swiped away. -/
  | swipe (row : Nat)
  /-- An operation of the `j`-th swipe completes. -/
  | deletion (j : Nat) (e : Deletion.Event) (ok : Bool)
  /-- Something else writes to the database. -/
  | elsewhere (w : Write)

/-- The documents whose e-mail is that of the user. -/
def ownDocuments (st : Store) (currentUser : String) : List (DocId × Document) :=
  st.content.query fun d => d.get "email" = some (.string currentUser)

/-- What the failure of the delete of a document does to the rows. -/
def afterDocument (t : MyTrips) (s : Swipe) (e : Deletion.Event) (ok : Bool) :
    Option SecondTabViewController :=
  if e = .document ∧ ok = false then t.vc.deleteFailed s.myContent s.row else some t.vc

/-- The state after an event, unless the process has trapped. -/
def step (t : MyTrips) (e : Event) : Option MyTrips :=
  if t.trapped then none else match e with
  | .viewWillAppear sorter => some { t with
      vc := t.vc.viewWillAppear sorter
      asked := t.asked + if t.currentUser.isSome then 1 else 0
      history := { t.history with earlier := t.history.fetched, swiped := [] } }
  | .read ok =>
      if t.asked = 0 then none
      else some { t with
        asked := t.asked - 1
        answers := t.answers ++
          if ok then [ownDocuments t.store (t.currentUser.getD "")] else [] }
  | .done i order =>
      t.answers[i]?.map fun documents =>
        match t.vc.getCurrentUserDocumentDone order documents with
        | some vc =>
            let records := documents.filterMap SecondTabViewController.info
            { t with
              vc
              answers := t.answers.eraseIdx i
              history := { t.history with
                fetched := t.history.fetched ++ records, lastFetch := some records } }
        | none => { t with trapped := true }
  | .swipe row =>
      (t.vc.commit row).map fun (myContent, vc) => { t with
        vc
        swipes := t.swipes ++ [⟨myContent, row, .swipe myContent.id⟩]
        history := { t.history with swiped := myContent :: t.history.swiped } }
  | .deletion j e ok =>
      t.swipes[j]?.bind fun s => (s.deletion.step t.store e ok).map fun (deletion, writes) =>
        match t.afterDocument s e ok with
        | some vc => { t with
            store := t.store.applyAll writes
            vc
            swipes := t.swipes.set j { s with deletion }
            deleted := writes.flatMap Write.deletedIds ++ t.deleted }
        | none => { t with trapped := true }
  | .elsewhere w =>
      if w.IsFresh t.store t.deleted then
        some { t with store := t.store.apply w, deleted := w.deletedIds ++ t.deleted }
      else none

/-- The screen with the user's own trips. -/
def system : EventSystem MyTrips Event := ⟨step⟩

/-- The screen has not appeared yet. -/
structure Start (t : MyTrips) : Prop where
  vc : t.vc = {}
  answers : t.answers = []
  swipes : t.swipes = []
  history : t.history = {}

/-- Everything that was issued has completed. -/
structure Quiescent (t : MyTrips) : Prop where
  asked : t.asked = 0
  answers : t.answers = []
  swipes : ∀ s ∈ t.swipes, s.deletion.isDone
  trapped : t.trapped = false

end MyTrips

end Groute
