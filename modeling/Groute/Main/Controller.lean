import Mathlib.Data.List.Nodup
import Groute.Firestore.Store
import Groute.Lib.EventSystem
import Groute.Lib.Ordering
import Groute.Lib.TableView
import Groute.Model

/-!
# The main list

`ViewController` lists all trips.  `getContent` replaces the list, with every
number of likes set to zero; five listeners append the number of likes of five
fixed documents to `favoriteCount`, each time they are called.  The segment HOT
writes these numbers into the list by position and sorts by them, the segment
NEW sorts by time.

`MainList` is one such screen.  Its events are the deliveries of the listeners,
the completions of `getContent` with any documents in any order, and the
selections of a segment.
-/

namespace Groute

/-- The screen with all trips. -/
structure ViewController where
  content : List Content := []
  favorite : List Favorite := []
  favoriteCount : List Int := []
deriving DecidableEq

namespace ViewController

variable {vc vc' : ViewController} {favoriteCount : List Int} {content content' : List Content}

/-- The documents whose `Favorite` collections `viewDidLoad` listens to. -/
def documentId (i : Fin 5) : DocId := "doc" ++ toString (i.val + 1)

/-- The handler of one of the listeners. -/
def favoriteDone (vc : ViewController) (documents : List (DocId × Document)) : ViewController :=
  let favorite := vc.favorite ++ documents.map fun doc => ⟨(doc.2.string "email").getD ""⟩
  { vc with favorite := [], favoriteCount := vc.favoriteCount ++ [(favorite.length : Int)] }

/-- The record `getContent` builds from a document. -/
def contentOf (doc : DocId × Document) : Option Content :=
  (doc.2.date "timestamp").map fun timestamp =>
    { id := doc.1
      location := (doc.2.string "location").getD ""
      email := (doc.2.string "email").getD ""
      title := (doc.2.string "title").getD ""
      memo := (doc.2.string "memo").getD ""
      timestamp
      imageAddress := (doc.2.string "imageAddress").getD ""
      favorite := some 0 }

/-- The handler of `getContent`; a document without timestamp traps. -/
def getContentDone (vc : ViewController) (documents : List (DocId × Document)) :
    Option ViewController :=
  documents.foldlM (fun vc doc => (contentOf doc).map fun content =>
    { vc with content := vc.content ++ [content] }) { vc with content := [] }

/-- The body of the loop of the segment HOT: `content[i].favorite = favoriteCount[i]`,
which traps beyond the end of either list. -/
def setFavorite (favoriteCount : List Int) (content : List Content) (i : Nat) :
    Option (List Content) :=
  favoriteCount[i]?.bind fun n => content[i]?.map fun c =>
    content.set i { c with favorite := some n }

/-- The loop, over `0..<favoriteCount.count`. -/
def setFavorites (favoriteCount : List Int) (content : List Content) : Option (List Content) :=
  (List.range favoriteCount.length).foldlM (setFavorite favoriteCount) content

/-- The comparator of the segment HOT. -/
def hotter (lhs rhs : Content) : Bool :=
  match lhs.favorite, rhs.favorite with
  | some lhs, some rhs => rhs < lhs
  | _, _ => false

/-- The comparator of the segment NEW. -/
def newer (lhs rhs : Content) : Bool := rhs.timestamp < lhs.timestamp

/-- A segment is selected. -/
def segmentSelect (sorter : Sorter Content) (vc : ViewController) (selectedSegmentIndex : Nat) :
    Option ViewController :=
  if selectedSegmentIndex = 0 then
    (setFavorites vc.favoriteCount vc.content).map fun content =>
      { vc with content := sorter.sort hotter content }
  else some { vc with content := sorter.sort newer vc.content }

/-! ## The loop -/

/-- What the loop leaves: the first entries get the numbers, the others keep
theirs. -/
def assigned : List Int → List Content → List Content
  | n :: favoriteCount, c :: content =>
      { c with favorite := some n } :: assigned favoriteCount content
  | [], content => content
  | _ :: _, [] => []

/-- Beyond the first entry, the loop runs on the others. -/
theorem foldlM_setFavorite_succ (n : Int) (favoriteCount : List Int) (c : Content)
    (content : List Content) (is : List Nat) :
    (is.map (· + 1)).foldlM (setFavorite (n :: favoriteCount)) (c :: content) =
      (is.foldlM (setFavorite favoriteCount) content).map (c :: ·) := by
  induction is generalizing content with
  | nil => rfl
  | cons i is ih =>
      rw [List.map_cons, List.foldlM_cons, List.foldlM_cons]
      have hbody : setFavorite (n :: favoriteCount) (c :: content) (i + 1) =
          (setFavorite favoriteCount content i).map (c :: ·) := by
        simp [setFavorite, Option.map_bind, Function.comp_def]
      rw [hbody]
      cases setFavorite favoriteCount content i with
      | none => rfl
      | some content' => exact ih content'

/-- The loop stays in bounds exactly if there are enough entries. -/
theorem setFavorites_eq (favoriteCount : List Int) (content : List Content) :
    setFavorites favoriteCount content =
      if favoriteCount.length ≤ content.length then some (assigned favoriteCount content)
      else none := by
  rw [setFavorites]
  induction favoriteCount generalizing content with
  | nil => rfl
  | cons n favoriteCount ih =>
      rw [List.length_cons, List.range_succ_eq_map, List.foldlM_cons]
      cases content with
      | nil => rfl
      | cons c content =>
          change (List.map (· + 1) (List.range favoriteCount.length)).foldlM
            (setFavorite (n :: favoriteCount)) ({ c with favorite := some n } :: content) = _
          rw [foldlM_setFavorite_succ, ih, List.length_cons]
          simp only [Nat.add_le_add_iff_right]
          split <;> rfl

/-- An entry apart from its number of likes. -/
def rest (c : Content) : Content := { c with favorite := none }

/-- The loop changes nothing else. -/
theorem map_rest_assigned (h : favoriteCount.length ≤ content.length) :
    (assigned favoriteCount content).map rest = content.map rest := by
  induction favoriteCount generalizing content with
  | nil => rfl
  | cons n favoriteCount ih =>
      cases content with
      | nil => cases h
      | cons c content => exact congrArg (rest c :: ·) (ih (Nat.le_of_succ_le_succ h))

/-- In particular it changes no identifier. -/
theorem map_id_assigned (h : favoriteCount.length ≤ content.length) :
    (assigned favoriteCount content).map Content.id = content.map Content.id := by
  have hrest := congrArg (List.map Content.id) (map_rest_assigned h)
  rwa [List.map_map, List.map_map] at hrest

/-- The loop keeps the number of entries. -/
theorem length_assigned (hle : favoriteCount.length ≤ content.length) :
    (assigned favoriteCount content).length = content.length := by
  simpa using congrArg List.length (map_id_assigned hle)

/-- The numbers of likes after the loop. -/
theorem map_favorite_assigned (h : favoriteCount.length ≤ content.length) :
    (assigned favoriteCount content).map Content.favorite =
      favoriteCount.map some ++ (content.drop favoriteCount.length).map Content.favorite := by
  induction favoriteCount generalizing content with
  | nil => rfl
  | cons n favoriteCount ih =>
      cases content with
      | nil => cases h
      | cons c content => exact congrArg (some n :: ·) (ih (Nat.le_of_succ_le_succ h))

/-- What the segment HOT leaves, if it does not trap. -/
theorem segmentSelect_hot {sorter : Sorter Content} (h : vc.segmentSelect sorter 0 = some vc') :
    vc.favoriteCount.length ≤ vc.content.length ∧
      vc' = { vc with content := sorter.sort hotter (assigned vc.favoriteCount vc.content) } := by
  rw [segmentSelect, if_pos rfl, setFavorites_eq] at h
  obtain ⟨content, hcontent, rfl⟩ := Option.map_eq_some_iff.mp h
  obtain ⟨hle, ⟨⟩⟩ := Option.ite_none_right_eq_some.mp hcontent
  exact ⟨hle, rfl⟩

/-- HOT does not trap if there are enough entries. -/
theorem segmentSelect_of_le (sorter : Sorter Content)
    (h : vc.favoriteCount.length ≤ vc.content.length) :
    vc.segmentSelect sorter 0 =
      some { vc with content := sorter.sort hotter (assigned vc.favoriteCount vc.content) } := by
  rw [segmentSelect, if_pos rfl, setFavorites_eq, if_pos h, Option.map_some]

/-! ## Fetching -/

/-- A fetch replaces the list by one entry for each document. -/
theorem getContentDone_mapM (vc : ViewController) (documents : List (DocId × Document)) :
    vc.getContentDone documents =
      (documents.mapM contentOf).map fun content => { vc with content } :=
  TableView.foldlM_concat content (fun vc content => { vc with content }) (fun _ _ => rfl)
    (fun _ _ _ => rfl) (fun _ => rfl) contentOf documents { vc with content := [] }

/-- If no document traps, the entries are the records of all of them. -/
theorem getContentDone_eq {documents : List (DocId × Document)}
    (h : vc.getContentDone documents = some vc') :
    vc' = { vc with content := documents.filterMap contentOf } := by
  rw [getContentDone_mapM] at h
  obtain ⟨content, hcontent, rfl⟩ := Option.map_eq_some_iff.mp h
  rw [TableView.filterMap_of_mapM hcontent]

/-- Records of different documents have different identifiers. -/
theorem nodup_map_id_filterMap {documents : List (DocId × Document)}
    (h : (documents.map Prod.fst).Nodup) :
    ((documents.filterMap contentOf).map Content.id).Nodup := by
  refine Collection.nodup_map_filterMap (fun doc c hc => ?_) h
  obtain ⟨_, -, rfl⟩ := Option.map_eq_some_iff.mp hc
  rfl

end ViewController

/-- The main list, and the sizes of the `Favorite` collections as delivered last. -/
structure MainList where
  vc : ViewController := {}
  latest : DocId → Option Nat := fun _ => none
  /-- The process has trapped. -/
  trapped : Bool := false

namespace MainList

/-- What can happen. -/
inductive Event where
  /-- The listener of `documentId i` delivers. -/
  | favorites (i : Fin 5) (documents : List (DocId × Document))
  /-- `getContent` completes. -/
  | fetched (documents : List (DocId × Document))
  /-- A segment is selected. -/
  | segmentSelect (sorter : Sorter Content) (selectedSegmentIndex : Nat)

/-- The controller after an event; `none` if it traps. -/
def controller (m : MainList) : Event → Option ViewController
  | .favorites _ documents => some (m.vc.favoriteDone documents)
  | .fetched documents => m.vc.getContentDone documents
  | .segmentSelect sorter selectedSegmentIndex => m.vc.segmentSelect sorter selectedSegmentIndex

/-- The sizes delivered last, after an event. -/
def latestAfter (latest : DocId → Option Nat) : Event → DocId → Option Nat
  | .favorites i documents => fun id =>
      if id = ViewController.documentId i then some documents.length else latest id
  | .fetched _ | .segmentSelect _ _ => latest

/-- A fetch returns each document once. -/
def Event.IsQuery : Event → Prop
  | .fetched documents => (documents.map Prod.fst).Nodup
  | .favorites _ _ | .segmentSelect _ _ => True

instance (e : Event) : Decidable e.IsQuery :=
  match e with
  | .fetched documents => inferInstanceAs (Decidable (documents.map Prod.fst).Nodup)
  | .favorites _ _ | .segmentSelect _ _ => inferInstanceAs (Decidable True)

/-- The state after an event, unless the process has trapped. -/
def step (m : MainList) (e : Event) : Option MainList :=
  if m.trapped ∨ ¬e.IsQuery then none
  else match m.controller e with
    | some vc => some { m with vc, latest := latestAfter m.latest e }
    | none => some { m with trapped := true }

/-- The main list. -/
def system : EventSystem MainList Event := ⟨step⟩

end MainList

end Groute
