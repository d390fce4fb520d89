import Groute.Lib.Feed
import Groute.Reads
import Groute.Schema
import Groute.SignIn.Device

/-!
# The first screen next to the database

`ContentViewController` asks for the trip, its stops, its reviews and its likes when it is
loaded, for the reviews again when the user has written one, and for the likes again when a
press of the like button has been answered.  Queries are evaluated in any order, and their
callbacks run in the order in which they were evaluated; in between the user types, sends
reviews and presses the button, and others write.

`DetailsScreen` is the screen with the database and the queries on their way.  An answer
can be out of date when it is shown, but not for good: what a query fills is right again as
soon as the last of its answers has been shown.
-/

namespace Groute

/-- The queries, under the names of the methods that issue them. -/
inductive DetailsQuery where
  | getContent
  | getRoute
  | getReview
  | getLikeCount
  | checkLikeImage
  | getExistLikeLocation
deriving DecidableEq

namespace DetailsQuery

/-- The subcollection that a query reads, or none if it reads the document. -/
def reads : DetailsQuery → Option Sub
  | .getContent => none
  | .getRoute => some .route
  | .getReview => some .comment
  | .getLikeCount | .checkLikeImage | .getExistLikeLocation => some .favorite

/-- What a query finds; a document is listed alone. -/
def find (st : Store) (contentId : DocId) (savedId : String) : DetailsQuery → Documents
  | .getContent => ((st.content.get contentId).map (contentId, ·)).toList
  | .getRoute => (st.sub .route contentId).docs
  | .getReview => (st.sub .comment contentId).docs
  | .getLikeCount => (st.sub .favorite contentId).docs
  | .checkLikeImage | .getExistLikeLocation =>
      ContentViewController.checkLike st contentId savedId

/-- A write elsewhere, or of something else, does not change it. -/
theorem find_apply {st : Store} {w : Write} {contentId : DocId} {savedId : String}
    {query : DetailsQuery} (h : ¬(w.target = contentId ∧ w.into = query.reads)) :
    query.find (st.apply w) contentId savedId = query.find st contentId savedId := by
  have hsub : ∀ c, query.reads = some c → (st.apply w).sub c contentId = st.sub c contentId := by
    intro c hc
    exact Store.sub_apply_of_ne fun haffects => h ⟨haffects.1, haffects.2.trans hc.symm⟩
  cases query with
  | getContent =>
      rw [find, find]
      by_cases htarget : contentId = w.target
      · cases w with
        | addContent | updateContent | deleteContent => exact absurd ⟨htarget.symm, rfl⟩ h
        | addSub | deleteSub => rfl
      · rw [(Store.sameAt_apply htarget).content]
  | getRoute | getReview | getLikeCount => rw [find, find, hsub _ rfl]
  | checkLikeImage | getExistLikeLocation =>
      rw [find, find, ContentViewController.checkLike, ContentViewController.checkLike,
        hsub _ rfl]

end DetailsQuery

/-- The documents that were found, or an error. -/
abbrev DetailsAnswer := DetailsQuery × Option Documents

/-- The screen, the database and the queries on their way. -/
structure DetailsScreen where
  screen : Displayed ContentViewController.Details
  /-- `savedId` in the user defaults. -/
  savedId : String
  reviewTextField : String := ""
  /-- The queries that have not been evaluated. -/
  issued : List DetailsQuery := []
  /-- The answers whose callback has not run. -/
  answers : List DetailsAnswer := []
  trapped : Bool := false
  /-- Since a query was last issued, others have written what it reads, or a callback has
  reported an error. -/
  missed : DetailsQuery → Bool := fun _ => false

namespace DetailsScreen

open ContentViewController

/-! ## The screen -/

/-- The trip. -/
def contentId (s : DetailsScreen) : DocId := s.screen.vc.contentId

/-- The reviews of the trip. -/
def comments (s : DetailsScreen) : Collection DocId Document :=
  s.screen.store.sub .comment s.contentId

/-- The likes of the trip. -/
def favorites (s : DetailsScreen) : Collection DocId Document :=
  s.screen.store.sub .favorite s.contentId

/-- What a query finds. -/
def find (s : DetailsScreen) (query : DetailsQuery) : Documents :=
  query.find s.screen.store s.contentId s.savedId

/-- Issue a query. -/
def request (s : DetailsScreen) (query : DetailsQuery) : DetailsScreen :=
  { s with issued := query :: s.issued, missed := Function.update s.missed query false }

/-- `getLikeCount`, which calls `checkLikeImage` first. -/
def getLikeCount (s : DetailsScreen) : DetailsScreen :=
  (s.request .checkLikeImage).request .getLikeCount

/-- `viewDidLoad`, over the texts of the storyboard. -/
def viewDidLoad (store : Store) (savedId : String) (texts : Details) : DetailsScreen :=
  let vc := { texts with content := [], review := [], like := [] }
  let s : DetailsScreen :=
    { screen := { vc, store, tableView := vc, collectionView := vc }, savedId }
  (((s.request .getContent).request .getRoute).request .getReview).getLikeCount

/-- `writeReview`; the review gets the identifier `id`. -/
def writeReview (s : DetailsScreen) (id : DocId) (now : Date) : DetailsScreen :=
  if s.reviewTextField = "" then s
  else { s with
    screen := s.screen.write
      (.addSub .comment s.contentId id (comment s.reviewTextField s.savedId now))
    reviewTextField := "" }.request .getReview

/-- `clickLikeBtn`, which calls `getExistLikeLocation`. -/
def clickLikeBtn (s : DetailsScreen) : DetailsScreen := s.request .getExistLikeLocation

/-- The snapshot of a document; one that does not exist has no fields. -/
def snapshot : Documents → Document
  | [] => fun _ => none
  | document :: _ => document.2

/-- The handler of a query, when it has succeeded. -/
def handle (sorter : Sorter Comment) (savedId : String) (id : DocId) (now : DocId → Date)
    (documents : Documents) : DetailsQuery → Displayed Details → Option (Displayed Details)
  | .getContent => Read.getContentHandler (some (snapshot documents)) none
  | .getRoute => Read.getRouteHandler (some documents) none
  | .getReview => Read.getReviewHandler sorter now (some documents) none
  | .getLikeCount => Read.getLikeCountHandler (some documents) none
  | .checkLikeImage => Read.checkLikeImageHandler (some documents) none
  | .getExistLikeLocation => Read.getExistLikeLocationHandler savedId id (some documents) none

/-- The callback of a query.  An error is printed; the handler of `getExistLikeLocation`
calls `getLikeCount`. -/
def callback (s : DetailsScreen) (sorter : Sorter Comment) (id : DocId) (now : DocId → Date) :
    DetailsAnswer → DetailsScreen
  | (query, none) => { s with missed := Function.update s.missed query true }
  | (query, some documents) =>
      match handle sorter s.savedId id now documents query s.screen with
      | none => { s with trapped := true }
      | some screen =>
          if query = .getExistLikeLocation then getLikeCount { s with screen }
          else { s with screen }

/-! ## Runs -/

/-- A query is evaluated; Firestore lists the `i`-th result first. -/
def evaluate (s : DetailsScreen) (query : DetailsQuery) (i : Nat) (ok : Bool) : DetailsScreen :=
  { s with
    issued := s.issued.erase query
    answers := s.answers ++ [(query, if ok then some ((s.find query).rotate i) else none)] }

/-- Somebody else writes. -/
def elsewhere (s : DetailsScreen) (w : Write) : DetailsScreen :=
  { s with
    screen := s.screen.write w
    missed := fun query =>
      s.missed query || decide (w.target = s.contentId ∧ w.into = query.reads) }

/-- What can happen. -/
inductive Event where
  /-- The user types a review. -/
  | typed (reviewTextField : String)
  /-- The user sends it; it gets the identifier `id`. -/
  | writeReview (id : DocId) (now : Date)
  | clickLikeBtn
  | evaluated (query : DetailsQuery) (i : Nat) (ok : Bool)
  /-- The next callback runs; a like it adds gets the identifier `id`, and `now` is when each
  review is read. -/
  | callback (id : DocId) (now : DocId → Date)
  | elsewhere (w : Write)

/-- The state after an event, unless the process has trapped. -/
def step (sorter : Sorter Comment) (s : DetailsScreen) (e : Event) : Option DetailsScreen :=
  if s.trapped then none else match e with
  | .typed reviewTextField => some { s with reviewTextField }
  | .writeReview id now => if (s.comments.get id).isNone then some (s.writeReview id now) else none
  | .clickLikeBtn => some s.clickLikeBtn
  | .evaluated query i ok => if query ∈ s.issued then some (s.evaluate query i ok) else none
  | .callback id now =>
      match s.answers with
      | [] => none
      | answer :: answers =>
          if (s.favorites.get id).isNone then
            some (callback { s with answers } sorter id now answer)
          else none
  | .elsewhere w => some (s.elsewhere w)

/-- The screen as an event system. -/
def system (sorter : Sorter Comment) : EventSystem DetailsScreen Event := ⟨step sorter⟩

/-- Others write documents that can be read. -/
def WritesWell (_ : DetailsScreen) : Event → Prop
  | .elsewhere w => w.WellFormed
  | .typed _ | .writeReview _ _ | .clickLikeBtn | .evaluated _ _ _ | .callback _ _ => True

instance (s : DetailsScreen) (e : Event) : Decidable (s.WritesWell e) :=
  match e with
  | .elsewhere w => inferInstanceAs (Decidable w.WellFormed)
  | .typed _ | .writeReview _ _ | .clickLikeBtn | .evaluated _ _ _ | .callback _ _ =>
      inferInstanceAs (Decidable True)

/-- The queries whose callback has not run. -/
def pending (s : DetailsScreen) : List DetailsQuery := s.issued ++ s.answers.map Prod.fst

/-- The screen shows the documents that a query finds, in some order. -/
def Shows (sorter : Sorter Comment) (vc : Details) (documents : Documents) : DetailsQuery → Prop
  | .getContent =>
      let snapshot := snapshot documents
      (∀ location, snapshot.string "location" = some location →
        vc.locationLabel = location ++ " 여행") ∧
      (∀ memo, snapshot.string "memo" = some memo → vc.memoLabel = memo) ∧
      (∀ email, snapshot.string "email" = some email → vc.userLabel = email) ∧
      (∀ address, snapshot.string "imageAddress" = some address →
        vc.routeImage = some address) ∧
      ∀ timestamp, snapshot.date "timestamp" = some timestamp → vc.timeLabel = some timestamp
  | .getRoute => ∃ stops : Documents, stops.Perm documents ∧ vc.content = stops.map getRouteName
  | .getReview => ∃ (reviews : Documents) (now : DocId → Date) (review : List Comment),
      reviews.Perm documents ∧
        (reviews.mapM fun d => ContentViewController.getReview (now d.1) d) = some review ∧
        vc.review = sorter.sort (fun lhs rhs => rhs.timestamp < lhs.timestamp) review ∧
        vc.reviewCount = "(" ++ toString documents.length ++ ")"
  | .getLikeCount =>
      vc.like.length = documents.length ∧ vc.numberOfLikes = toString documents.length
  | .checkLikeImage => vc.likebtn = LikeButton.image documents
  | .getExistLikeLocation => True

variable {sorter : Sorter Comment} {s t : DetailsScreen} {query query' : DetailsQuery}
  {documents : Documents} {answer : DetailsAnswer} {answers : List DetailsAnswer}
  {screen screen' : Displayed Details} {savedId : String} {id : DocId} {now : DocId → Date}
  {e : Event} {es : List Event} {w : Write}

/-! ## The handlers -/

/-- The stops of `getRoute` are appended one by one, and the table is reloaded for each. -/
theorem foldl_getRoute (screen : Displayed Details) (documents : Documents) :
    documents.foldl (fun s document =>
      (s.set { s.vc with content := s.vc.content ++ [getRouteName document] }).reloadTable) screen =
      let vc := { screen.vc with content := screen.vc.content ++ documents.map getRouteName }
      { screen with vc, tableView := if documents = [] then screen.tableView else vc } := by
  induction documents generalizing screen with
  | nil => simp
  | cons document documents ih =>
      rw [List.foldl_cons, ih]
      cases documents <;> simp [Displayed.set, Displayed.reloadTable]

/-- All stops are listed, in the order of the answer. -/
theorem handle_getRoute : handle sorter savedId id now documents .getRoute screen =
    let vc := { screen.vc with content := documents.map getRouteName }
    some { screen with vc, tableView := if documents = [] then screen.tableView else vc } := by
  show some (documents.foldl _ (screen.set { screen.vc with content := [] })) = _
  rw [foldl_getRoute]
  rfl

/-- All reviews are listed, unless one lacks a field. -/
theorem handle_getReview {review : List Comment}
    (h : (documents.mapM fun d => ContentViewController.getReview (now d.1) d) = some review) :
    handle sorter savedId id now documents .getReview screen =
      let review := sorter.sort (fun lhs rhs => rhs.timestamp < lhs.timestamp) review
      some (screen.set { screen.vc with
        review, reviewCount := "(" ++ toString review.length ++ ")" }).reloadCollection := by
  show (documents.mapM fun d => ContentViewController.getReview (now d.1) d).map _ = _
  rw [h]
  rfl

/-- All likes are counted, unless one has no e-mail. -/
theorem handle_getLikeCount {like : List Favorite} (h : documents.mapM getLike = some like) :
    handle sorter savedId id now documents .getLikeCount screen =
      some (screen.set { screen.vc with like, numberOfLikes := toString like.length }) := by
  show (documents.mapM getLike).map _ = _
  rw [h]
  rfl

/-- A press writes a like or deletes one; the heart is all that it changes on the screen. -/
theorem exists_handle_getExistLikeLocation (sorter : Sorter Comment) (savedId : String)
    (id : DocId) (now : DocId → Date) (screen : Displayed Details) (documents : Documents) :
    ∃ likebtn, handle sorter savedId id now documents .getExistLikeLocation screen =
      some ((screen.write (toggle screen.vc.contentId id savedId documents)).set
        { screen.vc with likebtn }) := by
  cases documents with
  | nil => exact ⟨_, rfl⟩
  | cons document documents => exact ⟨_, rfl⟩

/-- The write is about the likes of the trip, and can be read. -/
theorem toggle_frame (contentId id : DocId) (savedId : String) (documents : Documents) :
    (toggle contentId id savedId documents).target = contentId ∧
      (toggle contentId id savedId documents).into = some .favorite ∧
      (toggle contentId id savedId documents).WellFormed := by
  cases documents with
  | nil => exact ⟨rfl, rfl, rfl⟩
  | cons document documents => exact ⟨rfl, rfl, trivial⟩

/-- All other handlers only fill the screen. -/
theorem handle_frame_of_ne (hquery : query ≠ .getExistLikeLocation)
    (h : handle sorter savedId id now documents query screen = some screen') :
    screen'.vc.contentId = screen.vc.contentId ∧ screen'.store = screen.store := by
  cases query with
  | getContent | checkLikeImage =>
      cases h
      exact ⟨rfl, rfl⟩
  | getRoute =>
      rw [handle_getRoute] at h
      cases h
      exact ⟨rfl, rfl⟩
  | getReview | getLikeCount =>
      obtain ⟨_, -, rfl⟩ := Option.map_eq_some_iff.mp h
      exact ⟨rfl, rfl⟩
  | getExistLikeLocation => exact absurd rfl hquery

/-- Handlers fill the screen; only a press writes, and what it writes is a like. -/
theorem handle_frame (h : handle sorter savedId id now documents query screen = some screen') :
    screen'.vc.contentId = screen.vc.contentId ∧ (screen'.store = screen.store ∨
      ∃ w, screen'.store = screen.store.apply w ∧ w.into = some .favorite) := by
  by_cases hquery : query = .getExistLikeLocation
  · subst hquery
    obtain ⟨likebtn, hhandle⟩ := exists_handle_getExistLikeLocation sorter savedId id now screen
      documents
    cases hhandle.symm.trans h
    exact ⟨rfl, .inr ⟨_, rfl, (toggle_frame ..).2.1⟩⟩
  · obtain ⟨hid, hstore⟩ := handle_frame_of_ne hquery h
    exact ⟨hid, .inl hstore⟩

/-- So they leave what the other queries find as it is. -/
theorem find_of_handle (h : handle sorter savedId id now documents query screen = some screen')
    (hreads : query'.reads ≠ some .favorite) :
    query'.find screen'.store screen'.vc.contentId s.savedId =
      query'.find screen.store screen.vc.contentId s.savedId := by
  obtain ⟨hid, hstore⟩ := handle_frame h
  rw [hid]
  rcases hstore with hstore | ⟨w, hstore, hinto⟩
  · rw [hstore]
  · rw [hstore]
    exact DetailsQuery.find_apply fun haffects => hreads (haffects.2.symm.trans hinto)

/-- What a callback does without an error. -/
theorem callback_of_handle (hquery : query ≠ .getExistLikeLocation)
    (hhandle : handle sorter s.savedId id now documents query s.screen = some screen) :
    s.callback sorter id now (query, some documents) = { s with screen } := by
  rw [callback, hhandle]
  exact if_neg hquery

theorem callback_getExistLikeLocation
    (hhandle : handle sorter s.savedId id now documents .getExistLikeLocation s.screen =
      some screen) :
    s.callback sorter id now (.getExistLikeLocation, some documents) =
      getLikeCount { s with screen } := by
  rw [callback, hhandle]
  exact if_pos rfl

/-- The next callback runs on the first of the answers. -/
theorem exists_of_callback (h : s.step sorter (.callback id now) = some t) : ∃ answer answers,
    s.answers = answer :: answers ∧ s.favorites.get id = none ∧
      callback { s with answers } sorter id now answer = t := by
  obtain ⟨-, h⟩ := Option.ite_none_left_eq_some.mp h
  dsimp only at h
  split at h
  · cases h
  · next answer answers hanswers =>
    obtain ⟨hfresh, h⟩ := Option.ite_none_right_eq_some.mp h
    exact ⟨answer, answers, hanswers, Option.isNone_iff_eq_none.mp hfresh, Option.some.inj h⟩

/-! ## Nothing traps -/

/-- The handler of a query can read the documents. -/
def Readable (documents : Documents) : DetailsQuery → Prop
  | .getReview => ∀ d ∈ documents, Sub.comment.Fields d.2
  | .getLikeCount => ∀ d ∈ documents, Sub.favorite.Fields d.2
  | .getContent | .getRoute | .checkLikeImage | .getExistLikeLocation => True

/-- The reviews are listed from the newest to the oldest. -/
def NewestFirst (review : List Comment) : Prop :=
  review.Pairwise fun review review' => review'.timestamp ≤ review.timestamp

/-- Every answer can be read, and both lists show what the properties hold.  The table of the
stops is not reloaded for an answer without stops, but the stops are asked for only once. -/
structure Sound (s : DetailsScreen) : Prop where
  running : s.trapped = false
  store : s.screen.store.WellFormed
  readable : ∀ query documents, (query, some documents) ∈ s.answers → Readable documents query
  tableView : s.screen.tableView.content = s.screen.vc.content
  once : s.pending.count .getRoute = 0 ∨
    s.pending.count .getRoute = 1 ∧ s.screen.vc.content = []
  collectionView : s.screen.collectionView.review = s.screen.vc.review
  newestFirst : NewestFirst s.screen.vc.review

/-- What a query finds can be read, in any order. -/
theorem readable_find (h : s.screen.store.WellFormed) (query : DetailsQuery) (i : Nat) :
    Readable ((s.find query).rotate i) query := by
  cases query with
  | getContent | getRoute | checkLikeImage | getExistLikeLocation => trivial
  | getReview | getLikeCount =>
      exact fun d hd => h.sub (Collection.mem_docs_iff.mp (List.mem_rotate.mp hd))

/-- Reviews that can be read are. -/
theorem exists_review (h : Readable documents .getReview) (now : DocId → Date) :
    ∃ review, (documents.mapM fun d =>
      ContentViewController.getReview (now d.1) d) = some review := by
  refine ⟨_, TableView.mapM_of_isSome fun d hd => ?_⟩
  obtain ⟨hcomment, hemail, htimestamp⟩ := h d hd
  obtain ⟨comment, hcomment⟩ := Option.isSome_iff_exists.mp hcomment
  obtain ⟨email, hemail⟩ := Option.isSome_iff_exists.mp hemail
  obtain ⟨timestamp, htimestamp⟩ := Option.isSome_iff_exists.mp htimestamp
  simp [ContentViewController.getReview, hcomment, hemail, htimestamp]

/-- So are likes. -/
theorem exists_like (h : Readable documents .getLikeCount) :
    ∃ like, documents.mapM getLike = some like := by
  refine ⟨_, TableView.mapM_of_isSome fun d hd => ?_⟩
  have hemail : (d.2.string "email").isSome := h d hd
  simpa [getLike] using hemail

/-- `getReview` sorts the reviews. -/
theorem newestFirst_sort (sorter : Sorter Comment) (review : List Comment) :
    NewestFirst (sorter.sort (fun lhs rhs => rhs.timestamp < lhs.timestamp) review) := by
  have hweak : StrictWeakOn (fun lhs rhs : Comment => decide (rhs.timestamp < lhs.timestamp))
      review := .of_key Comment.timestamp fun _ _ _ _ => rfl
  exact (sorter.pairwise_sort hweak).imp fun hnewer => not_lt.mp (of_decide_eq_false hnewer)

/-- Queries other than that for the stops are issued again. -/
theorem Sound.request (h : s.Sound) (hquery : query ≠ .getRoute) : (s.request query).Sound :=
  { h with
    once := by
      have hcount : (s.request query).pending.count .getRoute = s.pending.count .getRoute :=
        List.count_cons_of_ne hquery
      rw [hcount]
      exact h.once }

theorem Sound.getLikeCount (h : s.Sound) : s.getLikeCount.Sound :=
  (h.request (by rintro ⟨⟩)).request (by rintro ⟨⟩)

/-- Evaluating a query takes it from one list to the other. -/
theorem pending_evaluate (h : query ∈ s.issued) (i : Nat) (ok : Bool) :
    s.pending.Perm (s.evaluate query i ok).pending := by
  have hevaluate : (s.evaluate query i ok).pending =
      s.issued.erase query ++ (s.answers.map Prod.fst ++ [query]) := by
    simp [pending, evaluate]
  rw [hevaluate]
  calc
    s.pending.Perm (query :: s.issued.erase query ++ s.answers.map Prod.fst) :=
        (List.perm_cons_erase h).append_right _
    List.Perm _ (s.issued.erase query ++ query :: s.answers.map Prod.fst) :=
        List.perm_middle.symm
    List.Perm _ (s.issued.erase query ++ (s.answers.map Prod.fst ++ [query])) :=
        (List.perm_append_singleton query _).symm.append_left _

theorem Sound.evaluate (h : s.Sound) (hquery : query ∈ s.issued) (i : Nat) (ok : Bool) :
    (s.evaluate query i ok).Sound :=
  { h with
    readable := by
      intro query' documents hmem
      rcases List.mem_append.mp hmem with hmem | hmem
      · exact h.readable query' documents hmem
      · obtain ⟨rfl, hdocuments⟩ := Prod.mk.inj (List.mem_singleton.mp hmem)
        obtain ⟨-, hdocuments⟩ := Option.ite_none_right_eq_some.mp hdocuments.symm
        exact Option.some.inj hdocuments ▸ readable_find h.store query' i
    once := by
      rw [← (pending_evaluate hquery i ok).count_eq]
      exact h.once }

/-- The next answer leaves the queue. -/
theorem pending_next (h : s.answers = answer :: answers) :
    s.pending.Perm (answer.1 :: pending { s with answers }) := by
  rw [pending, h]
  exact List.perm_middle

theorem Sound.next (h : s.Sound) (hanswers : s.answers = answer :: answers) :
    Sound { s with answers } where
  running := h.running
  store := h.store
  readable query documents hmem :=
    h.readable query documents (hanswers ▸ List.mem_cons_of_mem answer hmem)
  tableView := h.tableView
  once := by
    have hle : (pending { s with answers }).count .getRoute ≤ s.pending.count .getRoute := by
      rw [(pending_next hanswers).count_eq, List.count_cons]
      exact Nat.le_add_right _ _
    rcases h.once with hzero | ⟨hone, hnil⟩
    · exact .inl (Nat.le_zero.mp (hzero ▸ hle))
    · rcases Nat.le_one_iff_eq_zero_or_eq_one.mp (hone ▸ hle) with hzero | hone'
      · exact .inl hzero
      · exact .inr ⟨hone', hnil⟩
  collectionView := h.collectionView
  newestFirst := h.newestFirst

/-- A stop that is shown has been answered. -/
theorem Sound.getRoute (h : s.Sound)
    (hanswers : s.answers = (.getRoute, some documents) :: answers) :
    Sound (callback { s with answers } sorter id now (.getRoute, some documents)) := by
  have hcount : s.pending.count .getRoute = (pending { s with answers }).count .getRoute + 1 :=
    ((pending_next hanswers).count_eq _).trans List.count_cons_self
  have hzero : (pending { s with answers }).count .getRoute = 0 := by
    rcases h.once with hzero | ⟨hone, -⟩ <;> omega
  have hnil : s.screen.vc.content = [] := by
    rcases h.once with hzero' | ⟨-, hnil⟩
    · omega
    · exact hnil
  rw [callback_of_handle (by rintro ⟨⟩) handle_getRoute]
  exact { h.next hanswers with
    tableView := by
      cases documents with
      | nil => exact h.tableView.trans hnil
      | cons document documents => rfl
    once := .inl hzero }

/-- The next callback runs. -/
theorem Sound.callback (h : s.Sound) (hanswers : s.answers = answer :: answers) :
    Sound (callback { s with answers } sorter id now answer) := by
  have hnext := h.next hanswers
  obtain ⟨query, result⟩ := answer
  cases result with
  | none => exact { hnext with }
  | some documents =>
      have hreadable := h.readable query documents (hanswers ▸ List.mem_cons_self)
      cases query with
      | getContent | checkLikeImage => exact { hnext with }
      | getRoute => exact h.getRoute hanswers
      | getReview =>
          obtain ⟨review, hreview⟩ := exists_review hreadable now
          rw [callback_of_handle (by rintro ⟨⟩) (handle_getReview hreview)]
          exact { hnext with collectionView := rfl, newestFirst := newestFirst_sort sorter review }
      | getLikeCount =>
          obtain ⟨like, hlike⟩ := exists_like hreadable
          rw [callback_of_handle (by rintro ⟨⟩) (handle_getLikeCount hlike)]
          exact { hnext with }
      | getExistLikeLocation =>
          obtain ⟨likebtn, hhandle⟩ := exists_handle_getExistLikeLocation sorter s.savedId id now
            s.screen documents
          rw [callback_getExistLikeLocation (s := { s with answers }) hhandle]
          exact Sound.getLikeCount { hnext with store := h.store.apply (toggle_frame ..).2.2 }

/-- One step keeps everything readable. -/
theorem Sound.step (h : s.Sound) (hc : s.WritesWell e) (ht : s.step sorter e = some t) :
    t.Sound := by
  obtain ⟨-, hstep⟩ := Option.ite_none_left_eq_some.mp ht
  cases e with
  | typed reviewTextField => cases hstep; exact { h with }
  | writeReview id now =>
      obtain ⟨-, ⟨⟩⟩ := Option.ite_none_right_eq_some.mp hstep
      have hw : (Write.addSub .comment s.contentId id
          (comment s.reviewTextField s.savedId now)).WellFormed := ⟨rfl, rfl, rfl⟩
      rw [writeReview]
      split
      · exact h
      · exact Sound.request { h with store := h.store.apply hw } (by rintro ⟨⟩)
  | clickLikeBtn => cases hstep; exact h.request (by rintro ⟨⟩)
  | evaluated query i ok =>
      obtain ⟨hquery, ⟨⟩⟩ := Option.ite_none_right_eq_some.mp hstep
      exact h.evaluate hquery i ok
  | callback id now =>
      obtain ⟨answer, answers, hanswers, -, rfl⟩ := exists_of_callback ht
      exact h.callback hanswers
  | elsewhere w => cases hstep; exact { h with store := h.store.apply hc }

/-! ## What is shown -/

/-- The answers to a query whose callback has not run. -/
def queue (s : DetailsScreen) (query : DetailsQuery) : List (Option Documents) :=
  (s.answers.filter (·.1 = query)).map Prod.snd

/-- An answer lists what the query finds, unless it is an error. -/
def Right (s : DetailsScreen) (query : DetailsQuery) (answer : Option Documents) : Prop :=
  ∀ documents, answer = some documents → documents.Perm (s.find query)

/-- What a query fills will be right, unless others have written, or a callback has reported
an error, or the query is still to be evaluated. -/
def Fed (sorter : Sorter Comment) (s : DetailsScreen) (query : DetailsQuery) : Prop :=
  s.missed query = true ∨ query ∈ s.issued ∨
    Listeners.Feeds (s.Right query) (Shows sorter s.screen.vc (s.find query) query)
      [s.queue query]

/-- Another query is issued, or the same one. -/
theorem Fed.request (h : s.Fed sorter query) (query' : DetailsQuery) :
    (s.request query').Fed sorter query := by
  by_cases hquery : query = query'
  · subst hquery
    exact .inr (.inl List.mem_cons_self)
  · rcases h with hmissed | hissued | hfeeds
    · exact .inl ((Function.update_of_ne hquery _ _).trans hmissed)
    · exact .inr (.inl (List.mem_cons_of_mem _ hissued))
    · exact .inr (.inr hfeeds)

theorem fed_request (query : DetailsQuery) : (s.request query).Fed sorter query :=
  .inr (.inl List.mem_cons_self)

theorem Fed.getLikeCount (h : s.Fed sorter query) : s.getLikeCount.Fed sorter query :=
  (h.request _).request _

/-- The likes are asked for again. -/
theorem fed_getLikeCount (hreads : query.reads = some .favorite)
    (hquery : query ≠ .getExistLikeLocation) : s.getLikeCount.Fed sorter query := by
  cases query with
  | getLikeCount => exact fed_request _
  | checkLikeImage => exact (fed_request _).request _
  | getExistLikeLocation => exact absurd rfl hquery
  | getContent | getRoute | getReview => cases hreads

/-- The screen or the database changes, but not what the query is about. -/
theorem Fed.become (h : s.Fed sorter query)
    (hfind : find { s with screen } query = s.find query)
    (hshows : Shows sorter s.screen.vc (s.find query) query →
      Shows sorter screen.vc (s.find query) query) : Fed sorter { s with screen } query := by
  rcases h with hmissed | hissued | hfeeds
  · exact .inl hmissed
  · exact .inr (.inl hissued)
  · refine .inr (.inr (hfeeds.mono ?_ ?_))
    · intro answer hright documents hdocuments
      rw [hfind]
      exact hright documents hdocuments
    · rw [hfind]
      exact hshows

/-- A query is evaluated. -/
theorem Fed.evaluate (h : s.Fed sorter query) (query' : DetailsQuery) (i : Nat) (ok : Bool) :
    (s.evaluate query' i ok).Fed sorter query := by
  by_cases hquery : query' = query
  · subst hquery
    have hqueue : [(s.evaluate query' i ok).queue query'] = Listeners.notify [s.queue query']
        (if ok then some ((s.find query').rotate i) else none) := by
      simp [queue, DetailsScreen.evaluate, Listeners.notify]
    refine .inr (.inr ?_)
    rw [hqueue]
    refine Listeners.feeds_notify (List.cons_ne_nil _ _) ?_
    intro documents hdocuments
    obtain ⟨-, hdocuments⟩ := Option.ite_none_right_eq_some.mp hdocuments
    exact Option.some.inj hdocuments ▸ List.rotate_perm (s.find query') i
  · have hqueue : (s.evaluate query' i ok).queue query = s.queue query := by
      simp [queue, DetailsScreen.evaluate, hquery]
    rcases h with hmissed | hissued | hfeeds
    · exact .inl hmissed
    · exact .inr (.inl ((List.mem_erase_of_ne (Ne.symm hquery)).mpr hissued))
    · rw [Fed, hqueue]
      exact .inr (.inr hfeeds)

/-- The answer to another query leaves the queue. -/
theorem Fed.next (h : s.Fed sorter query) (hanswers : s.answers = answer :: answers)
    (hquery : answer.1 ≠ query) : Fed sorter { s with answers } query := by
  have hqueue : queue { s with answers } query = s.queue query := by
    simp [queue, hanswers, hquery]
  rw [Fed, hqueue]
  exact h

/-- An answer to the query is shown. -/
theorem Fed.filled (h : s.Fed sorter query)
    (hanswers : s.answers = (query, some documents) :: answers)
    (hfind : find { s with screen } query = s.find query)
    (hshows : documents.Perm (s.find query) → Shows sorter screen.vc (s.find query) query) :
    Fed sorter { s with answers, screen } query := by
  rcases h with hmissed | hissued | hfeeds
  · exact .inl hmissed
  · exact .inr (.inl hissued)
  · have hqueue : s.queue query = some documents :: queue { s with answers } query := by
      simp [queue, hanswers]
    rw [hqueue] at hfeeds
    have hdeliver : Listeners.deliver [some documents :: queue { s with answers } query] 0 =
        some (some documents, [queue { s with answers } query]) := rfl
    refine .inr (.inr ((hfeeds.deliver hdeliver ?_).mono ?_ fun hshown => hshown))
    · intro hright
      show Shows sorter screen.vc (find { s with screen } query) query
      rw [hfind]
      exact hshows (hright documents rfl)
    · intro answer hright documents' hdocuments
      show documents'.Perm (find { s with screen } query)
      rw [hfind]
      exact hright documents' hdocuments

/-- An answer has been shown. -/
theorem Fed.shown (h : s.Fed sorter query)
    (hanswers : s.answers = (query', some documents) :: answers)
    (hfind : ∀ query, find { s with screen } query = s.find query)
    (hself : documents.Perm (s.find query') → Shows sorter screen.vc (s.find query') query')
    (hother : ∀ query documents, query ≠ query' → Shows sorter s.screen.vc documents query →
      Shows sorter screen.vc documents query) : Fed sorter { s with answers, screen } query := by
  by_cases hquery : query = query'
  · subst hquery
    exact h.filled hanswers (hfind query) hself
  · exact (h.next hanswers (Ne.symm hquery)).become (hfind query) (hother query _ hquery)

/-- One document is found in one order only. -/
theorem eq_find_getContent (h : documents.Perm (s.find .getContent)) :
    documents = s.find .getContent := by
  rw [find, DetailsQuery.find] at h ⊢
  cases hget : s.screen.store.content.get s.contentId with
  | none =>
      rw [hget] at h
      exact h.eq_nil
  | some document =>
      rw [hget] at h
      exact List.perm_singleton.mp h

/-- A callback with an error shows nothing. -/
theorem Fed.callback_failed (h : s.Fed sorter query)
    (hanswers : s.answers = (query', none) :: answers) :
    Fed sorter (callback { s with answers } sorter id now (query', none)) query := by
  by_cases hsame : query = query'
  · subst hsame
    exact .inl (Function.update_self ..)
  · rcases h.next hanswers (Ne.symm hsame) with hmissed | hrest
    · exact .inl ((Function.update_of_ne hsame _ _).trans hmissed)
    · exact .inr hrest

/-- The trip is shown, as far as its fields are there. -/
theorem Fed.callback_getContent (h : s.Fed sorter query)
    (hanswers : s.answers = (.getContent, some documents) :: answers) :
    Fed sorter (callback { s with answers } sorter id now (.getContent, some documents))
      query := by
  rw [callback_of_handle (by rintro ⟨⟩) rfl]
  refine h.shown hanswers (fun _ => rfl) ?_ ?_
  · intro hperm
    obtain rfl := eq_find_getContent hperm
    refine ⟨?_, ?_, ?_, ?_, ?_⟩
    · intro location hlocation
      show (Option.map _ _).getD _ = _
      rw [hlocation]
      rfl
    · intro memo hmemo
      exact (congrArg (Option.getD · _) hmemo).trans rfl
    · intro email hemail
      exact (congrArg (Option.getD · _) hemail).trans rfl
    · intro address haddress
      exact (congrArg (Option.or · _) haddress).trans rfl
    · intro timestamp htimestamp
      exact (congrArg (Option.or · _) htimestamp).trans rfl
  · intro query documents' hne hshows
    cases query with
    | getContent => exact absurd rfl hne
    | getRoute | getReview | getLikeCount | checkLikeImage | getExistLikeLocation => exact hshows

/-- The stops are shown. -/
theorem Fed.callback_getRoute (h : s.Fed sorter query)
    (hanswers : s.answers = (.getRoute, some documents) :: answers) :
    Fed sorter (callback { s with answers } sorter id now (.getRoute, some documents)) query := by
  rw [callback_of_handle (by rintro ⟨⟩) handle_getRoute]
  refine h.shown hanswers (fun _ => rfl) (fun hperm => ⟨documents, hperm, rfl⟩) ?_
  intro query documents' hne hshows
  cases query with
  | getRoute => exact absurd rfl hne
  | getContent | getReview | getLikeCount | checkLikeImage | getExistLikeLocation => exact hshows

/-- The reviews are shown, with their number. -/
theorem Fed.callback_getReview (h : s.Fed sorter query)
    (hreadable : Readable documents .getReview)
    (hanswers : s.answers = (.getReview, some documents) :: answers) :
    Fed sorter (callback { s with answers } sorter id now (.getReview, some documents)) query := by
  obtain ⟨review, hreview⟩ := exists_review hreadable now
  rw [callback_of_handle (by rintro ⟨⟩) (handle_getReview hreview)]
  refine h.shown hanswers (fun _ => rfl) ?_ ?_
  · intro hperm
    refine ⟨documents, now, review, hperm, hreview, rfl, ?_⟩
    have hlength : (sorter.sort (fun lhs rhs => rhs.timestamp < lhs.timestamp) review).length =
        (s.find .getReview).length := by
      rw [(sorter.perm_sort _ review).length_eq, TableView.length_mapM hreview, hperm.length_eq]
    rw [← hlength]
    rfl
  · intro query documents' hne hshows
    cases query with
    | getReview => exact absurd rfl hne
    | getContent | getRoute | getLikeCount | checkLikeImage | getExistLikeLocation => exact hshows

/-- The likes are counted. -/
theorem Fed.callback_getLikeCount (h : s.Fed sorter query)
    (hreadable : Readable documents .getLikeCount)
    (hanswers : s.answers = (.getLikeCount, some documents) :: answers) :
    Fed sorter (callback { s with answers } sorter id now (.getLikeCount, some documents))
      query := by
  obtain ⟨like, hlike⟩ := exists_like hreadable
  rw [callback_of_handle (by rintro ⟨⟩) (handle_getLikeCount hlike)]
  refine h.shown hanswers (fun _ => rfl) ?_ ?_
  · intro hperm
    have hlength : like.length = (s.find .getLikeCount).length :=
      (TableView.length_mapM hlike).trans hperm.length_eq
    exact ⟨hlength, congrArg toString hlength⟩
  · intro query documents' hne hshows
    cases query with
    | getLikeCount => exact absurd rfl hne
    | getContent | getRoute | getReview | checkLikeImage | getExistLikeLocation => exact hshows

/-- The button shows whether the user has a like. -/
theorem Fed.callback_checkLikeImage (h : s.Fed sorter query)
    (hanswers : s.answers = (.checkLikeImage, some documents) :: answers) :
    Fed sorter (callback { s with answers } sorter id now (.checkLikeImage, some documents))
      query := by
  rw [callback_of_handle (by rintro ⟨⟩) rfl]
  refine h.shown hanswers (fun _ => rfl) ?_ ?_
  · intro hperm
    show LikeButton.image documents = LikeButton.image (s.find .checkLikeImage)
    rw [LikeButton.image, hperm.isEmpty_eq, LikeButton.image]
  · intro query documents' hne hshows
    cases query with
    | checkLikeImage => exact absurd rfl hne
    | getContent | getRoute | getReview | getLikeCount | getExistLikeLocation => exact hshows

/-- A press is answered: the likes change, and are asked for again. -/
theorem Fed.callback_getExistLikeLocation (h : s.Fed sorter query)
    (hanswers : s.answers = (.getExistLikeLocation, some documents) :: answers)
    (hquery : query ≠ .getExistLikeLocation) :
    Fed sorter (callback { s with answers } sorter id now (.getExistLikeLocation, some documents))
      query := by
  obtain ⟨likebtn, hhandle⟩ := exists_handle_getExistLikeLocation sorter s.savedId id now
    s.screen documents
  rw [DetailsScreen.callback_getExistLikeLocation (s := { s with answers }) hhandle]
  by_cases hreads : query.reads = some .favorite
  · exact fed_getLikeCount hreads hquery
  · refine Fed.getLikeCount ((h.next hanswers (Ne.symm hquery)).become ?_ ?_)
    · exact DetailsQuery.find_apply fun haffects =>
        hreads (haffects.2.symm.trans (toggle_frame ..).2.1)
    · intro hshows
      cases query with
      | getContent | getRoute | getReview => exact hshows
      | getLikeCount | checkLikeImage | getExistLikeLocation => exact absurd rfl hreads

/-- A callback that has no error fills what it is about. -/
theorem Fed.callback (h : s.Fed sorter query) (hsound : s.Sound)
    (hanswers : s.answers = answer :: answers) (hquery : query ≠ .getExistLikeLocation) :
    Fed sorter (callback { s with answers } sorter id now answer) query := by
  obtain ⟨query', result⟩ := answer
  cases result with
  | none => exact h.callback_failed hanswers
  | some documents =>
      have hreadable := hsound.readable query' documents (hanswers ▸ List.mem_cons_self)
      cases query' with
      | getContent => exact h.callback_getContent hanswers
      | getRoute => exact h.callback_getRoute hanswers
      | getReview => exact h.callback_getReview hreadable hanswers
      | getLikeCount => exact h.callback_getLikeCount hreadable hanswers
      | checkLikeImage => exact h.callback_checkLikeImage hanswers
      | getExistLikeLocation => exact h.callback_getExistLikeLocation hanswers hquery

/-- The user sends a review, if there is anything to send. -/
theorem Fed.writeReview (h : s.Fed sorter query) (id : DocId) (now : Date) :
    (s.writeReview id now).Fed sorter query := by
  rw [DetailsScreen.writeReview]
  split
  · exact h
  · by_cases hquery : query = .getReview
    · subst hquery
      exact fed_request _
    · refine Fed.request ?_ .getReview
      have hreads : query.reads ≠ some .comment := by
        cases query with
        | getReview => exact absurd rfl hquery
        | getContent | getRoute | getLikeCount | checkLikeImage | getExistLikeLocation =>
            rintro ⟨⟩
      exact h.become (DetailsQuery.find_apply fun haffects => hreads haffects.2.symm)
        fun hshows => hshows

/-- Somebody else writes. -/
theorem Fed.elsewhere (h : s.Fed sorter query) (w : Write) : (s.elsewhere w).Fed sorter query := by
  by_cases haffects : w.target = s.contentId ∧ w.into = query.reads
  · exact .inl (Bool.or_eq_true_iff.mpr (.inr (decide_eq_true haffects)))
  · have hbecome : Fed sorter { s with screen := s.screen.write w } query :=
      h.become (DetailsQuery.find_apply haffects) fun hshows => hshows
    rcases hbecome with hmissed | hrest
    · exact .inl (Bool.or_eq_true_iff.mpr (.inl hmissed))
    · exact .inr hrest

/-- One step keeps the screen fed. -/
theorem Fed.step (h : s.Fed sorter query) (hsound : s.Sound) (ht : s.step sorter e = some t)
    (hquery : query ≠ .getExistLikeLocation) : t.Fed sorter query := by
  obtain ⟨-, hstep⟩ := Option.ite_none_left_eq_some.mp ht
  cases e with
  | typed reviewTextField => cases hstep; exact h
  | writeReview id now =>
      obtain ⟨-, ⟨⟩⟩ := Option.ite_none_right_eq_some.mp hstep
      exact h.writeReview id now
  | clickLikeBtn => cases hstep; exact h.request _
  | evaluated query' i ok =>
      obtain ⟨-, ⟨⟩⟩ := Option.ite_none_right_eq_some.mp hstep
      exact h.evaluate query' i ok
  | callback id now =>
      obtain ⟨answer, answers, hanswers, -, rfl⟩ := exists_of_callback ht
      exact h.callback hsound hanswers hquery
  | elsewhere w => cases hstep; exact h.elsewhere w

/-- What a query fills is right when nothing is left of the query. -/
theorem Fed.shows (h : s.Fed sorter query) (hpending : query ∉ s.pending)
    (hmissed : s.missed query = false) : Shows sorter s.screen.vc (s.find query) query := by
  rw [pending, List.mem_append, not_or] at hpending
  rcases h with hmissed' | hissued | hfeeds
  · exact Bool.noConfusion (hmissed.symm.trans hmissed')
  · exact absurd hissued hpending.1
  · refine hfeeds.shown ?_
    have hnil : s.answers.filter (·.1 = query) = [] := by
      refine List.filter_eq_nil_iff.mpr fun answer hanswer hquery => hpending.2 ?_
      exact List.mem_map.mpr ⟨answer, hanswer, of_decide_eq_true hquery⟩
    rw [queue, hnil]
    rfl

/-! ## Runs -/

variable {store : Store} {texts : Details}

/-- The screen is loaded. -/
theorem sound_viewDidLoad (h : store.WellFormed) : (viewDidLoad store savedId texts).Sound where
  running := rfl
  store := h
  readable _ _ hmem := absurd hmem List.not_mem_nil
  tableView := rfl
  once := .inr ⟨rfl, rfl⟩
  collectionView := rfl
  newestFirst := List.Pairwise.nil

theorem fed_viewDidLoad (hquery : query ≠ .getExistLikeLocation) :
    (viewDidLoad store savedId texts).Fed sorter query := by
  refine .inr (.inl ?_)
  cases query with
  | getExistLikeLocation => exact absurd rfl hquery
  | getContent | getRoute | getReview | getLikeCount | checkLikeImage =>
      simp [viewDidLoad, getLikeCount, DetailsScreen.request]

/-- Every run keeps the screen sound and fed. -/
theorem sound_fed_steps (h₀ : store.WellFormed)
    (h : (system sorter).Steps WritesWell (viewDidLoad store savedId texts) es s) :
    s.Sound ∧ ∀ query, query ≠ .getExistLikeLocation → s.Fed sorter query := by
  refine h.invariant (I := fun s => s.Sound ∧
    ∀ query, query ≠ .getExistLikeLocation → s.Fed sorter query) ?_
    ⟨sound_viewDidLoad h₀, fun _ hquery => fed_viewDidLoad hquery⟩
  rintro s e t ⟨hsound, hfed⟩ hc ht
  exact ⟨hsound.step hc ht, fun query hquery => (hfed query hquery).step hsound ht hquery⟩

/-- **The first screen settles on the database.**  Whatever the user sends and presses,
whatever others write and in whatever order the queries are evaluated, no handler traps,
and both lists show their properties.  As soon as all callbacks of a query have run, the
screen shows what the query finds, unless others have written that since it was last
issued, or a callback has reported an error. -/
theorem steps_shows (h₀ : store.WellFormed)
    (h : (system sorter).Steps WritesWell (viewDidLoad store savedId texts) es s) :
    s.Sound ∧ ∀ query, query ∉ s.pending → s.missed query = false →
      Shows sorter s.screen.vc (s.find query) query := by
  obtain ⟨hsound, hfed⟩ := sound_fed_steps h₀ h
  refine ⟨hsound, fun query hpending hmissed => ?_⟩
  by_cases hquery : query = .getExistLikeLocation
  · subst hquery
    trivial
  · exact (hfed query hquery).shows hpending hmissed

/-- The texts of the storyboard. -/
def storyboard (contentId : DocId) : Details where
  contentId
  locationLabel := "Location"
  memoLabel := "memo"
  userLabel := "user"
  reviewCount := "Label"
  numberOfLikes := "Label"
  likebtn := "suit.heart"

/-- A user writes a review before the reviews have been answered, and both answers arrive. -/
def reviewed : List Event :=
  [.typed "nice", .evaluated .getReview 0 true, .writeReview "1" 0, .clickLikeBtn,
    .evaluated .getReview 0 true, .callback "2" fun _ => 90, .callback "2" fun _ => 90]

theorem reviewed_shows : ∃ s, (system .insertion).Steps WritesWell
    (viewDidLoad .empty "a@b.c" (storyboard "trip")) reviewed s ∧
      Shows .insertion s.screen.vc (s.find .getReview) .getReview := by
  obtain ⟨s, hrun, hdone⟩ := EventSystem.exists_steps_of_exec (system .insertion) WritesWell
    (viewDidLoad .empty "a@b.c" (storyboard "trip")) reviewed
    (fun s => decide (.getReview ∉ s.pending ∧ s.missed .getReview = false)) (by decide)
  obtain ⟨hpending, hmissed⟩ := of_decide_eq_true hdone
  exact ⟨s, hrun, (steps_shows Store.wellFormed_empty hrun).2 .getReview hpending hmissed⟩

/-! ## What is asked for once -/

/-- The queries that only `viewDidLoad` issues. -/
def AskedOnce : DetailsQuery → Prop
  | .getContent | .getRoute => True
  | .getReview | .getLikeCount | .checkLikeImage | .getExistLikeLocation => False

/-- They read neither reviews nor likes. -/
theorem AskedOnce.reads (h : AskedOnce query) :
    query.reads ≠ some .comment ∧ query.reads ≠ some .favorite := by
  cases query with
  | getContent | getRoute => exact ⟨by rintro ⟨⟩, by rintro ⟨⟩⟩
  | getReview | getLikeCount | checkLikeImage | getExistLikeLocation => exact h.elim

/-- The query still finds the documents, unless something has been missed. -/
def Kept (documents : Documents) (s : DetailsScreen) (query : DetailsQuery) : Prop :=
  s.missed query = true ∨ s.find query = documents

theorem Kept.request (h : Kept documents s query) (hquery : query ≠ query') :
    Kept documents (s.request query') query :=
  h.imp_left (Function.update_of_ne hquery _ _).trans

/-- One step keeps it so. -/
theorem Kept.step (h : Kept documents s query) (honce : AskedOnce query)
    (ht : s.step sorter e = some t) : Kept documents t query := by
  have hne : ∀ query', ¬AskedOnce query' → query ≠ query' := by
    rintro query' hnot rfl
    exact hnot honce
  obtain ⟨-, hstep⟩ := Option.ite_none_left_eq_some.mp ht
  cases e with
  | typed reviewTextField => cases hstep; exact h
  | writeReview id now =>
      obtain ⟨-, ⟨⟩⟩ := Option.ite_none_right_eq_some.mp hstep
      rw [writeReview]
      split
      · exact h
      · refine Kept.request (h.imp_right fun hfind => ?_) (hne .getReview not_false)
        refine Eq.trans ?_ hfind
        exact DetailsQuery.find_apply fun haffects => honce.reads.1 haffects.2.symm
  | clickLikeBtn =>
      cases hstep
      exact h.request (hne .getExistLikeLocation not_false)
  | evaluated query' i ok =>
      obtain ⟨-, ⟨⟩⟩ := Option.ite_none_right_eq_some.mp hstep
      exact h
  | callback id' now =>
      obtain ⟨⟨query', result⟩, answers, -, -, rfl⟩ := exists_of_callback ht
      cases result with
      | none =>
          by_cases hquery : query = query'
          · subst hquery
            exact .inl (Function.update_self ..)
          · exact h.imp_left (Function.update_of_ne hquery _ _).trans
      | some documents' =>
          rw [callback]
          split
          · exact h
          · next screen hhandle =>
            have hkept : Kept documents { s with answers, screen } query :=
              h.imp_right (find_of_handle hhandle honce.reads.2).trans
            split
            · have hcheckLikeImage := hkept.request (hne .checkLikeImage not_false)
              exact hcheckLikeImage.request (hne .getLikeCount not_false)
            · exact hkept
  | elsewhere w =>
      cases hstep
      by_cases haffects : w.target = s.contentId ∧ w.into = query.reads
      · exact .inl (Bool.or_eq_true_iff.mpr (.inr (decide_eq_true haffects)))
      · refine h.imp (fun hmissed => Bool.or_eq_true_iff.mpr (.inl hmissed)) fun hfind => ?_
        exact (DetailsQuery.find_apply haffects).trans hfind

/-- What only `viewDidLoad` asks for is shown as it was then. -/
theorem steps_find (honce : AskedOnce query)
    (h : (system sorter).Steps WritesWell (viewDidLoad store savedId texts) es s)
    (hmissed : s.missed query = false) :
    s.find query = query.find store texts.contentId savedId := by
  have hkept : Kept (query.find store texts.contentId savedId) s query :=
    h.invariant (I := fun s => Kept (query.find store texts.contentId savedId) s query)
      (fun hI _ ht => hI.step honce ht) (.inr rfl)
  exact hkept.resolve_left (by simp [hmissed])

/-! ## Reviews -/

/-- The reviews that a run sends, over the text in the field: a text that is not empty goes
out once and leaves the field empty. -/
def submitted (savedId : String) : String → List Event → Documents
  | _, [] => []
  | _, .typed reviewTextField :: es => submitted savedId reviewTextField es
  | reviewTextField, .writeReview id now :: es =>
      if reviewTextField = "" then submitted savedId reviewTextField es
      else (id, comment reviewTextField savedId now) :: submitted savedId "" es
  | reviewTextField, .clickLikeBtn :: es | reviewTextField, .evaluated _ _ _ :: es
  | reviewTextField, .callback _ _ :: es | reviewTextField, .elsewhere _ :: es =>
      submitted savedId reviewTextField es

/-- Others leave the reviews of the trip alone. -/
def Undisturbed (s : DetailsScreen) : Event → Prop
  | .elsewhere w => ¬(w.target = s.contentId ∧ w.into = some .comment)
  | .typed _ | .writeReview _ _ | .clickLikeBtn | .evaluated _ _ _ | .callback _ _ => True

instance (s : DetailsScreen) (e : Event) : Decidable (s.Undisturbed e) :=
  match e with
  | .elsewhere _ => inferInstanceAs (Decidable (¬_))
  | .typed _ | .writeReview _ _ | .clickLikeBtn | .evaluated _ _ _ | .callback _ _ =>
      inferInstanceAs (Decidable True)

/-- What the reviews depend on is the same. -/
structure SameReviews (s t : DetailsScreen) : Prop where
  savedId : t.savedId = s.savedId
  reviewTextField : t.reviewTextField = s.reviewTextField
  comments : t.comments.docs = s.comments.docs

/-- No callback touches the reviews. -/
theorem sameReviews_callback (s : DetailsScreen) (sorter : Sorter Comment) (id : DocId)
    (now : DocId → Date) (answer : DetailsAnswer) :
    SameReviews s (s.callback sorter id now answer) := by
  obtain ⟨query, result⟩ := answer
  cases result with
  | none => exact ⟨rfl, rfl, rfl⟩
  | some documents =>
      rw [callback]
      split
      · exact ⟨rfl, rfl, rfl⟩
      · next screen hhandle =>
        have hcomments : find { s with screen } .getReview = s.find .getReview :=
          find_of_handle hhandle (by rintro ⟨⟩)
        split
        · exact ⟨rfl, rfl, hcomments⟩
        · exact ⟨rfl, rfl, hcomments⟩

/-- A text that is not empty is sent. -/
theorem comments_writeReview (hid : s.comments.get id = none) (htext : s.reviewTextField ≠ "")
    (now : Date) : (s.writeReview id now).comments.docs =
      (id, comment s.reviewTextField s.savedId now) :: s.comments.docs := by
  have hcomments : (s.writeReview id now).comments =
      s.comments.set id (comment s.reviewTextField s.savedId now) := by
    rw [writeReview, if_neg htext]
    exact Store.setSub_sub_self _ _
  rw [hcomments]
  show _ :: (s.comments.erase id).docs = _
  rw [Collection.erase_of_get_eq_none hid]

/-- **Each review is sent once.**  As long as others leave the reviews of the trip alone, the
reviews after a run are those from before and those that the run has sent: one for each press
of the send button with a text that is not empty, under the e-mail of the user.  Nothing that
is typed afterwards, no answer and no like changes or loses one. -/
theorem steps_submitted (h : (system sorter).Steps Undisturbed s es t) :
    t.comments.docs.Perm (submitted s.savedId s.reviewTextField es ++ s.comments.docs) := by
  induction h with
  | nil s => exact .refl _
  | @cons s t u e es hc ht _ ih =>
      have hstep : step sorter s e = some t := ht
      obtain ⟨-, hstep⟩ := Option.ite_none_left_eq_some.mp hstep
      cases e with
      | typed reviewTextField => cases hstep; exact ih
      | writeReview id now =>
          obtain ⟨hid, ⟨⟩⟩ := Option.ite_none_right_eq_some.mp hstep
          rw [submitted]
          by_cases htext : s.reviewTextField = ""
          · rw [if_pos htext]
            rwa [writeReview, if_pos htext] at ih
          · rw [if_neg htext]
            rw [comments_writeReview (Option.isNone_iff_eq_none.mp hid) htext] at ih
            rw [writeReview, if_neg htext] at ih
            exact ih.trans List.perm_middle
      | clickLikeBtn => cases hstep; exact ih
      | evaluated query i ok =>
          obtain ⟨-, ⟨⟩⟩ := Option.ite_none_right_eq_some.mp hstep
          exact ih
      | callback id now =>
          obtain ⟨answer, answers, -, -, rfl⟩ := exists_of_callback ht
          obtain ⟨hsaved, htext, hcomments⟩ := sameReviews_callback { s with answers } sorter id
            now answer
          rw [hsaved, htext, hcomments] at ih
          exact ih
      | elsewhere w =>
          cases hstep
          have hcomments : (s.elsewhere w).comments = s.comments := Store.sub_apply_of_ne hc
          rw [hcomments] at ih
          exact ih

/-- The review of the user is the only one. -/
theorem reviewed_submitted : ∃ s, (system .insertion).Steps Undisturbed
    (viewDidLoad .empty "a@b.c" (storyboard "trip")) reviewed s ∧
      s.comments.docs.Perm (submitted "a@b.c" "" reviewed) := by
  obtain ⟨s, hrun, -⟩ := EventSystem.exists_steps_of_exec (system .insertion) Undisturbed
    (viewDidLoad .empty "a@b.c" (storyboard "trip")) reviewed (fun _ => true) (by decide)
  exact ⟨s, hrun, (steps_submitted hrun).trans (.of_eq (List.append_nil _))⟩

end DetailsScreen

end Groute
