import Mathlib.Algebra.Ring.Parity
import Groute.Content.Like
import Groute.Lib.Answers
import Groute.Lib.TableView

/-!
# The like button of a trip

A tap on the like button of `ContentViewController` asks for the likes of the user.  The
answer adds a like or deletes the first one, sets the image of the button and asks twice
more, for the image and for the number of likes; `viewDidLoad` asks these two questions
as well.  A write is in the cache of the device at once, so whatever is asked after it
sees it.

Queries are evaluated in any order, and their callbacks run in the order in which they
were evaluated, one after the other on the main queue.  `LikeButton` is the screen of one
trip with the queries on their way; `round` says which tap has caused a query.
-/

namespace Groute

open ContentViewController

/-- The three queries. -/
inductive LikeQuery where
  | getExistLikeLocation
  | checkLikeImage
  | getLikeCount
deriving DecidableEq

/-- A query, and the number of the tap that has caused it: 0 stands for `viewDidLoad`. -/
structure LikeRequest where
  round : Nat
  query : LikeQuery
deriving DecidableEq

/-- The documents that were found, or an error. -/
abbrev LikeAnswer := LikeRequest × Option (List (DocId × Document))

/-- The screen of one trip.  The last four entries follow the run and decide nothing. -/
structure LikeButton where
  store : Store
  contentId : DocId
  /-- `savedId` in the user defaults. -/
  savedId : String
  /-- The image of the button. -/
  likebtn : String
  numberOfLikes : String
  like : List Favorite := []
  /-- The queries that have not been evaluated. -/
  issued : List LikeRequest := []
  /-- The answers whose callback has not run. -/
  answers : List LikeAnswer := []
  trapped : Bool := false
  /-- How often the button was tapped. -/
  taps : Nat := 0
  /-- How many taps were answered by an error. -/
  failed : Nat := 0
  /-- A callback has reported an error since the last tap. -/
  missed : Bool := false
  /-- Others have changed the likes since the last tap. -/
  changed : Bool := false

namespace LikeButton

/-! ## The screen -/

/-- The likes of the trip. -/
def favorites (s : LikeButton) : Collection DocId Document := s.store.sub .favorite s.contentId

/-- What a query finds. -/
def ask (s : LikeButton) : LikeQuery → List (DocId × Document)
  | .getExistLikeLocation | .checkLikeImage => checkLike s.store s.contentId s.savedId
  | .getLikeCount => s.favorites.docs

/-- Issue a query. -/
def request (s : LikeButton) (round : Nat) (query : LikeQuery) : LikeButton :=
  { s with issued := ⟨round, query⟩ :: s.issued }

/-- `getLikeCount`, which calls `checkLikeImage` first. -/
def getLikeCount (s : LikeButton) (round : Nat) : LikeButton :=
  (s.request round .checkLikeImage).request round .getLikeCount

/-- `viewDidLoad`, as far as likes are concerned, over the texts of the storyboard. -/
def viewDidLoad (store : Store) (contentId : DocId) (savedId likebtn numberOfLikes : String) :
    LikeButton :=
  LikeButton.getLikeCount { store, contentId, savedId, likebtn, numberOfLikes } 0

/-- `clickLikeBtn`, which calls `getExistLikeLocation`. -/
def clickLikeBtn (s : LikeButton) : LikeButton :=
  { s with taps := s.taps + 1, missed := false, changed := false }.request (s.taps + 1)
    .getExistLikeLocation

/-- The image that `checkLikeImage` chooses. -/
def image (documents : List (DocId × Document)) : String :=
  if documents.isEmpty then "suit.heart" else "suit.heart.fill"

/-- The callback of `checkLikeImage`. -/
def checkLikeImageDone (s : LikeButton) (documents : List (DocId × Document)) : LikeButton :=
  { s with likebtn := image documents }

/-- The callback of `getExistLikeLocation`; a like it adds gets the identifier `id`. -/
def getExistLikeLocationDone (s : LikeButton) (round : Nat) (id : DocId)
    (documents : List (DocId × Document)) : LikeButton :=
  match ContentViewController.getExistLikeLocationDone documents with
  | some document => getLikeCount { s with
      store := s.store.apply (.deleteSub .favorite s.contentId document)
      likebtn := "suit.heart" } round
  | none => getLikeCount { s with
      store := s.store.apply (.addSub .favorite s.contentId id (favorite s.savedId))
      likebtn := "suit.heart.fill" } round

/-- The text that `getLikeCount` shows. -/
def number (documents : List (DocId × Document)) : String := toString documents.length

/-- The callback of `getLikeCount`. -/
def getLikeCountDone (s : LikeButton) (documents : List (DocId × Document)) : LikeButton :=
  match ContentViewController.getLikeCountDone documents with
  | some like => { s with like, numberOfLikes := toString like.length }
  | none => { s with trapped := true }

/-- The callback of a query.  An error is printed. -/
def callback (s : LikeButton) (id : DocId) : LikeAnswer → LikeButton
  | (⟨_, .getExistLikeLocation⟩, none) => { s with missed := true, failed := s.failed + 1 }
  | (⟨_, .checkLikeImage⟩, none) | (⟨_, .getLikeCount⟩, none) => { s with missed := true }
  | (⟨round, .getExistLikeLocation⟩, some documents) =>
      s.getExistLikeLocationDone round id documents
  | (⟨_, .checkLikeImage⟩, some documents) => s.checkLikeImageDone documents
  | (⟨_, .getLikeCount⟩, some documents) => s.getLikeCountDone documents

/-! ## Runs -/

/-- A query is evaluated; Firestore lists the `i`-th result first. -/
def evaluate (s : LikeButton) (request : LikeRequest) (i : Nat) (ok : Bool) : LikeButton :=
  { s with
    issued := s.issued.erase request
    answers := s.answers ++
      [(request, if ok then some ((s.ask request.query).rotate i) else none)] }

/-- What can happen. -/
inductive Event where
  | clickLikeBtn
  | evaluated (request : LikeRequest) (i : Nat) (ok : Bool)
  /-- The next callback runs; a like it adds gets the identifier `id`. -/
  | callback (id : DocId)
  /-- A like is added elsewhere. -/
  | liked (email : String) (id : DocId)
  /-- A like is deleted elsewhere. -/
  | unliked (id : DocId)
deriving DecidableEq

/-- The state after an event, unless the process has trapped. -/
def step (s : LikeButton) (e : Event) : Option LikeButton :=
  if s.trapped then none else match e with
  | .clickLikeBtn => some s.clickLikeBtn
  | .evaluated request i ok =>
      if request ∈ s.issued then some (s.evaluate request i ok) else none
  | .callback id =>
      match s.answers with
      | [] => none
      | answer :: answers =>
          if (s.favorites.get id).isNone then some (callback { s with answers } id answer) else none
  | .liked email id =>
      if (s.favorites.get id).isNone then some { s with
        store := s.store.apply (.addSub .favorite s.contentId id (favorite email))
        changed := true }
      else none
  | .unliked id => some { s with
      store := s.store.apply (.deleteSub .favorite s.contentId id)
      changed := true }

/-- The screen. -/
def system : EventSystem LikeButton Event := ⟨step⟩

/-- The queries whose callback has not run. -/
def pending (s : LikeButton) : List LikeRequest := s.issued ++ s.answers.map Prod.fst

/-- All callbacks have run that the last tap has triggered; before the first tap, all
those of `viewDidLoad`. -/
def Idle (s : LikeButton) : Prop := ∀ r ∈ s.pending, r.round ≠ s.taps

instance (s : LikeButton) : Decidable s.Idle := inferInstanceAs (Decidable (∀ r ∈ s.pending, _))

/-- Taps do not overlap, and others like and unlike between taps and only for
themselves. -/
def Apart (s : LikeButton) : Event → Prop
  | .clickLikeBtn => s.taps ≠ 0 → s.Idle
  | .liked email _ => (s.taps ≠ 0 → s.Idle) ∧ email ≠ s.savedId
  | .unliked id => (s.taps ≠ 0 → s.Idle) ∧
      (s.favorites.get id).bind (Document.get · "email") ≠ some (.string s.savedId)
  | .evaluated _ _ _ | .callback _ => True

/-- The user likes the trip. -/
def Liked (s : LikeButton) : Prop := checkLike s.store s.contentId s.savedId ≠ []

/-- The documents of other users are the same. -/
def SameOthers (s s' : LikeButton) : Prop :=
  ∀ id d, d.get "email" ≠ some (.string s.savedId) →
    (s'.favorites.get id = some d ↔ s.favorites.get id = some d)

/-- The event does not happen elsewhere. -/
def Event.Own : Event → Prop
  | .clickLikeBtn | .evaluated _ _ _ | .callback _ => True
  | .liked _ _ | .unliked _ => False

/-- The event is not a query that fails. -/
def Event.Succeeds : Event → Prop
  | .evaluated _ _ ok => ok = true
  | .clickLikeBtn | .callback _ | .liked _ _ | .unliked _ => True

/-- What the taps have done when their callbacks have run.  A tap whose query has failed
does not count, and the screen is right if no callback has failed since the last tap. -/
structure Toggled (had : Prop) (es : List Event) (s : LikeButton) : Prop where
  taps : s.taps = es.count .clickLikeBtn
  running : s.trapped = false
  once : (checkLike s.store s.contentId s.savedId).length ≤ 1
  parity : s.Idle → (s.Liked ↔ Xor had (Odd (s.taps - s.failed)))
  filled : s.Idle → s.missed = false → (s.likebtn = "suit.heart.fill" ↔ s.Liked)
  number : s.Idle → s.missed = false → s.changed = false →
    s.numberOfLikes = toString s.favorites.docs.length
  succeeded : (∀ e ∈ es, e.Succeeds) → s.failed = 0 ∧ s.missed = false

variable {s t : LikeButton} {had : Prop} {query : LikeQuery} {request : LikeRequest} {i : Nat}
  {id : DocId} {answer : LikeAnswer} {answers : List LikeAnswer}
  {documents : List (DocId × Document)} {result : Option (List (DocId × Document))}

/-! ## Toggling a like -/

/-- A write has toggled the like of the user and left the others alone. -/
structure Flipped (s t : LikeButton) : Prop where
  flipped : t.Liked ↔ ¬s.Liked
  once : (checkLike t.store t.contentId t.savedId).length ≤ 1
  email : ∀ d ∈ t.favorites.docs, (d.2.string "email").isSome
  others : s.SameOthers t

/-- The like is deleted. -/
theorem flipped_delete {d : DocId × Document}
    (hemail : ∀ d ∈ s.favorites.docs, (d.2.string "email").isSome)
    (hlike : checkLike s.store s.contentId s.savedId = [d]) :
    Flipped s { s with store := s.store.apply (.deleteSub .favorite s.contentId d.1) } := by
  have hnil : checkLike (s.store.apply (.deleteSub .favorite s.contentId d.1)) s.contentId
      s.savedId = [] := by
    rw [Likes.checkLike_deleteSub, hlike]
    simp
  have hmem : d ∈ checkLike s.store s.contentId s.savedId := hlike ▸ List.mem_cons_self
  obtain ⟨hget, hsaved⟩ := Collection.mem_query_iff.mp hmem
  refine ⟨?_, by simp [hnil], Likes.isSome_email_deleteSub hemail d.1, ?_⟩
  · simp [Liked, hnil, hlike]
  · intro id d' hd'
    rw [favorites, Store.sub_deleteSub]
    by_cases hid : id = d.1
    · subst hid
      rw [Collection.get_erase_self, favorites, hget]
      refine iff_of_false (by simp) ?_
      rintro ⟨⟩
      exact hd' (of_decide_eq_true hsaved)
    · rw [Collection.get_erase_of_ne _ hid, favorites]

/-- A like is added. -/
theorem flipped_add (hemail : ∀ d ∈ s.favorites.docs, (d.2.string "email").isSome)
    (hfresh : s.favorites.get id = none)
    (hlike : checkLike s.store s.contentId s.savedId = []) :
    Flipped s { s with
      store := s.store.apply (.addSub .favorite s.contentId id (favorite s.savedId)) } := by
  have hone : checkLike (s.store.apply (.addSub .favorite s.contentId id
      (favorite s.savedId))) s.contentId s.savedId = [(id, favorite s.savedId)] := by
    rw [Likes.checkLike_addSub hfresh, if_pos rfl, hlike]
  refine ⟨?_, by simp [hone], Likes.isSome_email_addSub hemail id s.savedId, ?_⟩
  · simp [Liked, hone, hlike]
  · intro id' d hd
    rw [favorites, Store.sub_addSub]
    by_cases hid : id' = id
    · subst hid
      rw [Collection.get_set_self, hfresh]
      refine iff_of_false ?_ (by simp)
      rintro ⟨⟩
      exact hd rfl
    · rw [Collection.get_set_of_ne _ _ hid, favorites]

/-- The answer to the query of a tap has toggled the like. -/
theorem exists_flipped (hemail : ∀ d ∈ s.favorites.docs, (d.2.string "email").isSome)
    (honce : (checkLike s.store s.contentId s.savedId).length ≤ 1)
    (hfresh : s.favorites.get id = none) (round : Nat) :
    ∃ store likebtn, s.getExistLikeLocationDone round id (s.ask .getExistLikeLocation) =
      getLikeCount { s with store, likebtn } round ∧ Flipped s { s with store } := by
  show ∃ store likebtn, s.getExistLikeLocationDone round id
    (checkLike s.store s.contentId s.savedId) = _ ∧ _
  match hlike : checkLike s.store s.contentId s.savedId with
  | [] => exact ⟨_, _, rfl, flipped_add hemail hfresh hlike⟩
  | [d] => exact ⟨_, _, rfl, flipped_delete hemail hlike⟩
  | _ :: _ :: _ => simp [hlike] at honce

/-! ## What is shown -/

/-- What an answer to a query makes the screen show. -/
def decode (query : LikeQuery) (f : List (DocId × Document) → String) (answer : LikeAnswer) :
    Option String :=
  if answer.1.query = query then answer.2.map f else none

/-- The screen need not show what the query finds: a callback has failed or is going to,
or the tap has not been answered, or the query that it has triggered has not been
evaluated. -/
def Excused (s : LikeButton) (query : LikeQuery) : Prop :=
  s.missed = true ∨ (∃ a ∈ s.answers, a.1.round = s.taps ∧ a.2 = none) ∨
    (∃ r ∈ s.pending, r.query = .getExistLikeLocation) ∨ ⟨s.taps, query⟩ ∈ s.issued

/-- The screen shows what the query finds, now and after each callback, unless an answer
that is on its way puts it right or the screen is excused. -/
def Displays (s : LikeButton) (query : LikeQuery) (f : List (DocId × Document) → String)
    (excused : Prop) (shown : String) : Prop :=
  Answers.Settles (decode query f) (fun a => a.1 = ⟨s.taps, query⟩) (f (s.ask query))
    (s.Excused query ∨ excused) shown s.answers

variable {f : List (DocId × Document) → String} {excused : Prop} {shown : String}

theorem displays_of_excused (h : s.Excused query) : s.Displays query f excused shown :=
  Answers.settles_of_excused (.inl h)

/-- Evaluating a query takes it from one list to the other. -/
theorem pending_evaluate (h : request ∈ s.issued) (i : Nat) (ok : Bool) :
    s.pending.Perm (s.evaluate request i ok).pending := by
  have hevaluate : (s.evaluate request i ok).pending =
      s.issued.erase request ++ (s.answers.map Prod.fst ++ [request]) := by
    simp [pending, evaluate]
  rw [hevaluate]
  calc
    s.pending.Perm (request :: s.issued.erase request ++ s.answers.map Prod.fst) :=
        (List.perm_cons_erase h).append_right _
    List.Perm _ (s.issued.erase request ++ request :: s.answers.map Prod.fst) :=
        List.perm_middle.symm
    List.Perm _ (s.issued.erase request ++ (s.answers.map Prod.fst ++ [request])) :=
        (List.perm_append_singleton request _).symm.append_left _

/-- A query finds what there is, and its answer is right. -/
theorem Displays.evaluate (h : s.Displays query f excused shown)
    (hf : ∀ documents i, f (List.rotate documents i) = f documents)
    (hrequest : request ∈ s.issued) (i : Nat) (ok : Bool) :
    (s.evaluate request i ok).Displays query f excused shown := by
  have hpending := pending_evaluate hrequest i ok
  by_cases hcurrent : request.round = s.taps ∧ ok = false
  · obtain ⟨hround, rfl⟩ := hcurrent
    exact displays_of_excused (.inr (.inl ⟨_, List.mem_concat_self, hround, rfl⟩))
  have hdecode (hok : ok = true) (hquery : request.query = query) :
      decode query f (request, if ok then some ((s.ask request.query).rotate i) else none) =
        some (f (s.ask query)) := by
    simp [decode, hok, hquery, hf]
  by_cases htriggered : request = ⟨s.taps, query⟩
  · subst htriggered
    have hok : ok = true := by simpa using hcurrent
    exact Answers.settles_snoc_of_heals rfl (hdecode hok rfl)
  · refine (Answers.Settles.snoc h ?_).mono (Or.imp_left ?_)
    · intro b hb
      by_cases hquery : request.query = query
      · cases ok with
        | false => simp [decode] at hb
        | true => exact Option.some.inj (hb.symm.trans (hdecode rfl hquery))
      · simp [decode, hquery] at hb
    · rintro (hmissed | ⟨a, ha, herror⟩ | ⟨r, hr, htap⟩ | hissued)
      · exact .inl hmissed
      · exact .inr (.inl ⟨a, List.mem_append_left _ ha, herror⟩)
      · exact .inr (.inr (.inl ⟨r, hpending.mem_iff.mp hr, htap⟩))
      · exact .inr (.inr (.inr ((List.mem_erase_of_ne (Ne.symm htriggered)).mpr hissued)))

/-- The next callback shows its answer. -/
theorem Displays.next (h : s.Displays query f excused shown)
    (hanswers : s.answers = answer :: answers) (hsome : answer.2 ≠ none)
    (htap : answer.1.query ≠ .getExistLikeLocation) :
    Displays { s with answers } query f excused ((decode query f answer).getD shown) := by
  rw [Displays, hanswers] at h
  refine h.tail.mono (Or.imp_left ?_)
  rintro (hmissed | ⟨a, ha, hround, herror⟩ | ⟨r, hr, hquery⟩ | hissued)
  · exact .inl hmissed
  · rw [hanswers, List.mem_cons] at ha
    have ha := ha.resolve_left fun heq => hsome (heq ▸ herror)
    exact .inr (.inl ⟨a, ha, hround, herror⟩)
  · rw [pending, hanswers, List.map_cons, List.mem_append, List.mem_cons] at hr
    have hr := hr.imp_right fun hr => hr.resolve_left fun heq => htap (heq ▸ hquery)
    exact .inr (.inr (.inl ⟨r, List.mem_append.mpr hr, hquery⟩))
  · exact .inr (.inr (.inr hissued))

/-! ## The invariant -/

/-- How many taps have not been answered. -/
def toggles (s : LikeButton) : Nat := s.pending.countP (·.query = .getExistLikeLocation)

/-- What an answer on its way says: who taps learns whether there is a like now, and the
likes that are counted can be read. -/
def Answered (s : LikeButton) (documents : List (DocId × Document)) : LikeQuery → Prop
  | .getExistLikeLocation => documents = s.ask .getExistLikeLocation
  | .getLikeCount => ∀ d ∈ documents, (d.2.string "email").isSome
  | .checkLikeImage => True

/-- Every like can be read, the user has one at most, there is one unanswered tap at
most, and the screen is right or about to be. -/
structure Inv (had : Prop) (s : LikeButton) : Prop where
  running : s.trapped = false
  email : ∀ d ∈ s.favorites.docs, (d.2.string "email").isSome
  once : (checkLike s.store s.contentId s.savedId).length ≤ 1
  round : ∀ r ∈ s.pending, r.query = .getExistLikeLocation → r.round = s.taps ∧ s.taps ≠ 0
  single : s.toggles ≤ 1
  parity : ∃ flips, s.taps = flips + s.failed + s.toggles ∧ (s.Liked ↔ Xor had (Odd flips))
  answered : ∀ a ∈ s.answers, ∀ documents, a.2 = some documents → s.Answered documents a.1.query
  filled : s.Displays .checkLikeImage image False s.likebtn
  number : s.Displays .getLikeCount number (s.changed = true) s.numberOfLikes

theorem image_rotate (documents : List (DocId × Document)) (i : Nat) :
    image (documents.rotate i) = image documents := by
  have hisEmpty : (documents.rotate i).isEmpty = documents.isEmpty := by
    rw [Bool.eq_iff_iff, List.isEmpty_iff, List.isEmpty_iff, List.rotate_eq_nil_iff]
  rw [image, hisEmpty, image]

theorem number_rotate (documents : List (DocId × Document)) (i : Nat) :
    number (documents.rotate i) = number documents := by
  rw [number, List.length_rotate, number]

/-- One like is listed in one way only. -/
theorem rotate_ask (h : (checkLike s.store s.contentId s.savedId).length ≤ 1) (i : Nat) :
    (s.ask .getExistLikeLocation).rotate i = s.ask .getExistLikeLocation := by
  show (checkLike s.store s.contentId s.savedId).rotate i = checkLike _ _ _
  match hlike : checkLike s.store s.contentId s.savedId with
  | [] => exact List.rotate_nil i
  | [d] => exact List.rotate_singleton d i
  | _ :: _ :: _ => simp [hlike] at h

/-- The trip has been opened. -/
theorem inv_viewDidLoad {store : Store} {contentId : DocId} {savedId : String}
    (hemail : ∀ d ∈ (store.sub .favorite contentId).docs, (d.2.string "email").isSome)
    (honce : (checkLike store contentId savedId).length ≤ 1) (likebtn numberOfLikes : String) :
    Inv (checkLike store contentId savedId ≠ [])
      (viewDidLoad store contentId savedId likebtn numberOfLikes) where
  running := rfl
  email := hemail
  once := honce
  round r hr hquery := by
    have hr : r = ⟨0, .getLikeCount⟩ ∨ r = ⟨0, .checkLikeImage⟩ := by
      simpa [viewDidLoad, getLikeCount, LikeButton.request, pending] using hr
    rcases hr with rfl | rfl <;> cases hquery
  single := Nat.zero_le 1
  parity := ⟨0, rfl, by simp [Liked, viewDidLoad, getLikeCount, LikeButton.request, Xor]⟩
  answered a ha := by cases ha
  filled := displays_of_excused (.inr (.inr (.inr (List.mem_cons_of_mem _ List.mem_cons_self))))
  number := displays_of_excused (.inr (.inr (.inr List.mem_cons_self)))

/-- The button is tapped when nothing is left of the tap before. -/
theorem Inv.clickLikeBtn (h : s.Inv had) (hidle : s.taps ≠ 0 → s.Idle) :
    s.clickLikeBtn.Inv had := by
  have hnone : ∀ r ∈ s.pending, r.query ≠ .getExistLikeLocation := by
    intro r hr hquery
    obtain ⟨hround, htaps⟩ := h.round r hr hquery
    exact hidle htaps r hr hround
  have hzero : s.toggles = 0 := List.countP_eq_zero.mpr fun r hr => by simpa using hnone r hr
  have hone : s.clickLikeBtn.toggles = s.toggles + 1 := List.countP_cons_of_pos (by simp)
  have hpending : ∀ query, s.clickLikeBtn.Excused query := fun query =>
    .inr (.inr (.inl ⟨⟨s.taps + 1, .getExistLikeLocation⟩, List.mem_cons_self, rfl⟩))
  obtain ⟨flips, htaps, hparity⟩ := h.parity
  exact {
    running := h.running
    email := h.email
    once := h.once
    round := fun r hr hquery => by
      rcases List.mem_cons.mp hr with rfl | hr
      · exact ⟨rfl, Nat.succ_ne_zero _⟩
      · exact absurd hquery (hnone r hr)
    single := by omega
    parity := by
      refine ⟨flips, ?_, hparity⟩
      show s.taps + 1 = flips + s.failed + _
      omega
    answered := h.answered
    filled := displays_of_excused (hpending _)
    number := displays_of_excused (hpending _) }

/-- A query is evaluated. -/
theorem Inv.evaluate (h : s.Inv had) (hrequest : request ∈ s.issued) (i : Nat) (ok : Bool) :
    (s.evaluate request i ok).Inv had := by
  have hpending := pending_evaluate hrequest i ok
  have htoggles : (s.evaluate request i ok).toggles = s.toggles := (hpending.countP_eq _).symm
  exact {
    running := h.running
    email := h.email
    once := h.once
    round := fun r hr => h.round r (hpending.mem_iff.mpr hr)
    single := htoggles ▸ h.single
    parity := htoggles ▸ h.parity
    answered := fun a ha documents hdocuments => by
      rcases List.mem_append.mp ha with ha | ha
      · exact h.answered a ha documents hdocuments
      · cases List.mem_singleton.mp ha
        obtain ⟨-, hdocuments⟩ := Option.ite_none_right_eq_some.mp hdocuments
        obtain rfl := Option.some.inj hdocuments
        obtain ⟨round, query⟩ := request
        cases query with
        | getExistLikeLocation => exact rotate_ask h.once i
        | checkLikeImage => trivial
        | getLikeCount => exact fun d hd => h.email d (List.mem_rotate.mp hd)
    filled := h.filled.evaluate image_rotate hrequest i ok
    number := h.number.evaluate number_rotate hrequest i ok }

/-- The next answer leaves the queue. -/
theorem pending_next (h : s.answers = answer :: answers) :
    s.pending.Perm (answer.1 :: pending { s with answers }) := by
  rw [pending, h]
  exact List.perm_middle

theorem toggles_next (h : s.answers = answer :: answers) :
    s.toggles = toggles { s with answers } +
      if answer.1.query = .getExistLikeLocation then 1 else 0 := by
  rw [toggles, (pending_next h).countP_eq, List.countP_cons]
  simp only [decide_eq_true_eq]
  rfl

/-- Whatever the next callback does to the screen, the queries behind it are as before. -/
theorem Inv.next (h : s.Inv had) (hanswers : s.answers = answer :: answers) :
    (∀ r ∈ pending { s with answers }, r.query = .getExistLikeLocation →
      r.round = s.taps ∧ s.taps ≠ 0) ∧
    ∀ a ∈ answers, ∀ documents, a.2 = some documents → s.Answered documents a.1.query := by
  constructor
  · intro r hr
    exact h.round r ((pending_next hanswers).mem_iff.mpr (List.mem_cons_of_mem _ hr))
  · intro a ha
    exact h.answered a (hanswers ▸ List.mem_cons_of_mem _ ha)

/-- A callback reports an error. -/
theorem Inv.callback_none (h : s.Inv had) {request : LikeRequest}
    (hanswers : s.answers = (request, none) :: answers) (id : DocId) :
    (callback { s with answers } id (request, none)).Inv had := by
  have htoggles := toggles_next hanswers
  obtain ⟨hround, hanswered⟩ := h.next hanswers
  obtain ⟨flips, htaps, hparity⟩ := h.parity
  have hsingle := h.single
  obtain ⟨round, query⟩ := request
  cases query with
  | getExistLikeLocation =>
      rw [if_pos rfl] at htoggles
      exact { h with
        round := hround
        single := by
          show toggles { s with answers } ≤ 1
          omega
        parity := by
          refine ⟨flips, ?_, hparity⟩
          show s.taps = flips + (s.failed + 1) + toggles { s with answers }
          omega
        answered := hanswered
        filled := displays_of_excused (.inl rfl)
        number := displays_of_excused (.inl rfl) }
  | checkLikeImage | getLikeCount =>
      rw [if_neg (by simp)] at htoggles
      exact { h with
        round := hround
        single := by
          show toggles { s with answers } ≤ 1
          omega
        parity := by
          refine ⟨flips, ?_, hparity⟩
          show s.taps = flips + s.failed + toggles { s with answers }
          omega
        answered := hanswered
        filled := displays_of_excused (.inl rfl)
        number := displays_of_excused (.inl rfl) }

/-- A tap is answered, and no other tap is waiting. -/
theorem inv_getExistLikeLocationDone (hrunning : s.trapped = false)
    (hemail : ∀ d ∈ s.favorites.docs, (d.2.string "email").isSome)
    (honce : (checkLike s.store s.contentId s.savedId).length ≤ 1)
    (hfresh : s.favorites.get id = none) (htoggles : s.toggles = 0) {flips : Nat}
    (htaps : s.taps = flips + s.failed + 1) (hparity : s.Liked ↔ Xor had (Odd flips))
    (hanswered : ∀ a ∈ s.answers, ∀ documents, a.2 = some documents →
      s.Answered documents a.1.query) :
    (s.getExistLikeLocationDone s.taps id (s.ask .getExistLikeLocation)).Inv had := by
  obtain ⟨store, likebtn, heq, hflipped⟩ := exists_flipped hemail honce hfresh s.taps
  have hnone : ∀ r ∈ s.pending, r.query ≠ .getExistLikeLocation :=
    fun r hr => by simpa using List.countP_eq_zero.mp htoggles r hr
  have hcount : toggles (getLikeCount { s with store, likebtn } s.taps) = s.toggles := by
    rw [toggles, toggles, getLikeCount, LikeButton.request, LikeButton.request, pending, pending]
    rw [List.cons_append, List.cons_append, List.countP_cons_of_neg (by simp),
      List.countP_cons_of_neg (by simp)]
  have hnew : ∀ r ∈ pending (getLikeCount { s with store, likebtn } s.taps),
      r.query ≠ .getExistLikeLocation :=
    fun r hr => by simpa using List.countP_eq_zero.mp (hcount.trans htoggles) r hr
  rw [heq]
  exact {
    running := hrunning
    email := hflipped.email
    once := hflipped.once
    round := fun r hr hquery => absurd hquery (hnew r hr)
    single := by omega
    parity := by
      refine ⟨flips + 1, ?_, ?_⟩
      · rw [hcount]
        show s.taps = flips + 1 + s.failed + s.toggles
        omega
      · refine hflipped.flipped.trans ((not_congr hparity).trans ?_)
        rw [Nat.odd_add_one, Xor, Xor]
        tauto
    answered := fun a ha documents hdocuments => by
      have hold := hanswered a ha documents hdocuments
      have htap := hnone a.1 (List.mem_append_right _ (List.mem_map_of_mem ha))
      revert hold
      generalize a.1.query = query at htap
      cases query with
      | getExistLikeLocation => exact absurd rfl htap
      | checkLikeImage | getLikeCount => exact fun hold => hold
    filled := displays_of_excused (.inr (.inr (.inr (List.mem_cons_of_mem _ List.mem_cons_self))))
    number := displays_of_excused (.inr (.inr (.inr List.mem_cons_self))) }

theorem Inv.getExistLikeLocationDone (h : s.Inv had) {round : Nat}
    (hanswers : s.answers = (⟨round, .getExistLikeLocation⟩, some documents) :: answers)
    (hfresh : s.favorites.get id = none) :
    (LikeButton.getExistLikeLocationDone { s with answers } round id documents).Inv had := by
  have htoggles := toggles_next hanswers
  obtain ⟨flips, htaps, hparity⟩ := h.parity
  have hsingle := h.single
  rw [if_pos rfl] at htoggles
  have hround : round = s.taps := (h.round ⟨round, .getExistLikeLocation⟩
    ((pending_next hanswers).mem_iff.mpr List.mem_cons_self) rfl).1
  have hdocuments : documents = s.ask .getExistLikeLocation :=
    h.answered (⟨round, .getExistLikeLocation⟩, some documents)
      (hanswers ▸ List.mem_cons_self) documents rfl
  subst hdocuments hround
  exact inv_getExistLikeLocationDone (s := { s with answers }) h.running h.email h.once
    hfresh (by omega) (by dsimp only; omega) hparity (h.next hanswers).2

/-- The image is set. -/
theorem Inv.checkLikeImageDone (h : s.Inv had) {round : Nat}
    (hanswers : s.answers = (⟨round, .checkLikeImage⟩, some documents) :: answers) :
    (LikeButton.checkLikeImageDone { s with answers } documents).Inv had := by
  have htoggles : s.toggles = toggles { s with answers } := toggles_next hanswers
  obtain ⟨hround, hanswered⟩ := h.next hanswers
  exact { h with
    round := hround
    single := htoggles ▸ h.single
    parity := htoggles ▸ h.parity
    answered := hanswered
    filled := h.filled.next hanswers (by simp) (by simp)
    number := h.number.next hanswers (by simp) (by simp) }

/-- The likes are counted. -/
theorem Inv.getLikeCountDone (h : s.Inv had) {round : Nat}
    (hanswers : s.answers = (⟨round, .getLikeCount⟩, some documents) :: answers) :
    (LikeButton.getLikeCountDone { s with answers } documents).Inv had := by
  have htoggles : s.toggles = toggles { s with answers } := toggles_next hanswers
  obtain ⟨hround, hanswered⟩ := h.next hanswers
  have hemail : ∀ d ∈ documents, (d.2.string "email").isSome :=
    h.answered (⟨round, .getLikeCount⟩, some documents) (hanswers ▸ List.mem_cons_self)
      documents rfl
  have hlike : ContentViewController.getLikeCountDone documents =
      some (documents.filterMap getLike) :=
    TableView.mapM_of_isSome fun d hd => by simpa [getLike] using hemail d hd
  rw [LikeButton.getLikeCountDone, hlike]
  exact { h with
    round := hround
    single := htoggles ▸ h.single
    parity := htoggles ▸ h.parity
    answered := hanswered
    filled := h.filled.next hanswers (by simp) (by simp)
    number := by
      have hnumber : toString (documents.filterMap getLike).length =
          LikeButton.number documents := by
        rw [LikeButton.number, TableView.length_mapM hlike]
      dsimp only
      rw [hnumber]
      exact h.number.next hanswers (by simp) (by simp) }

/-- The likes of others change. -/
theorem Inv.elsewhere (h : s.Inv had) {store : Store}
    (hemail : ∀ d ∈ (store.sub .favorite s.contentId).docs, (d.2.string "email").isSome)
    (hlike : checkLike store s.contentId s.savedId = checkLike s.store s.contentId s.savedId) :
    Inv had { s with store, changed := true } := by
  obtain ⟨flips, htaps, hparity⟩ := h.parity
  have hfilled := h.filled
  exact {
    running := h.running
    email := hemail
    once := hlike ▸ h.once
    round := h.round
    single := h.single
    parity := ⟨flips, htaps, (not_congr (by rw [hlike])).trans hparity⟩
    answered := fun a ha documents hdocuments => by
      have hold := h.answered a ha documents hdocuments
      revert hold
      generalize a.1.query = query
      cases query with
      | getExistLikeLocation => exact fun hold => hold.trans hlike.symm
      | checkLikeImage | getLikeCount => exact fun hold => hold
    filled := by
      rw [Displays, ask, ← hlike] at hfilled
      exact hfilled
    number := Answers.settles_of_excused (.inr rfl) }

/-- Somebody else takes a like back. -/
theorem checkLike_unliked
    (h : (s.favorites.get id).bind (Document.get · "email") ≠ some (.string s.savedId)) :
    checkLike (s.store.apply (.deleteSub .favorite s.contentId id)) s.contentId s.savedId =
      checkLike s.store s.contentId s.savedId := by
  rw [Likes.checkLike_deleteSub]
  refine List.filter_eq_self.mpr fun d hd => decide_eq_true ?_
  intro hid
  obtain ⟨hget, hsaved⟩ := Collection.mem_query_iff.mp hd
  rw [hid] at hget
  exact h (by rw [favorites, hget]; exact of_decide_eq_true hsaved)

/-- The next callback runs on the first of the answers. -/
theorem exists_of_callback (ht : s.step (.callback id) = some t) : ∃ answer answers,
    s.answers = answer :: answers ∧ s.favorites.get id = none ∧
      callback { s with answers } id answer = t := by
  obtain ⟨-, ht⟩ := Option.ite_none_left_eq_some.mp ht
  dsimp only at ht
  split at ht
  · cases ht
  · next answer answers hanswers =>
    obtain ⟨hfresh, ht⟩ := Option.ite_none_right_eq_some.mp ht
    exact ⟨answer, answers, hanswers, Option.isNone_iff_eq_none.mp hfresh, Option.some.inj ht⟩

/-- One step keeps the invariant. -/
theorem Inv.step (h : s.Inv had) {e : Event} (hc : s.Apart e) (ht : s.step e = some t) :
    t.Inv had := by
  obtain ⟨-, hstep⟩ := Option.ite_none_left_eq_some.mp ht
  cases e with
  | clickLikeBtn => cases hstep; exact h.clickLikeBtn hc
  | evaluated request i ok =>
      obtain ⟨hrequest, ⟨⟩⟩ := Option.ite_none_right_eq_some.mp hstep
      exact h.evaluate hrequest i ok
  | callback id =>
      obtain ⟨⟨⟨round, query⟩, result⟩, answers, hanswers, hfresh, rfl⟩ := exists_of_callback ht
      cases result with
      | none => exact h.callback_none hanswers id
      | some documents =>
          cases query with
          | getExistLikeLocation => exact h.getExistLikeLocationDone hanswers hfresh
          | checkLikeImage => exact h.checkLikeImageDone hanswers
          | getLikeCount => exact h.getLikeCountDone hanswers
  | liked email id =>
      obtain ⟨hfresh, ⟨⟩⟩ := Option.ite_none_right_eq_some.mp hstep
      refine h.elsewhere (Likes.isSome_email_addSub h.email id email) ?_
      rw [Likes.checkLike_addSub (Option.isNone_iff_eq_none.mp hfresh), if_neg hc.2]
  | unliked id =>
      cases hstep
      exact h.elsewhere (Likes.isSome_email_deleteSub h.email id) (checkLike_unliked hc.2)

/-- A step that does not happen elsewhere leaves the documents of others as they are. -/
theorem Inv.sameOthers (h : s.Inv had) {e : Event} (he : e.Own) (ht : s.step e = some t) :
    s.SameOthers t := by
  obtain ⟨-, hstep⟩ := Option.ite_none_left_eq_some.mp ht
  cases e with
  | clickLikeBtn => cases hstep; exact fun _ _ _ => Iff.rfl
  | evaluated request i ok =>
      obtain ⟨-, ⟨⟩⟩ := Option.ite_none_right_eq_some.mp hstep
      exact fun _ _ _ => Iff.rfl
  | callback id =>
      obtain ⟨⟨⟨round, query⟩, result⟩, answers, hanswers, hfresh, rfl⟩ := exists_of_callback ht
      cases result with
      | none => cases query <;> exact fun _ _ _ => Iff.rfl
      | some documents =>
          cases query with
          | getExistLikeLocation =>
              obtain rfl : documents = s.ask .getExistLikeLocation :=
                h.answered (⟨round, .getExistLikeLocation⟩, some documents)
                  (hanswers ▸ List.mem_cons_self) documents rfl
              obtain ⟨store, likebtn, heq, hflipped⟩ := exists_flipped
                (s := { s with answers }) h.email h.once hfresh round
              show s.SameOthers (LikeButton.getExistLikeLocationDone { s with answers } round
                id (ask { s with answers } .getExistLikeLocation))
              rw [heq]
              exact hflipped.others
          | checkLikeImage => exact fun _ _ _ => Iff.rfl
          | getLikeCount =>
              show s.SameOthers (LikeButton.getLikeCountDone { s with answers } documents)
              rw [LikeButton.getLikeCountDone]
              split <;> exact fun _ _ _ => Iff.rfl
  | liked email id | unliked id => exact he.elim

/-! ## Runs of taps -/

variable {s₀ : LikeButton} {es : List Event}

/-- What the counters follow: the taps and the errors so far. -/
structure Counted (es : List Event) (s : LikeButton) : Prop where
  taps : s.taps = es.count .clickLikeBtn
  succeeded : (∀ e ∈ es, e.Succeeds) →
    s.failed = 0 ∧ s.missed = false ∧ ∀ a ∈ s.answers, a.2 ≠ none

/-- A callback without an error leaves the counters alone. -/
theorem callback_counters (id : DocId) (request : LikeRequest)
    (documents : List (DocId × Document)) :
    let t := s.callback id (request, some documents)
    t.taps = s.taps ∧ t.failed = s.failed ∧ t.missed = s.missed ∧ t.answers = s.answers := by
  obtain ⟨round, query⟩ := request
  cases query with
  | getExistLikeLocation =>
      simp only [callback, getExistLikeLocationDone]
      split <;> exact ⟨rfl, rfl, rfl, rfl⟩
  | checkLikeImage => exact ⟨rfl, rfl, rfl, rfl⟩
  | getLikeCount =>
      simp only [callback, getLikeCountDone]
      split <;> exact ⟨rfl, rfl, rfl, rfl⟩

/-- An error does not count as a tap. -/
theorem callback_none_taps (id : DocId) (request : LikeRequest) :
    (s.callback id (request, none)).taps = s.taps := by
  obtain ⟨round, query⟩ := request
  cases query <;> rfl

theorem Counted.step (h : Counted es s) {e : Event} (ht : s.step e = some t) :
    Counted (es ++ [e]) t := by
  obtain ⟨-, hstep⟩ := Option.ite_none_left_eq_some.mp ht
  have hother (hne : e ≠ .clickLikeBtn) : s.taps = (es ++ [e]).count .clickLikeBtn := by
    rw [h.taps, List.count_append, List.count_singleton, if_neg (by simpa using hne)]
    rfl
  have hbefore (hall : ∀ e' ∈ es ++ [e], e'.Succeeds) := h.succeeded fun e' he' =>
    hall e' (List.mem_append_left _ he')
  cases e with
  | clickLikeBtn =>
      cases hstep
      constructor
      · rw [List.count_append, ← h.taps]
        rfl
      · intro hall
        exact ⟨(hbefore hall).1, rfl, (hbefore hall).2.2⟩
  | evaluated request i ok =>
      obtain ⟨-, ⟨⟩⟩ := Option.ite_none_right_eq_some.mp hstep
      refine ⟨hother (by simp), ?_⟩
      intro hall
      obtain ⟨hfailed, hmissed, hanswers⟩ := hbefore hall
      refine ⟨hfailed, hmissed, ?_⟩
      intro a ha
      rcases List.mem_append.mp ha with ha | ha
      · exact hanswers a ha
      · have hok : ok = true := hall _ List.mem_concat_self
        cases List.mem_singleton.mp ha
        simp [hok]
  | callback id =>
      obtain ⟨⟨request, result⟩, answers, hanswers, -, rfl⟩ := exists_of_callback ht
      rw [hanswers] at hbefore
      cases result with
      | none =>
          constructor
          · exact (callback_none_taps id request).trans (hother (by simp))
          · intro hall
            exact absurd rfl ((hbefore hall).2.2 _ List.mem_cons_self)
      | some documents =>
          obtain ⟨htaps', hfailed', hmissed', hanswers'⟩ :=
            callback_counters (s := { s with answers }) id request documents
          constructor
          · exact htaps'.trans (hother (by simp))
          · intro hall
            obtain ⟨hfailed, hmissed, hall'⟩ := hbefore hall
            refine ⟨hfailed'.trans hfailed, hmissed'.trans hmissed, ?_⟩
            intro a ha
            rw [hanswers'] at ha
            exact hall' a (List.mem_cons_of_mem _ ha)
  | liked email id =>
      obtain ⟨-, ⟨⟩⟩ := Option.ite_none_right_eq_some.mp hstep
      exact ⟨hother (by simp), hbefore⟩
  | unliked id =>
      cases hstep
      exact ⟨hother (by simp), hbefore⟩

/-- When a tap is over the screen is not excused. -/
theorem Inv.not_excused (h : s.Inv had) (hidle : s.Idle) (hmissed : s.missed = false) :
    ¬s.Excused query := by
  rintro (hmissed' | ⟨a, ha, hround, -⟩ | ⟨r, hr, hquery⟩ | hissued)
  · exact Bool.noConfusion (hmissed.symm.trans hmissed')
  · exact hidle a.1 (List.mem_append_right _ (List.mem_map_of_mem ha)) hround
  · exact hidle r hr (h.round r hr hquery).1
  · exact hidle _ (List.mem_append_left _ hissued) rfl

/-- What is displayed then is right. -/
theorem Displays.eq (h : s.Displays query f excused shown) (hs : s.Inv had) (hidle : s.Idle)
    (hmissed : s.missed = false) (hexcused : ¬excused) : shown = f (s.ask query) := by
  refine Answers.Settles.eq h (not_or.mpr ⟨hs.not_excused hidle hmissed, hexcused⟩) ?_
  intro a ha heq
  refine hidle a.1 (List.mem_append_right _ (List.mem_map_of_mem ha)) ?_
  rw [heq]

/-- What the invariant says when a tap is over. -/
theorem Inv.toggled (h : s.Inv had) (hcount : Counted es s) : Toggled had es s where
  taps := hcount.taps
  running := h.running
  once := h.once
  parity hidle := by
    obtain ⟨flips, htaps, hparity⟩ := h.parity
    have hzero : s.toggles = 0 := List.countP_eq_zero.mpr fun r hr => by
      simpa using fun hquery => hidle r hr (h.round r hr hquery).1
    rw [hparity, htaps, hzero, Nat.add_zero, Nat.add_sub_cancel]
  filled hidle hmissed := by
    rw [h.filled.eq h hidle hmissed not_false, image, Liked]
    change _ ↔ ¬s.ask .checkLikeImage = []
    rw [← List.isEmpty_iff]
    cases (s.ask .checkLikeImage).isEmpty <;> simp
  number hidle hmissed hchanged := h.number.eq h hidle hmissed (by simp [hchanged])
  succeeded hall := ⟨(hcount.succeeded hall).1, (hcount.succeeded hall).2.1⟩

/-- **Taps toggle the like.**  The user has at most one like when the trip is opened, and
every like names its user.  Then whatever the order of the callbacks, and whatever others
like between the taps, the likes and the screen are as they should be when the callbacks
of a tap have run, and nothing but their owners touches the likes of others. -/
theorem steps_toggled {store : Store} {contentId : DocId} {savedId likebtn numberOfLikes : String}
    (hemail : ∀ d ∈ (store.sub .favorite contentId).docs, (d.2.string "email").isSome)
    (honce : (checkLike store contentId savedId).length ≤ 1)
    (h : system.Steps Apart (viewDidLoad store contentId savedId likebtn numberOfLikes) es s) :
    Toggled (checkLike store contentId savedId ≠ []) es s ∧
      ∀ fs e u v, fs ++ [e] <+: es →
        system.Runs (viewDidLoad store contentId savedId likebtn numberOfLikes) fs u →
        system.step u e = some v → e.Own → u.SameOthers v := by
  have hinit := inv_viewDidLoad hemail honce likebtn numberOfLikes
  have hcount : Counted es s := by
    refine h.invariant_history (I := Counted) (fun hI _ hstep => hI.step hstep)
      ⟨rfl, fun _ => ⟨rfl, rfl, ?_⟩⟩
    exact fun a ha => absurd ha List.not_mem_nil
  refine ⟨Inv.toggled (h.invariant (fun hI hc hstep => Inv.step hI hc hstep) hinit) hcount, ?_⟩
  intro fs e u v hfs hu hv
  exact h.forall_steps (P := fun u e v => e.Own → u.SameOthers v)
    (fun hI hc hs => ⟨Inv.step hI hc hs, fun he => hI.sameOthers he hs⟩) hinit hfs hu hv

instance (s : LikeButton) (e : Event) : Decidable (s.Apart e) :=
  match e with
  | .clickLikeBtn => inferInstanceAs (Decidable (_ → _))
  | .liked _ _ | .unliked _ => inferInstanceAs (Decidable (_ ∧ _))
  | .evaluated _ _ _ | .callback _ => inferInstanceAs (Decidable True)

/-- A trip that somebody else likes. -/
def likedTrip : Store := Store.empty.apply (.addSub .favorite "trip" "1" (favorite "x@y.z"))

/-- The user taps before the answers of `viewDidLoad` are there and once more later; in
between somebody takes a like back. -/
def twoTaps : List Event :=
  [.clickLikeBtn, .evaluated ⟨0, .getLikeCount⟩ 0 true,
    .evaluated ⟨1, .getExistLikeLocation⟩ 0 true, .evaluated ⟨0, .checkLikeImage⟩ 0 true,
    .callback "2", .callback "2", .evaluated ⟨1, .getLikeCount⟩ 1 true, .callback "3",
    .evaluated ⟨1, .checkLikeImage⟩ 0 true, .callback "3", .callback "3", .unliked "1",
    .clickLikeBtn, .evaluated ⟨2, .getExistLikeLocation⟩ 0 true, .callback "3",
    .evaluated ⟨2, .checkLikeImage⟩ 0 true, .evaluated ⟨2, .getLikeCount⟩ 0 true,
    .callback "3", .callback "3"]

theorem twoTaps_toggled : ∃ s,
    system.Steps Apart (viewDidLoad likedTrip "trip" "a@b.c" "suit.heart" "0") twoTaps s ∧
      s.numberOfLikes = "0" ∧
      Toggled (checkLike likedTrip "trip" "a@b.c" ≠ []) twoTaps s := by
  obtain ⟨s, hrun, hnumber⟩ := EventSystem.exists_steps_of_exec system Apart
    (viewDidLoad likedTrip "trip" "a@b.c" "suit.heart" "0") twoTaps
    (fun s => s.numberOfLikes = "0") (by decide +kernel)
  exact ⟨s, hrun, of_decide_eq_true hnumber, (steps_toggled (by decide) (by decide) hrun).1⟩

end LikeButton

end Groute
