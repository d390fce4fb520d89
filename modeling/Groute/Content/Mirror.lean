import Groute.Content.Feedback
import Groute.Lib.Simulation

/-!
# The like button of the first screen

`LikeButton` is the first screen with nothing but its like button; `DetailsScreen` is all of
it, with the trip, its stops, its reviews and whatever others write.  The button does not
notice the rest: along `Mirrors`, every run of the screen is one of the button
(`simulates_mirrors`).

So what the button does on its own it does on the screen.  Presses that wait for the answers
of the one before toggle the like of the user, however many reviews are written and answers
of other queries arrive in between.
-/

namespace Groute

open ContentViewController

/-- The queries that concern the like button. -/
def DetailsQuery.likeQuery : DetailsQuery → Option LikeQuery
  | .getLikeCount => some .getLikeCount
  | .checkLikeImage => some .checkLikeImage
  | .getExistLikeLocation => some .getExistLikeLocation
  | .getContent | .getRoute | .getReview => none

namespace DetailsScreen

/-- An answer that concerns the like button. -/
def likeAnswer (answer : DetailsAnswer) : Option (LikeQuery × Option Documents) :=
  answer.1.likeQuery.map (·, answer.2)

/-- The button shows what the screen shows of likes, over the same likes, and waits for the
same answers. -/
structure Mirrors (s : DetailsScreen) (b : LikeButton) : Prop where
  contentId : b.contentId = s.contentId
  savedId : b.savedId = s.savedId
  favorites : b.favorites = s.favorites
  likebtn : b.likebtn = s.screen.vc.likebtn
  numberOfLikes : b.numberOfLikes = s.screen.vc.numberOfLikes
  like : b.like = s.screen.vc.like
  issued : (b.issued.map LikeRequest.query).Perm (s.issued.filterMap DetailsQuery.likeQuery)
  answers : b.answers.map (fun a => (a.1.query, a.2)) = s.answers.filterMap likeAnswer
  trapped : b.trapped → s.trapped

/-- What an event of the screen for a trip is for the button; some are nothing. -/
inductive Mirrored (contentId : DocId) : Event → Option LikeButton.Event → Prop
  | typed (reviewTextField : String) : Mirrored contentId (.typed reviewTextField) none
  | writeReview (id : DocId) (now : Date) : Mirrored contentId (.writeReview id now) none
  | clickLikeBtn : Mirrored contentId .clickLikeBtn (some .clickLikeBtn)
  | skipped (query : DetailsQuery) (i : Nat) (ok : Bool) (h : query.likeQuery = none) :
      Mirrored contentId (.evaluated query i ok) none
  | evaluated (query : DetailsQuery) (request : LikeRequest) (i : Nat) (ok : Bool)
      (h : query.likeQuery = some request.query) :
      Mirrored contentId (.evaluated query i ok) (some (.evaluated request i ok))
  | answered (id : DocId) (now : DocId → Date) : Mirrored contentId (.callback id now) none
  | callback (id : DocId) (now : DocId → Date) :
      Mirrored contentId (.callback id now) (some (.callback id))
  | elsewhere (w : Write) (h : ¬(w.target = contentId ∧ w.into = some .favorite)) :
      Mirrored contentId (.elsewhere w) none
  | liked (id : DocId) (email : String) :
      Mirrored contentId (.elsewhere (.addSub .favorite contentId id (favorite email)))
        (some (.liked email id))
  | unliked (id : DocId) :
      Mirrored contentId (.elsewhere (.deleteSub .favorite contentId id)) (some (.unliked id))

/-- Likes that are added elsewhere are new, and as the app writes them. -/
def Liking (s : DetailsScreen) : Event → Prop
  | .elsewhere (.addSub .favorite contentId id data) => contentId = s.contentId →
      (s.favorites.get id).isNone ∧ ∃ email, data = favorite email
  | _ => True

variable {sorter : Sorter Comment} {s s' : DetailsScreen} {b : LikeButton} {query : DetailsQuery}
  {q : LikeQuery} {documents : Documents} {screen screen' : Displayed Details} {savedId : String}
  {id : DocId} {now : DocId → Date} {e : Event} {es : List Event} {w : Write}

/-! ## The two screens step by step -/

theorem likeAnswer_of_none (hq : query.likeQuery = none) (result : Option Documents) :
    likeAnswer (query, result) = none := by
  rw [likeAnswer, hq, Option.map_none]

theorem likeAnswer_of_some (hq : query.likeQuery = some q) (result : Option Documents) :
    likeAnswer (query, result) = some (q, result) := by
  rw [likeAnswer, hq, Option.map_some]

/-- The user has the same likes. -/
theorem Mirrors.checkLike (h : Mirrors s b) :
    checkLike b.store b.contentId b.savedId = checkLike s.screen.store s.contentId s.savedId := by
  show b.favorites.query _ = s.favorites.query _
  rw [h.favorites, h.savedId]

/-- The button asks what the screen asks. -/
theorem Mirrors.ask (h : Mirrors s b) (hq : query.likeQuery = some q) :
    b.ask q = s.find query := by
  cases query with
  | getContent | getRoute | getReview => cases hq
  | getLikeCount =>
      cases hq
      exact congrArg Collection.docs h.favorites
  | checkLikeImage | getExistLikeLocation =>
      cases hq
      exact h.checkLike

/-- The other handlers leave alone what the button shows. -/
theorem handle_other (hq : query.likeQuery = none)
    (h : handle sorter savedId id now documents query screen = some screen') :
    screen'.vc.contentId = screen.vc.contentId ∧ screen'.store = screen.store ∧
      screen'.vc.likebtn = screen.vc.likebtn ∧
      screen'.vc.numberOfLikes = screen.vc.numberOfLikes ∧ screen'.vc.like = screen.vc.like := by
  cases query with
  | getContent =>
      cases h
      exact ⟨rfl, rfl, rfl, rfl, rfl⟩
  | getRoute =>
      rw [handle_getRoute] at h
      cases h
      exact ⟨rfl, rfl, rfl, rfl, rfl⟩
  | getReview =>
      obtain ⟨_, -, rfl⟩ := Option.map_eq_some_iff.mp h
      exact ⟨rfl, rfl, rfl, rfl, rfl⟩
  | getLikeCount | checkLikeImage | getExistLikeLocation => cases hq

/-- A query that is evaluated is one less that is not. -/
theorem perm_issued (h : query ∈ s.issued) :
    (s.issued.filterMap DetailsQuery.likeQuery).Perm
      ((query :: s.issued.erase query).filterMap DetailsQuery.likeQuery) :=
  (List.perm_cons_erase h).filterMap _

/-- A query is evaluated on both. -/
theorem Mirrors.evaluate (h : Mirrors s b) (hquery : query ∈ s.issued) (i : Nat) (ok : Bool) :
    (query.likeQuery = none ∧ Mirrors (s.evaluate query i ok) b) ∨
      ∃ request ∈ b.issued, query.likeQuery = some request.query ∧
        Mirrors (s.evaluate query i ok) (b.evaluate request i ok) := by
  have hissued := h.issued.trans (perm_issued hquery)
  cases hq : query.likeQuery with
  | none =>
      rw [List.filterMap_cons_none hq] at hissued
      refine .inl ⟨rfl, { h with issued := hissued, answers := ?_ }⟩
      rw [DetailsScreen.evaluate, List.filterMap_append,
        List.filterMap_cons_none (likeAnswer_of_none hq _), List.filterMap_nil, List.append_nil]
      exact h.answers
  | some q =>
      rw [List.filterMap_cons_some hq] at hissued
      obtain ⟨request, hrequest, rfl⟩ :=
        List.mem_map.mp (hissued.symm.subset List.mem_cons_self)
      refine .inr ⟨request, hrequest, rfl, { h with issued := ?_, answers := ?_ }⟩
      · have hb := (List.perm_cons_erase hrequest).map LikeRequest.query
        exact (hb.symm.trans hissued).cons_inv
      · rw [DetailsScreen.evaluate, List.filterMap_append,
          List.filterMap_cons_some (likeAnswer_of_some hq _), List.filterMap_nil, ← h.answers,
          LikeButton.evaluate, List.map_append, h.ask hq]
        rfl

/-- The queries of `getLikeCount` are issued on both. -/
theorem Mirrors.getLikeCount (h : Mirrors s b) (round : Nat) :
    Mirrors s.getLikeCount (b.getLikeCount round) :=
  { h with issued := (h.issued.cons LikeQuery.checkLikeImage).cons LikeQuery.getLikeCount }

/-- The callback of another query. -/
theorem Mirrors.callback_other (h : Mirrors s b) (hq : query.likeQuery = none)
    (result : Option Documents) :
    Mirrors (s.callback sorter id now (query, result)) b := by
  cases result with
  | none => exact { h with }
  | some documents =>
      rw [DetailsScreen.callback]
      split
      · exact { h with trapped := fun _ => rfl }
      · next screen hscreen =>
        obtain ⟨hcontentId, hstore, hlikebtn, hnumber, hlike⟩ := handle_other hq hscreen
        have hfavorites : screen.store.sub .favorite screen.vc.contentId =
            s.screen.store.sub .favorite s.screen.vc.contentId := by
          rw [hcontentId, hstore]
        rw [if_neg (by rintro rfl; cases hq)]
        exact { h with
          contentId := h.contentId.trans hcontentId.symm
          favorites := h.favorites.trans hfavorites.symm
          likebtn := h.likebtn.trans hlikebtn.symm
          numberOfLikes := h.numberOfLikes.trans hnumber.symm
          like := h.like.trans hlike.symm }

/-- A like is added on both. -/
theorem Mirrors.sub_addSub (h : Mirrors s b) (id : DocId) (data : Document) :
    (b.store.apply (.addSub .favorite b.contentId id data)).sub .favorite b.contentId =
      (s.screen.store.apply (.addSub .favorite s.contentId id data)).sub .favorite
        s.contentId := by
  rw [Store.sub_addSub, Store.sub_addSub]
  exact congrArg (Collection.set · id data) h.favorites

/-- A like is deleted on both. -/
theorem Mirrors.sub_deleteSub (h : Mirrors s b) (id : DocId) :
    (b.store.apply (.deleteSub .favorite b.contentId id)).sub .favorite b.contentId =
      (s.screen.store.apply (.deleteSub .favorite s.contentId id)).sub .favorite
        s.contentId := by
  rw [Store.sub_deleteSub, Store.sub_deleteSub]
  exact congrArg (Collection.erase · id) h.favorites

/-- A press adds a like, or deletes it, on both. -/
theorem Mirrors.getExistLikeLocation (h : Mirrors s b) (round : Nat) (id : DocId)
    (now : DocId → Date) (documents : Documents) :
    Mirrors (s.callback sorter id now (.getExistLikeLocation, some documents))
      (b.getExistLikeLocationDone round id documents) := by
  cases documents with
  | nil =>
      have hadd := h.sub_addSub id (favorite s.savedId)
      have hmirrors : Mirrors
          { s with
            screen := Displayed.set
              (s.screen.write (.addSub .favorite s.contentId id (favorite s.savedId)))
              { s.screen.vc with likebtn := "suit.heart.fill" } }
          { b with
            store := b.store.apply (.addSub .favorite b.contentId id (favorite b.savedId))
            likebtn := "suit.heart.fill" } := by
        rw [h.savedId]
        exact { h with savedId := rfl, likebtn := rfl, favorites := hadd }
      exact hmirrors.getLikeCount round
  | cons document documents =>
      have hdelete := h.sub_deleteSub document.1
      have hmirrors : Mirrors
          { s with
            screen := Displayed.set
              (s.screen.write (.deleteSub .favorite s.contentId document.1))
              { s.screen.vc with likebtn := "suit.heart" } }
          { b with
            store := b.store.apply (.deleteSub .favorite b.contentId document.1)
            likebtn := "suit.heart" } :=
        { h with likebtn := rfl, favorites := hdelete }
      exact hmirrors.getLikeCount round

/-- The callback of a query that concerns the button. -/
theorem Mirrors.callback_like (h : Mirrors s b) {request : LikeRequest}
    (hq : query.likeQuery = some request.query) (result : Option Documents) :
    Mirrors (s.callback sorter id now (query, result)) (b.callback id (request, result)) := by
  obtain ⟨round, q⟩ := request
  cases query with
  | getContent | getRoute | getReview => cases hq
  | checkLikeImage =>
      cases hq
      cases result with
      | none => exact { h with }
      | some documents => exact { h with likebtn := rfl }
  | getLikeCount =>
      cases hq
      cases result with
      | none => exact { h with }
      | some documents =>
          have hhandle : handle sorter s.savedId id now documents .getLikeCount s.screen =
              (getLikeCountDone documents).map fun like =>
                s.screen.set { s.screen.vc with like, numberOfLikes := toString like.length } :=
            rfl
          rw [DetailsScreen.callback, hhandle, LikeButton.callback, LikeButton.getLikeCountDone]
          cases getLikeCountDone documents with
          | none => exact { h with trapped := fun _ => rfl }
          | some like => exact { h with like := rfl, numberOfLikes := rfl }
  | getExistLikeLocation =>
      cases hq
      cases result with
      | none => exact { h with }
      | some documents => exact h.getExistLikeLocation round id now documents

/-- The button runs as long as the screen does. -/
theorem Mirrors.running (h : Mirrors s b) (hrun : s.trapped = false) : b.trapped = false := by
  rw [← Bool.not_eq_true]
  intro htrapped
  have hs := h.trapped htrapped
  rw [hrun] at hs
  cases hs

/-- A write elsewhere that is not a like. -/
theorem Mirrors.elsewhere (h : Mirrors s b)
    (hw : ¬(w.target = s.contentId ∧ w.into = some .favorite)) : Mirrors (s.elsewhere w) b :=
  { h with favorites := h.favorites.trans (Store.sub_apply_of_ne hw).symm }

/-- The next callback runs on both. -/
theorem Mirrors.next (h : Mirrors s b) {answer : DetailsAnswer} {answers : List DetailsAnswer}
    (hanswers : s.answers = answer :: answers) :
    (Mirrors (callback { s with answers } sorter id now answer) b) ∨
      ∃ a rest, b.answers = a :: rest ∧
        Mirrors (callback { s with answers } sorter id now answer)
          (LikeButton.callback { b with answers := rest } id a) := by
  obtain ⟨query, result⟩ := answer
  have hb := h.answers
  rw [hanswers] at hb
  cases hq : query.likeQuery with
  | none =>
      rw [List.filterMap_cons_none (likeAnswer_of_none hq result)] at hb
      have hmirrors : Mirrors { s with answers } b := { h with answers := hb }
      exact .inl (hmirrors.callback_other hq result)
  | some q =>
      rw [List.filterMap_cons_some (likeAnswer_of_some hq result)] at hb
      obtain ⟨⟨request, result'⟩, rest, hba, ha, hrest⟩ := List.map_eq_cons_iff.mp hb
      cases ha
      have hmirrors : Mirrors { s with answers } { b with answers := rest } :=
        { h with answers := hrest }
      exact .inr ⟨_, rest, hba, hmirrors.callback_like hq result'⟩

/-- A like that somebody adds or deletes elsewhere. -/
theorem Mirrors.liked (h : Mirrors s b) (hrun : b.trapped = false)
    (hw : s.Liking (.elsewhere w)) (htarget : w.target = s.contentId)
    (hinto : w.into = some .favorite) :
    ∃ f b', Mirrored s.contentId (.elsewhere w) (some f) ∧ b.step f = some b' ∧
      Mirrors (s.elsewhere w) b' := by
  cases w with
  | addContent | updateContent | deleteContent => cases hinto
  | addSub c contentId id data =>
      cases hinto
      obtain ⟨hfresh, email, rfl⟩ := hw htarget
      have hb : (b.favorites.get id).isNone := by rwa [h.favorites]
      obtain rfl : contentId = s.contentId := htarget
      refine ⟨.liked email id, { b with
        store := b.store.apply (.addSub .favorite b.contentId id (favorite email))
        changed := true }, .liked id email, ?_, ?_⟩
      · rw [LikeButton.step, hrun, if_neg Bool.false_ne_true]
        exact if_pos hb
      · exact { h with favorites := h.sub_addSub id (favorite email) }
  | deleteSub c contentId id =>
      cases hinto
      obtain rfl : contentId = s.contentId := htarget
      refine ⟨.unliked id, { b with
        store := b.store.apply (.deleteSub .favorite b.contentId id)
        changed := true }, .unliked id, ?_, ?_⟩
      · rw [LikeButton.step, hrun, if_neg Bool.false_ne_true]
      · exact { h with favorites := h.sub_deleteSub id }

/-- One event on both. -/
theorem Mirrors.step (h : Mirrors s b) (hliking : s.Liking e)
    (hs : s.step sorter e = some s') :
    (Mirrored s.contentId e none ∧ Mirrors s' b) ∨
      ∃ f b', Mirrored s.contentId e (some f) ∧ b.step f = some b' ∧ Mirrors s' b' := by
  obtain ⟨htrapped, hs⟩ := Option.ite_none_left_eq_some.mp hs
  have hrun : b.trapped = false := h.running (eq_false_of_ne_true htrapped)
  cases e with
  | typed reviewTextField =>
      cases hs
      exact .inl ⟨.typed _, { h with }⟩
  | writeReview id now =>
      obtain ⟨-, ⟨⟩⟩ := Option.ite_none_right_eq_some.mp hs
      refine .inl ⟨.writeReview id now, ?_⟩
      rw [writeReview]
      split
      · exact h
      · exact { h with }
  | clickLikeBtn =>
      cases hs
      refine .inr ⟨.clickLikeBtn, b.clickLikeBtn, .clickLikeBtn, ?_,
        { h with issued := h.issued.cons LikeQuery.getExistLikeLocation }⟩
      rw [LikeButton.step, hrun, if_neg Bool.false_ne_true]
  | evaluated query i ok =>
      obtain ⟨hquery, ⟨⟩⟩ := Option.ite_none_right_eq_some.mp hs
      rcases h.evaluate hquery i ok with ⟨hq, hmirrors⟩ | ⟨request, hrequest, hq, hmirrors⟩
      · exact .inl ⟨.skipped query i ok hq, hmirrors⟩
      · refine .inr ⟨.evaluated request i ok, _, .evaluated query request i ok hq, ?_, hmirrors⟩
        rw [LikeButton.step, hrun, if_neg Bool.false_ne_true]
        exact if_pos hrequest
  | callback id now =>
      cases hanswers : s.answers with
      | nil =>
          simp only [hanswers] at hs
          cases hs
      | cons answer answers =>
          simp only [hanswers] at hs
          obtain ⟨hfresh, ⟨⟩⟩ := Option.ite_none_right_eq_some.mp hs
          rcases h.next hanswers with hmirrors | ⟨a, rest, hba, hmirrors⟩
          · exact .inl ⟨.answered id now, hmirrors⟩
          · refine .inr ⟨.callback id, _, .callback id now, ?_, hmirrors⟩
            rw [LikeButton.step, hrun, if_neg Bool.false_ne_true]
            simp only [hba]
            exact if_pos (by rwa [h.favorites])
  | elsewhere w =>
      cases hs
      by_cases hw : w.target = s.contentId ∧ w.into = some .favorite
      · exact .inr (h.liked hrun hliking hw.1 hw.2)
      · exact .inl ⟨.elsewhere w hw, h.elsewhere hw⟩

/-- The button follows the screen for a trip. -/
theorem simulates_mirrors (sorter : Sorter Comment) (contentId : DocId) :
    EventSystem.Simulates (system sorter) LikeButton.system Liking (fun _ _ => True)
      (Mirrored contentId) fun s b => s.contentId = contentId ∧ Mirrors s b := by
  constructor
  rintro s s' e b ⟨rfl, h⟩ hliking hs
  have hcontentId : s'.contentId = s.contentId := (store_step hs).2.1
  rcases h.step hliking hs with ⟨hm, hmirrors⟩ | ⟨f, b', hm, hb, hmirrors⟩
  · exact .inl ⟨hm, hcontentId, hmirrors⟩
  · exact .inr ⟨f, b', hm, trivial, hb, hcontentId, hmirrors⟩

variable {store : Store} {texts : Details}

/-- Both are loaded alike. -/
theorem mirrors_viewDidLoad (store : Store) (savedId : String) (texts : Details) :
    Mirrors (viewDidLoad store savedId texts)
      (LikeButton.viewDidLoad store texts.contentId savedId texts.likebtn
        texts.numberOfLikes) where
  contentId := rfl
  savedId := rfl
  favorites := rfl
  likebtn := rfl
  numberOfLikes := rfl
  like := rfl
  issued := List.Perm.refl _
  answers := rfl
  trapped := by rintro ⟨⟩

/-- **The screen refines the button.**  Every run of the screen is, event by event, a run of
its like button, which shows the same in the end. -/
theorem steps_mirrored (h : (system sorter).Steps Liking (viewDidLoad store savedId texts) es s) :
    ∃ fs b, List.Forall₂ (Mirrored texts.contentId) es fs ∧
      LikeButton.system.Runs (LikeButton.viewDidLoad store texts.contentId savedId texts.likebtn
        texts.numberOfLikes) fs.reduceOption b ∧ Mirrors s b := by
  obtain ⟨fs, b, hfs, hrun, -, hmirrors⟩ := (simulates_mirrors sorter texts.contentId).run h
    ⟨rfl, mirrors_viewDidLoad store savedId texts⟩
  exact ⟨fs, b, hfs, hrun, hmirrors⟩

/-- A user likes the trip while a review is sent, and wants to take the like back, which
fails. -/
def likedAndReviewed : List Event :=
  [.evaluated .checkLikeImage 0 true, .evaluated .getLikeCount 0 true,
    .callback "1" fun _ => 0, .callback "1" fun _ => 0, .clickLikeBtn, .typed "nice",
    .evaluated .getExistLikeLocation 0 true, .writeReview "1" 0, .evaluated .getReview 0 true,
    .callback "1" fun _ => 0, .evaluated .checkLikeImage 0 true, .callback "2" fun _ => 0,
    .evaluated .getLikeCount 0 true, .callback "2" fun _ => 0, .callback "2" fun _ => 0,
    .clickLikeBtn, .evaluated .getExistLikeLocation 0 false, .callback "2" fun _ => 0]

theorem likedAndReviewed_mirrored : ∃ s fs b,
    List.Forall₂ (Mirrored "trip") likedAndReviewed fs ∧
      LikeButton.system.Runs (LikeButton.viewDidLoad .empty "trip" "a@b.c" "suit.heart" "Label")
        fs.reduceOption b ∧ Mirrors s b := by
  obtain ⟨s, hrun, -⟩ := EventSystem.exists_steps_of_exec (system .insertion) (fun _ _ => True)
    (viewDidLoad .empty "a@b.c" (storyboard "trip")) likedAndReviewed (fun _ => true)
    (by decide +kernel)
  have hliking : ∀ e ∈ likedAndReviewed, ∀ s, Liking s e := by
    simp [likedAndReviewed, Liking]
  obtain ⟨fs, b, hmirrored⟩ := steps_mirrored (hrun.of_forall hliking)
  exact ⟨s, fs, b, hmirrored⟩

/-! ## The answers are awaited -/

/-- All callbacks that concern the button have run. -/
def LikesAnswered (s : DetailsScreen) : Prop := ∀ query ∈ s.pending, query.likeQuery = none

instance (s : DetailsScreen) : Decidable s.LikesAnswered :=
  inferInstanceAs (Decidable (∀ query ∈ s.pending, _))

/-- Somebody else likes the trip, or takes a like back. -/
def Foreign (s : DetailsScreen) : Write → Prop
  | .addSub _ _ id data => (s.favorites.get id).isNone ∧
      ∃ email, email ≠ s.savedId ∧ data = favorite email
  | .deleteSub _ _ id =>
      (s.favorites.get id).bind (Document.get · "email") ≠ some (.string s.savedId)
  | .addContent _ _ | .updateContent _ _ | .deleteContent _ => True

/-- The user presses when the likes have been answered, and others like the trip then, and only
for themselves.  Everything else happens at any time. -/
def Patient (s : DetailsScreen) : Event → Prop
  | .clickLikeBtn => s.LikesAnswered
  | .elsewhere w => w.target = s.contentId → w.into = some .favorite →
      s.LikesAnswered ∧ s.Foreign w
  | .typed _ | .writeReview _ _ | .evaluated _ _ _ | .callback _ _ => True

/-- Such likes are new, and as the app writes them. -/
theorem Patient.liking (h : s.Patient e) : s.Liking e := by
  cases e with
  | typed | writeReview | clickLikeBtn | evaluated | callback => trivial
  | elsewhere w =>
      cases w with
      | addContent | updateContent | deleteContent | deleteSub => trivial
      | addSub c contentId id data =>
          cases c with
          | route | comment => trivial
          | favorite =>
              intro hcontentId
              obtain ⟨-, hfresh, email, -, hdata⟩ := h hcontentId rfl
              exact ⟨hfresh, email, hdata⟩

/-- Then nothing is left that the button waits for. -/
theorem Mirrors.pending_eq_nil (h : Mirrors s b) (hanswered : s.LikesAnswered) :
    b.pending = [] := by
  have hissued : s.issued.filterMap DetailsQuery.likeQuery = [] :=
    List.filterMap_eq_nil_iff.mpr fun query hquery =>
      hanswered query (List.mem_append_left _ hquery)
  have hanswers : s.answers.filterMap likeAnswer = [] := by
    refine List.filterMap_eq_nil_iff.mpr fun answer hanswer => ?_
    exact likeAnswer_of_none
      (hanswered answer.1 (List.mem_append_right _ (List.mem_map_of_mem hanswer))) answer.2
  rw [LikeButton.pending, List.append_eq_nil_iff]
  constructor
  · exact List.map_eq_nil_iff.mp (hissued ▸ h.issued).eq_nil
  · exact List.map_eq_nil_iff.mpr (List.map_eq_nil_iff.mp (h.answers.trans hanswers))

theorem Mirrors.idle (h : Mirrors s b) (hanswered : s.LikesAnswered) : b.Idle := by
  intro r hr
  rw [h.pending_eq_nil hanswered] at hr
  cases hr

/-- For the button, presses do not overlap. -/
theorem Mirrors.apart (h : Mirrors s b) {f : LikeButton.Event} (hc : s.Patient e)
    (hm : Mirrored s.contentId e (some f)) : b.Apart f := by
  cases hm with
  | clickLikeBtn => exact fun _ => h.idle hc
  | evaluated | callback => trivial
  | liked id email =>
      obtain ⟨hanswered, -, email', hne, hemail⟩ := hc rfl rfl
      have hvalue : (favorite email).get "email" = (favorite email').get "email" := by
        rw [hemail]
      cases hvalue
      exact ⟨fun _ => h.idle hanswered, h.savedId ▸ hne⟩
  | unliked id =>
      obtain ⟨hanswered, hne⟩ := hc rfl rfl
      refine ⟨fun _ => h.idle hanswered, ?_⟩
      rw [h.favorites, h.savedId]
      exact hne

/-- Under these conditions the button is used as it is made for. -/
theorem simulates_apart (sorter : Sorter Comment) (contentId : DocId) :
    EventSystem.Simulates (system sorter) LikeButton.system Patient LikeButton.Apart
      (Mirrored contentId) fun s b => s.contentId = contentId ∧ Mirrors s b := by
  refine (simulates_mirrors sorter contentId).strengthen (fun hc => hc.liking) ?_
  rintro s e b f ⟨rfl, h⟩ hc hm -
  exact h.apart hc hm

end DetailsScreen

/-! ## Presses that fail -/

namespace LikeButton

/-- The query of a press fails. -/
def Event.fails : Event → Bool
  | .evaluated ⟨_, .getExistLikeLocation⟩ _ ok => !ok
  | .evaluated ⟨_, .checkLikeImage⟩ _ _ | .evaluated ⟨_, .getLikeCount⟩ _ _ => false
  | .clickLikeBtn | .callback _ | .liked _ _ | .unliked _ => false

/-- The answer of a press is an error. -/
def isFailure (a : LikeAnswer) : Bool := a.1.query = .getExistLikeLocation ∧ a.2 = none

/-- Each press that fails is on its way or has been reported. -/
def CountsFailures (es : List Event) (s : LikeButton) : Prop :=
  s.failed + s.answers.countP isFailure = es.countP Event.fails

variable {s t : LikeButton} {e : Event} {es : List Event}

theorem CountsFailures.step (h : CountsFailures es s) (ht : s.step e = some t) :
    CountsFailures (es ++ [e]) t := by
  have hother (hfails : e.fails = false) :
      s.failed + s.answers.countP isFailure = (es ++ [e]).countP Event.fails := by
    rw [h, List.countP_append, List.countP_singleton, hfails]
    rfl
  obtain ⟨-, hstep⟩ := Option.ite_none_left_eq_some.mp ht
  cases e with
  | clickLikeBtn | unliked =>
      cases hstep
      exact hother rfl
  | liked email id =>
      obtain ⟨-, ⟨⟩⟩ := Option.ite_none_right_eq_some.mp hstep
      exact hother rfl
  | evaluated request i ok =>
      obtain ⟨-, ⟨⟩⟩ := Option.ite_none_right_eq_some.mp hstep
      have hfails :
          isFailure (request, if ok then some ((s.ask request.query).rotate i) else none) =
            Event.fails (.evaluated request i ok) := by
        obtain ⟨round, query⟩ := request
        cases query <;> cases ok <;> rfl
      show s.failed + (s.answers ++ [_]).countP isFailure = _
      rw [List.countP_append, List.countP_singleton, hfails, ← Nat.add_assoc, h,
        List.countP_append, List.countP_singleton]
  | callback id =>
      obtain ⟨⟨request, result⟩, answers, hanswers, -, rfl⟩ := exists_of_callback ht
      have hbefore := hother rfl
      rw [hanswers, List.countP_cons] at hbefore
      cases result with
      | none =>
          obtain ⟨round, query⟩ := request
          cases query with
          | getExistLikeLocation =>
              show s.failed + 1 + answers.countP isFailure = _
              rw [← hbefore, Nat.add_assoc, Nat.add_comm 1]
              rfl
          | checkLikeImage | getLikeCount => exact hbefore
      | some documents =>
          obtain ⟨-, hfailed, -, hanswers'⟩ :=
            callback_counters (s := { s with answers }) id request documents
          have hzero : isFailure (request, some documents) = false := by
            rw [isFailure]
            exact decide_eq_false (by rintro ⟨-, ⟨⟩⟩)
          rw [hzero] at hbefore
          rw [CountsFailures, hfailed, hanswers']
          exact hbefore

end LikeButton

namespace DetailsScreen

/-- The user presses the button. -/
def Event.isPress : Event → Bool
  | .clickLikeBtn => true
  | .typed _ | .writeReview _ _ | .evaluated _ _ _ | .callback _ _ | .elsewhere _ => false

/-- The query of a press fails. -/
def Event.fails : Event → Bool
  | .evaluated .getExistLikeLocation _ ok => !ok
  | .evaluated .getContent _ _ | .evaluated .getRoute _ _ | .evaluated .getReview _ _
  | .evaluated .getLikeCount _ _ | .evaluated .checkLikeImage _ _ => false
  | .typed _ | .writeReview _ _ | .clickLikeBtn | .callback _ _ | .elsewhere _ => false

/-- A query that concerns the button does not fail. -/
def Event.LikesSucceed : Event → Prop
  | .evaluated query _ ok => query.likeQuery ≠ none → ok = true
  | .typed _ | .writeReview _ _ | .clickLikeBtn | .callback _ _ | .elsewhere _ => True

variable {sorter : Sorter Comment} {s : DetailsScreen} {b : LikeButton} {e : Event}
  {es : List Event} {contentId : DocId} {store : Store} {savedId : String} {texts : Details}

/-- Presses are presses of the button. -/
theorem countP_isPress {fs : List (Option LikeButton.Event)}
    (h : List.Forall₂ (Mirrored contentId) es fs) :
    es.countP Event.isPress = fs.reduceOption.count .clickLikeBtn := by
  refine EventSystem.countP_of_matching h ?_ ?_
  · rintro e ⟨⟩ <;> rfl
  · rintro e f ⟨⟩ <;> rfl

/-- They fail on both. -/
theorem countP_fails {fs : List (Option LikeButton.Event)}
    (h : List.Forall₂ (Mirrored contentId) es fs) :
    es.countP Event.fails = fs.reduceOption.countP LikeButton.Event.fails := by
  refine EventSystem.countP_of_matching h ?_ ?_
  · rintro e hm
    cases hm with
    | skipped query i ok hq => cases query <;> first | rfl | cases hq
    | typed | writeReview | answered | elsewhere => rfl
  · rintro e f hm
    cases hm with
    | evaluated query request i ok hq =>
        obtain ⟨round, q⟩ := request
        cases query <;> cases hq <;> rfl
    | clickLikeBtn | callback | liked | unliked => rfl

/-- What does not fail on the screen does not fail for the button. -/
theorem succeeds_of_mirrored {fs : List (Option LikeButton.Event)}
    (h : List.Forall₂ (Mirrored contentId) es fs) (hall : ∀ e ∈ es, e.LikesSucceed) :
    ∀ f ∈ fs.reduceOption, f.Succeeds := by
  intro f hf
  obtain ⟨e, he, hm⟩ := EventSystem.exists_of_matching h hf
  cases hm with
  | evaluated query request i ok hq => exact hall _ he (by rw [hq]; rintro ⟨⟩)
  | clickLikeBtn | callback | liked | unliked => trivial

/-- The user likes the trip. -/
def Liked (s : DetailsScreen) : Prop := checkLike s.screen.store s.contentId s.savedId ≠ []

/-- What the presses have done when they have been answered. -/
structure Toggles (had : Prop) (es : List Event) (s : DetailsScreen) : Prop where
  once : (checkLike s.screen.store s.contentId s.savedId).length ≤ 1
  parity : s.LikesAnswered →
    (s.Liked ↔ Xor had (Odd (es.countP Event.isPress - es.countP Event.fails)))
  filled : s.LikesAnswered → (∀ e ∈ es, e.LikesSucceed) →
    (s.screen.vc.likebtn = "suit.heart.fill" ↔ s.Liked)

/-- What the button knows, the screen does. -/
theorem toggles_of_mirrored {had : Prop} {fs : List (Option LikeButton.Event)}
    (h : Mirrors s b) (hfs : List.Forall₂ (Mirrored contentId) es fs)
    (htoggled : LikeButton.Toggled had fs.reduceOption b)
    (hfailures : LikeButton.CountsFailures fs.reduceOption b) : Toggles had es s where
  once := h.checkLike ▸ htoggled.once
  parity hanswered := by
    have hanswers : b.answers = [] :=
      List.map_eq_nil_iff.mp (List.append_eq_nil_iff.mp (h.pending_eq_nil hanswered)).2
    have htaps : b.taps = es.countP Event.isPress := by rw [htoggled.taps, countP_isPress hfs]
    have hfailed : b.failed = es.countP Event.fails := by
      rw [LikeButton.CountsFailures, hanswers] at hfailures
      rw [countP_fails hfs, ← hfailures]
      rfl
    have hparity := htoggled.parity (h.idle hanswered)
    rwa [LikeButton.Liked, h.checkLike, htaps, hfailed] at hparity
  filled hanswered hall := by
    have hmissed := (htoggled.succeeded (succeeds_of_mirrored hfs hall)).2
    have hfilled := htoggled.filled (h.idle hanswered) hmissed
    rwa [LikeButton.Liked, h.checkLike, h.likebtn] at hfilled

/-- **Presses toggle the like on the screen.**  The user has at most one like when the trip is
opened, and every like names its user.  Whatever reviews are written, whatever the other
queries find and in whatever order all of them are answered, a user who waits for the answers
about likes before each press likes the trip exactly if an odd number of presses, of those that
have not failed, have been answered, or an even number for a trip that was liked before; and
the heart says so unless a query has failed. -/
theorem steps_toggles
    (hemail : ∀ d ∈ (store.sub .favorite texts.contentId).docs, (d.2.string "email").isSome)
    (honce : (checkLike store texts.contentId savedId).length ≤ 1)
    (h : (system sorter).Steps Patient (viewDidLoad store savedId texts) es s) :
    Toggles (checkLike store texts.contentId savedId ≠ []) es s := by
  obtain ⟨fs, b, hfs, hrun, -, hmirrors⟩ := (simulates_apart sorter texts.contentId).run h
    ⟨rfl, mirrors_viewDidLoad store savedId texts⟩
  have hinv : b.Inv (checkLike store texts.contentId savedId ≠ []) :=
    hrun.invariant (fun hI hc hstep => LikeButton.Inv.step hI hc hstep)
      (LikeButton.inv_viewDidLoad hemail honce _ _)
  have hcount : LikeButton.Counted fs.reduceOption b := by
    refine hrun.invariant_history (I := LikeButton.Counted) (fun hI _ hstep => hI.step hstep)
      ⟨rfl, fun _ => ⟨rfl, rfl, ?_⟩⟩
    exact fun a ha => absurd ha List.not_mem_nil
  have hfailures : LikeButton.CountsFailures fs.reduceOption b :=
    hrun.invariant_history (I := LikeButton.CountsFailures) (fun hI _ hstep => hI.step hstep) rfl
  exact toggles_of_mirrored hmirrors hfs (hinv.toggled hcount) hfailures

/-- The user waits, and nobody else writes. -/
def Alone (s : DetailsScreen) : Event → Prop
  | .clickLikeBtn => s.LikesAnswered
  | .elsewhere _ => False
  | .typed _ | .writeReview _ _ | .evaluated _ _ _ | .callback _ _ => True

instance (s : DetailsScreen) (e : Event) : Decidable (s.Alone e) :=
  match e with
  | .clickLikeBtn => inferInstanceAs (Decidable s.LikesAnswered)
  | .elsewhere _ => inferInstanceAs (Decidable False)
  | .typed _ | .writeReview _ _ | .evaluated _ _ _ | .callback _ _ =>
      inferInstanceAs (Decidable True)

theorem Alone.patient (h : s.Alone e) : s.Patient e := by
  cases e with
  | clickLikeBtn => exact h
  | elsewhere w => exact h.elim
  | typed | writeReview | evaluated | callback => trivial

theorem likedAndReviewed_toggles : ∃ s, (system .insertion).Steps Patient
    (viewDidLoad .empty "a@b.c" (storyboard "trip")) likedAndReviewed s ∧ s.Liked := by
  obtain ⟨s, hrun, hanswered⟩ := EventSystem.exists_steps_of_exec (system .insertion) Alone
    (viewDidLoad .empty "a@b.c" (storyboard "trip")) likedAndReviewed
    (fun s => decide s.LikesAnswered) (by decide +kernel)
  have hpatient := hrun.mono fun _ _ hc => hc.patient
  have htoggles := steps_toggles (by rintro d ⟨⟩) (by decide) hpatient
  refine ⟨s, hpatient, (htoggles.parity (of_decide_eq_true hanswered)).mpr ?_⟩
  exact .inr ⟨by decide, fun hnil => hnil rfl⟩

end DetailsScreen

end Groute
