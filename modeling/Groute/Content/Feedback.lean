import Groute.Content.DetailsScreen
import Groute.Content.Visitors

/-!
# All screens over one database

Users open trips on first and on second screens, send reviews and press the buttons of both.
The second screens listen.  The first ones ask, and learn of what the others have written
only when they ask again.

`Feedback` is the database with any number of both.  What an event of one screen writes is
a write from elsewhere for all others.  Reviews are neither lost nor sent twice, all screens
that have heard of everything show the same, and in the end nothing is on its way.
-/

namespace Groute

namespace DetailsScreen

open ContentViewController

/-- What an event writes. -/
def written (s : DetailsScreen) : Event → Option Write
  | .writeReview id now =>
      if s.reviewTextField = "" then none
      else some (.addSub .comment s.contentId id (comment s.reviewTextField s.savedId now))
  | .callback id _ => s.answers.head?.bind fun answer =>
      if answer.1 = .getExistLikeLocation then answer.2.map (toggle s.contentId id s.savedId)
      else none
  | .elsewhere w => some w
  | .typed _ | .clickLikeBtn | .evaluated _ _ _ => none

/-- The event happens on the screen itself. -/
def isOwn : Event → Bool
  | .elsewhere _ => false
  | .typed _ | .writeReview _ _ | .clickLikeBtn | .evaluated _ _ _ | .callback _ _ => true

/-- Somebody else writes, or not. -/
def observe (w : Option Write) (s : DetailsScreen) : DetailsScreen := w.elim s s.elsewhere

variable {sorter : Sorter Comment} {s t : DetailsScreen} {e : Event} {es : List Event}
  {w : Write} {id : DocId} {documents : Documents} {answers : List DetailsAnswer}

/-- An event writes what it is said to write. -/
theorem store_step (h : s.step sorter e = some t) :
    t.screen.store = s.screen.store.after (s.written e) ∧ t.contentId = s.contentId ∧
      t.savedId = s.savedId := by
  obtain ⟨-, hstep⟩ := Option.ite_none_left_eq_some.mp h
  cases e with
  | typed | clickLikeBtn | elsewhere =>
      cases hstep
      exact ⟨rfl, rfl, rfl⟩
  | evaluated query i ok =>
      obtain ⟨-, ⟨⟩⟩ := Option.ite_none_right_eq_some.mp hstep
      exact ⟨rfl, rfl, rfl⟩
  | writeReview id now =>
      obtain ⟨-, ⟨⟩⟩ := Option.ite_none_right_eq_some.mp hstep
      rw [writeReview, written]
      split
      · exact ⟨rfl, rfl, rfl⟩
      · exact ⟨rfl, rfl, rfl⟩
  | callback id now =>
      obtain ⟨⟨query, result⟩, answers, hanswers, -, rfl⟩ := exists_of_callback h
      rw [written, hanswers, List.head?_cons, Option.bind_some]
      cases result with
      | none => split <;> exact ⟨rfl, rfl, rfl⟩
      | some documents =>
          by_cases hquery : query = .getExistLikeLocation
          · subst hquery
            obtain ⟨likebtn, hhandle⟩ := exists_handle_getExistLikeLocation sorter s.savedId id now
              s.screen documents
            rw [callback_getExistLikeLocation (s := { s with answers }) hhandle, if_pos rfl]
            exact ⟨rfl, rfl, rfl⟩
          · rw [if_neg hquery, callback]
            split
            · exact ⟨rfl, rfl, rfl⟩
            · next screen hhandle =>
              rw [if_neg hquery]
              obtain ⟨hid, hstore⟩ := handle_frame_of_ne hquery hhandle
              exact ⟨hstore, hid, rfl⟩

/-- It writes a new document about its trip that can be read, or deletes one. -/
theorem new_written (he : isOwn e) (h : s.step sorter e = some t) (hw : s.written e = some w) :
    w.New s.screen.store ∧ w.WellFormed ∧ w.target = s.contentId := by
  obtain ⟨-, hstep⟩ := Option.ite_none_left_eq_some.mp h
  cases e with
  | typed | clickLikeBtn | evaluated => cases hw
  | elsewhere => cases he
  | writeReview id now =>
      obtain ⟨hfresh, -⟩ := Option.ite_none_right_eq_some.mp hstep
      obtain ⟨-, ⟨⟩⟩ := Option.ite_none_left_eq_some.mp hw
      exact ⟨hfresh, ⟨rfl, rfl, rfl⟩, rfl⟩
  | callback id now =>
      obtain ⟨⟨query, result⟩, answers, hanswers, hfresh, -⟩ := exists_of_callback h
      rw [written, hanswers, List.head?_cons, Option.bind_some] at hw
      obtain ⟨-, hw⟩ := Option.ite_none_right_eq_some.mp hw
      obtain ⟨documents, -, rfl⟩ := Option.map_eq_some_iff.mp hw
      obtain ⟨htarget, -, hwell⟩ := toggle_frame s.contentId id s.savedId documents
      refine ⟨?_, hwell, htarget⟩
      cases documents with
      | nil => exact Option.isNone_iff_eq_none.mpr hfresh
      | cons document documents => trivial

/-- A screen has come from a run of its own. -/
def Ran (sorter : Sorter Comment) (s : DetailsScreen) : Prop :=
  ∃ (store : Store) (savedId : String) (texts : Details) (es : List Event), store.WellFormed ∧
    (system sorter).Steps WritesWell (viewDidLoad store savedId texts) es s

theorem Ran.sound_fed (h : Ran sorter s) :
    s.Sound ∧ ∀ query, query ≠ .getExistLikeLocation → s.Fed sorter query := by
  obtain ⟨store, savedId, texts, es, hstore, hrun⟩ := h
  exact sound_fed_steps hstore hrun

/-- The run goes on. -/
theorem Ran.step (h : Ran sorter s) (hc : s.WritesWell e) (ht : s.step sorter e = some t) :
    Ran sorter t := by
  obtain ⟨store, savedId, texts, es, hstore, hrun⟩ := h
  exact ⟨store, savedId, texts, es ++ [e], hstore, hrun.snoc hc ht⟩

/-- For a screen, the writes of the others come from elsewhere. -/
theorem Ran.observe (h : Ran sorter s) {w : Option Write} (hw : ∀ w', w = some w' → w'.WellFormed) :
    Ran sorter (s.observe w) := by
  cases w with
  | none => exact h
  | some w =>
      have hc : s.WritesWell (.elsewhere w) := hw w rfl
      exact h.step hc (if_neg (by simp [h.sound_fed.1.running]))

/-- What is left of the presses: each has to be evaluated and answered. -/
def presses (s : DetailsScreen) : Nat :=
  2 * s.issued.count .getExistLikeLocation + (s.answers.map Prod.fst).count .getExistLikeLocation

/-- What is left of all queries. -/
def waiting (s : DetailsScreen) : Nat := 2 * s.issued.length + s.answers.length

/-- A query is evaluated, or the next callback runs. -/
def Progress : Event → Prop
  | .evaluated _ _ _ | .callback _ _ => True
  | .typed _ | .writeReview _ _ | .clickLikeBtn | .elsewhere _ => False

/-- There is one press less to answer, or one other query. -/
theorem progress_cases (he : Progress e) (h : s.step sorter e = some t) :
    t.presses < s.presses ∨
      t.presses = s.presses ∧ t.waiting < s.waiting ∧ s.written e = none := by
  obtain ⟨-, hstep⟩ := Option.ite_none_left_eq_some.mp h
  cases e with
  | typed | writeReview | clickLikeBtn | elsewhere => exact he.elim
  | evaluated query i ok =>
      obtain ⟨hquery, ⟨⟩⟩ := Option.ite_none_right_eq_some.mp hstep
      have hpos := List.count_pos_iff.mpr hquery
      have hlength := List.length_erase_of_mem hquery
      have hne := List.length_pos_of_mem hquery
      by_cases hpress : query = .getExistLikeLocation
      · subst hpress
        refine .inl ?_
        simp only [presses, evaluate, List.count_erase_self, List.map_append, List.map_cons,
          List.map_nil, List.count_append, List.count_singleton_self]
        omega
      · refine .inr ⟨?_, ?_, rfl⟩
        · simp only [presses, evaluate, List.map_append, List.map_cons, List.map_nil,
            List.count_append, List.count_erase_of_ne (Ne.symm hpress),
            List.count_singleton, beq_iff_eq, hpress, if_false, Nat.add_zero]
        · simp only [waiting, evaluate, List.length_append, List.length_singleton, hlength]
          omega
  | callback id now =>
      obtain ⟨⟨query, result⟩, answers, hanswers, -, rfl⟩ := exists_of_callback h
      have hpresses : s.presses = presses { s with answers } +
          if query = .getExistLikeLocation then 1 else 0 := by
        simp only [presses, hanswers, List.map_cons, List.count_cons, beq_iff_eq]
        omega
      have hwaiting : s.waiting = waiting { s with answers } + 1 := by
        simp only [waiting, hanswers, List.length_cons]
        omega
      by_cases hpress : query = .getExistLikeLocation
      · subst hpress
        refine .inl ?_
        have hcallback : presses (callback { s with answers } sorter id now
            (.getExistLikeLocation, result)) = presses { s with answers } := by
          cases result with
          | none => rfl
          | some documents =>
              obtain ⟨likebtn, hhandle⟩ := exists_handle_getExistLikeLocation sorter s.savedId id
                now s.screen documents
              rw [callback_getExistLikeLocation (s := { s with answers }) hhandle]
              rfl
        rw [if_pos rfl] at hpresses
        omega
      · have hcallback : presses (callback { s with answers } sorter id now (query, result)) =
              presses { s with answers } ∧
            waiting (callback { s with answers } sorter id now (query, result)) =
              waiting { s with answers } := by
          cases result with
          | none => exact ⟨rfl, rfl⟩
          | some documents =>
              rw [callback]
              split
              · exact ⟨rfl, rfl⟩
              · rw [if_neg hpress]
                exact ⟨rfl, rfl⟩
        rw [if_neg hpress] at hpresses
        refine .inr ⟨by omega, by omega, ?_⟩
        rw [written, hanswers, List.head?_cons, Option.bind_some, if_neg hpress]

/-- As long as a query has not been answered, it can be evaluated, or the next callback can
run. -/
theorem exists_progress (hsound : s.Sound) (sorter : Sorter Comment) (h : s.pending ≠ []) :
    ∃ e t, Progress e ∧ isOwn e ∧ s.step sorter e = some t := by
  cases hissued : s.issued with
  | cons query issued =>
      refine ⟨.evaluated query 0 true, s.evaluate query 0 true, trivial, rfl, ?_⟩
      rw [step, if_neg (by simp [hsound.running])]
      exact if_pos (hissued ▸ List.mem_cons_self)
  | nil =>
      cases hanswers : s.answers with
      | nil => exact absurd (by simp [pending, hissued, hanswers]) h
      | cons answer answers =>
          obtain ⟨id, hid⟩ := Infinite.exists_notMem_finset (s.favorites.docs.map Prod.fst).toFinset
          rw [List.mem_toFinset] at hid
          have hfresh : s.favorites.get id = none :=
            Collection.get_eq_none_iff.mpr fun d hd => hid (List.mem_map_of_mem hd)
          refine ⟨.callback id fun _ => 0,
            callback { s with answers } sorter id (fun _ => 0) answer, trivial, rfl, ?_⟩
          rw [step, if_neg (by simp [hsound.running])]
          simp only [hanswers, hfresh, Option.isNone_none, if_true]

/-- They are in the database. -/
theorem store_observe (s : DetailsScreen) (w : Option Write) :
    (s.observe w).screen.store = s.screen.store.after w := by
  cases w <;> rfl

end DetailsScreen

/-! ## What the second screens write -/

namespace Visitors

open RouteFeeds hiding contentId written

/-- What an event writes. -/
def write (v : Visitors) : Event → Option Write
  | .opened _ _ => none
  | .screen i e => v.screens[i]?.bind fun r => r.written e
  | .elsewhere w => some w

/-- The second screens after a write, if there is one. -/
def after (v : Visitors) (w : Option Write) : Visitors := w.elim v fun w =>
  { store := v.store.apply w, screens := v.screens.map (observe (v.store.apply w)) }

variable {sorter : Sorter Comment} {v v' : Visitors} {e : Event}

/-- An event writes what it is said to write. -/
theorem store_write (h : v.Inv sorter) (hv : v.step sorter e = some v') :
    v'.store = v.store.after (v.write e) := by
  cases e with
  | opened contentId currentUser =>
      cases hv
      rfl
  | screen i e =>
      obtain ⟨hown, r, r', hi, hr, rfl⟩ := step_screen hv
      rw [write, hi, Option.bind_some, ← (h.screens r (List.mem_of_getElem? hi)).1]
      exact RouteFeeds.store_step hr
  | elsewhere w =>
      obtain ⟨-, ⟨⟩⟩ := Option.ite_none_right_eq_some.mp hv
      rfl

theorem store_after (v : Visitors) (w : Option Write) : (v.after w).store = v.store.after w := by
  cases w <;> rfl

/-- What it writes can be read. -/
theorem wellFormed_write {w : Write} (hc : v.Connected e) (hv : v.step sorter e = some v')
    (hw : v.write e = some w) : w.WellFormed := by
  cases e with
  | opened => cases hw
  | screen i e =>
      obtain ⟨hown, r, r', hi, hr, -⟩ := step_screen hv
      rw [write, hi, Option.bind_some] at hw
      exact (RouteFeeds.new_written hown hr hw).2.1
  | elsewhere w =>
      cases hw
      exact hc

/-- A write from elsewhere. -/
theorem Inv.after (h : v.Inv sorter) {w : Option Write}
    (hw : ∀ w', w = some w' → w'.New v.store ∧ w'.WellFormed) : (v.after w).Inv sorter := by
  cases w with
  | none => exact h
  | some w =>
      obtain ⟨hnew, hwell⟩ := hw w rfl
      have hc : v.Connected (.elsewhere w) := hwell
      exact h.step hc (if_pos hnew)

end Visitors

/-! ## The system -/

/-- The second screens with their database, and the first screens. -/
structure Feedback where
  visitors : Visitors
  guests : List DetailsScreen := []

namespace Feedback

/-- What can happen. -/
inductive Event where
  /-- A user opens a trip on a first screen. -/
  | opened (savedId : String) (texts : ContentViewController.Details)
  /-- Something happens on the `i`-th first screen. -/
  | guest (i : Nat) (e : DetailsScreen.Event)
  /-- Something happens on the second screens, or something else writes. -/
  | visitors (e : Visitors.Event)

/-- The database. -/
def store (f : Feedback) : Store := f.visitors.store

/-- The state after an event. -/
def step (sorter : Sorter Comment) (f : Feedback) : Event → Option Feedback
  | .opened savedId texts =>
      some { f with guests := f.guests ++ [.viewDidLoad f.store savedId texts] }
  | .guest i e =>
      if DetailsScreen.isOwn e then
        f.guests[i]?.bind fun s => (s.step sorter e).map fun s' =>
          { visitors := f.visitors.after (s.written e)
            guests := (f.guests.map (DetailsScreen.observe (s.written e))).set i s' }
      else none
  | .visitors e => (f.visitors.step sorter e).map fun visitors =>
      { visitors, guests := f.guests.map (DetailsScreen.observe (f.visitors.write e)) }

/-- All screens. -/
def system (sorter : Sorter Comment) : EventSystem Feedback Event := ⟨step sorter⟩

/-- Others write documents that can be read, and no listener is lost. -/
def Connected (f : Feedback) : Event → Prop
  | .visitors e => f.visitors.Connected e
  | .opened _ _ | .guest _ _ => True

instance (f : Feedback) (e : Event) : Decidable (f.Connected e) :=
  match e with
  | .visitors e => inferInstanceAs (Decidable (f.visitors.Connected e))
  | .opened _ _ | .guest _ _ => inferInstanceAs (Decidable True)

variable {sorter : Sorter Comment} {f f' : Feedback} {e : Event} {es : List Event}
  {s s' : DetailsScreen} {r : RouteFeeds} {store : Store} {contentId : DocId} {i : Nat}

/-- All screens are over the same database, and each has come from a run of its own. -/
structure Inv (sorter : Sorter Comment) (f : Feedback) : Prop where
  visitors : f.visitors.Inv sorter
  guests : ∀ s ∈ f.guests, s.screen.store = f.store ∧ s.Ran sorter

/-- The first screens after a write. -/
theorem Inv.observe (h : f.Inv sorter) {w : Option Write}
    (hw : ∀ w', w = some w' → w'.WellFormed) :
    ∀ s ∈ f.guests.map (DetailsScreen.observe w),
      s.screen.store = f.store.after w ∧ s.Ran sorter := by
  intro s' hs'
  obtain ⟨s, hs, rfl⟩ := List.mem_map.mp hs'
  obtain ⟨hstore, hran⟩ := h.guests s hs
  rw [DetailsScreen.store_observe, hstore]
  exact ⟨rfl, hran.observe hw⟩

/-- What happens on a first screen. -/
theorem step_guest {e : DetailsScreen.Event} (hf : f.step sorter (.guest i e) = some f') :
    DetailsScreen.isOwn e = true ∧ ∃ s s', f.guests[i]? = some s ∧ s.step sorter e = some s' ∧
      f' = { visitors := f.visitors.after (s.written e)
             guests := (f.guests.map (DetailsScreen.observe (s.written e))).set i s' } := by
  obtain ⟨hown, hf⟩ := Option.ite_none_right_eq_some.mp hf
  obtain ⟨s, hi, hf⟩ := Option.bind_eq_some_iff.mp hf
  obtain ⟨s', hs, hf⟩ := Option.map_eq_some_iff.mp hf
  exact ⟨hown, s, s', hi, hs, hf.symm⟩

/-- One step keeps the invariant. -/
theorem Inv.step (h : f.Inv sorter) (hc : f.Connected e) (hf : f.step sorter e = some f') :
    f'.Inv sorter := by
  cases e with
  | opened savedId texts =>
      cases hf
      refine { h with guests := fun s hs => ?_ }
      rcases List.mem_append.mp hs with hs | hs
      · exact h.guests s hs
      · obtain rfl := List.mem_singleton.mp hs
        exact ⟨rfl, f.store, savedId, texts, [], h.visitors.store, .nil _⟩
  | guest i e =>
      obtain ⟨hown, s, s', hi, hs, rfl⟩ := step_guest hf
      obtain ⟨hstore, hran⟩ := h.guests s (List.mem_of_getElem? hi)
      have hwrite : ∀ w, s.written e = some w → w.New f.store ∧ w.WellFormed := by
        intro w hw
        obtain ⟨hnew, hwell, -⟩ := DetailsScreen.new_written hown hs hw
        exact ⟨hstore ▸ hnew, hwell⟩
      have hvisitors := h.visitors.after hwrite
      have hconnected : s.WritesWell e := by
        cases e with
        | elsewhere => cases hown
        | typed | writeReview | clickLikeBtn | evaluated | callback => trivial
      refine ⟨hvisitors, fun s₁ hs₁ => ?_⟩
      show s₁.screen.store = (f.visitors.after (s.written e)).store ∧ s₁.Ran sorter
      rw [Visitors.store_after]
      show s₁.screen.store = f.store.after (s.written e) ∧ s₁.Ran sorter
      rcases List.mem_or_eq_of_mem_set hs₁ with hs₁ | rfl
      · exact h.observe (fun w hw => (hwrite w hw).2) s₁ hs₁
      · rw [← hstore]
        exact ⟨(DetailsScreen.store_step hs).1, hran.step hconnected hs⟩
  | visitors e =>
      obtain ⟨visitors, hv, rfl⟩ := Option.map_eq_some_iff.mp hf
      refine ⟨h.visitors.step hc hv, fun s hs => ?_⟩
      rw [store, Visitors.store_write h.visitors hv]
      exact h.observe (fun w hw => Visitors.wellFormed_write hc hv hw) s hs

/-- A run keeps it. -/
theorem Inv.steps (h : f.Inv sorter) (hf : (system sorter).Steps Connected f es f') :
    f'.Inv sorter :=
  hf.invariant (fun hI hc hf => hI.step hc hf) h

/-- Nothing is open at the start. -/
theorem inv_start (h : store.WellFormed) : Inv sorter { visitors := { store } } :=
  ⟨⟨h, fun _ hr => absurd hr List.not_mem_nil⟩, fun _ hs => absurd hs List.not_mem_nil⟩

/-! ## What is shown -/

/-- What a screen shows of the likes and the reviews of its trip, and whether its user likes
the trip as far as it knows. -/
structure View where
  /-- On a first screen, the heart is filled.  On a second one, the property of this name: the
  handler that sets it does not reload, so the heart shown may be older. -/
  isExist : Bool
  likeCount : String
  review : List Comment
  reviewCount : String

/-- A review as it was written, without its age. -/
def record (document : DocId × Document) : Option Comment :=
  (ContentViewController.getReview 0 document).map Visitors.written

/-- The reviews are shown. -/
structure View.Reviews (view : View) (comments : Documents) : Prop where
  review : (view.review.map Visitors.written).Perm (comments.filterMap record)
  reviewCount : view.reviewCount = "(" ++ toString comments.length ++ ")"
  newestFirst : DetailsScreen.NewestFirst view.review

/-- The likes are shown, and it is known whether the user is among those who like the trip. -/
structure View.Likes (view : View) (own likes : Documents) : Prop where
  isExist : view.isExist = !own.isEmpty
  likeCount : view.likeCount = toString likes.length

/-- Two screens show the same, but for the ages of the reviews and the order of reviews of one
instant. -/
structure View.Agree (view view' : View) : Prop where
  likeCount : view.likeCount = view'.likeCount
  review : (view.review.map Visitors.written).Perm (view'.review.map Visitors.written)
  reviewCount : view.reviewCount = view'.reviewCount

/-- The first screen. -/
def guestView (s : DetailsScreen) : View where
  isExist := s.screen.vc.likebtn = "suit.heart.fill"
  likeCount := s.screen.vc.numberOfLikes
  review := s.screen.collectionView.review
  reviewCount := s.screen.vc.reviewCount

/-- The second screen. -/
def visitorView (r : RouteFeeds) : View where
  isExist := r.screen.vc.isExist
  likeCount := toString r.screen.collectionView.likeCount
  review := r.screen.collectionView.review
  reviewCount := r.screen.collectionView.reviewCount

/-- A query has been answered, and nothing has been missed since it was issued. -/
def Answered (s : DetailsScreen) (query : DetailsQuery) : Prop :=
  query ∉ s.pending ∧ s.missed query = false

instance (s : DetailsScreen) (query : DetailsQuery) : Decidable (Answered s query) :=
  inferInstanceAs (Decidable (_ ∧ _))

/-- The view of a screen that has heard of everything, for which trip and for whom. -/
inductive UpToDate (f : Feedback) : View → DocId → Option String → Prop
  | guest {s : DetailsScreen} : s ∈ f.guests → Answered s .getReview → Answered s .getLikeCount →
      Answered s .checkLikeImage → UpToDate f (guestView s) s.contentId (some s.savedId)
  | visitor {r : RouteFeeds} : r ∈ f.visitors.screens → r.Quiet →
      UpToDate f (visitorView r) r.contentId r.currentUser

variable {documents : Documents} {review : List Comment} {now : DocId → Date}
  {view view' : View} {own likes comments : Documents}

/-- The clock decides only about the ages. -/
theorem record_eq (now : Date) (document : DocId × Document) :
    (ContentViewController.getReview now document).map Visitors.written = record document := by
  rw [record, ContentViewController.getReview, ContentViewController.getReview]
  cases document.2.date "timestamp" with
  | none => rfl
  | some timestamp =>
      cases document.2.string "email" with
      | none => rfl
      | some email => cases document.2.string "comment" <;> rfl

/-- What the first screen reads. -/
theorem map_written_of_mapM
    (h : (documents.mapM fun d => ContentViewController.getReview (now d.1) d) = some review) :
    review.map Visitors.written = documents.filterMap record := by
  rw [← TableView.filterMap_of_mapM h, List.map_filterMap]
  exact List.filterMap_congr fun d _ => record_eq (now d.1) d

/-- The second screen reads the same, where all fields are there. -/
theorem getReview_eq {document : DocId × Document} (h : Sub.comment.Fields document.2)
    (now : Date) : ContentRouteViewController.getReview now document =
      ContentViewController.getReview now document := by
  obtain ⟨hcomment, hemail, htimestamp⟩ := h
  obtain ⟨comment, hcomment⟩ := Option.isSome_iff_exists.mp hcomment
  obtain ⟨email, hemail⟩ := Option.isSome_iff_exists.mp hemail
  obtain ⟨timestamp, htimestamp⟩ := Option.isSome_iff_exists.mp htimestamp
  have hread : ContentViewController.getReview now document =
      some { email, content := comment, timestamp,
             calcTime := ContentViewController.calTime (now - timestamp) } := by
    rw [ContentViewController.getReview, htimestamp, hemail, hcomment]
    rfl
  rw [hread]
  exact ContentRouteViewController.getReview_of_getReview hread

/-- The reviews on a first screen. -/
theorem reviews_guest (h : s.Ran sorter) (hanswered : Answered s .getReview) :
    (guestView s).Reviews s.comments.docs := by
  obtain ⟨hsound, hfed⟩ := h.sound_fed
  obtain ⟨reviews, now, review, hperm, hreview, hsorted, hcount⟩ :=
    (hfed .getReview (by rintro ⟨⟩)).shows hanswered.1 hanswered.2
  have hshown : (guestView s).review = s.screen.vc.review := hsound.collectionView
  refine ⟨?_, hcount, hshown ▸ hsound.newestFirst⟩
  rw [hshown, hsorted]
  calc
    List.Perm _ (review.map Visitors.written) := (sorter.perm_sort _ review).map _
    List.Perm _ (reviews.filterMap record) := .of_eq (map_written_of_mapM hreview)
    List.Perm _ (s.comments.docs.filterMap record) := hperm.filterMap _

/-- The likes. -/
theorem likes_guest (h : s.Ran sorter) (hcount : Answered s .getLikeCount)
    (hcheck : Answered s .checkLikeImage) :
    (guestView s).Likes (s.find .checkLikeImage) s.favorites.docs := by
  obtain ⟨-, hfed⟩ := h.sound_fed
  obtain ⟨-, hlikes⟩ := (hfed .getLikeCount (by rintro ⟨⟩)).shows hcount.1 hcount.2
  have himage : s.screen.vc.likebtn = LikeButton.image (s.find .checkLikeImage) :=
    (hfed .checkLikeImage (by rintro ⟨⟩)).shows hcheck.1 hcheck.2
  refine ⟨?_, hlikes⟩
  show decide (s.screen.vc.likebtn = "suit.heart.fill") = _
  rw [himage, LikeButton.image]
  cases (s.find .checkLikeImage).isEmpty <;> rfl

/-- The reviews on a second screen. -/
theorem reviews_visitor (h : r.Sound) (hcurrent : r.Current sorter) :
    (visitorView r).Reviews r.comments.docs := by
  obtain ⟨now, review, hreview, hsorted⟩ := hcurrent.review
  have hread : (r.comments.docs.mapM fun d => ContentViewController.getReview (now d.1) d) =
      some review := by
    rw [← hreview]
    refine TableView.mapM_congr fun d hd => ?_
    exact (getReview_eq (h.store.sub (Collection.mem_docs_iff.mp hd)) _).symm
  refine ⟨?_, hcurrent.reviewCount, ?_⟩
  · rw [visitorView, hsorted, ← map_written_of_mapM hread]
    exact (sorter.perm_sort _ review).map _
  · rw [visitorView, hsorted]
    exact DetailsScreen.newestFirst_sort sorter review

/-- The likes. -/
theorem likes_visitor (hcurrent : r.Current sorter) :
    (visitorView r).Likes (r.result .checkLikeImage) r.favorites.docs := by
  refine ⟨?_, congrArg toString hcurrent.likeCount⟩
  show r.screen.vc.isExist = _
  rw [Bool.eq_iff_iff, hcurrent.isExist, Bool.not_eq_true', ← Bool.not_eq_true, List.isEmpty_iff]

variable {user user' : Option String}

/-- The view of a screen that has heard of everything is that of the database. -/
theorem Inv.upToDate (h : f.Inv sorter) (hup : UpToDate f view contentId user) :
    view.Reviews (f.store.sub .comment contentId).docs ∧
      view.Likes (user.elim [] (ContentViewController.checkLike f.store contentId))
        (f.store.sub .favorite contentId).docs := by
  cases hup with
  | guest hs hreview hcount hcheck =>
      obtain ⟨hstore, hran⟩ := h.guests _ hs
      rw [← hstore]
      exact ⟨reviews_guest hran hreview, likes_guest hran hcount hcheck⟩
  | visitor hr hquiet =>
      obtain ⟨hstore, hran⟩ := h.visitors.screens _ hr
      obtain ⟨hsound, hfed⟩ := hran.sound_fed
      have hcurrent := hfed.current hsound hquiet
      rw [store, ← hstore]
      exact ⟨reviews_visitor hsound hcurrent, likes_visitor hcurrent⟩

/-- Two such screens show the same. -/
theorem View.Reviews.agree (h : view.Reviews comments) (h' : view'.Reviews comments)
    {own' : Documents} (hlikes : view.Likes own likes) (hlikes' : view'.Likes own' likes) :
    view.Agree view' where
  likeCount := hlikes.likeCount.trans hlikes'.likeCount.symm
  review := h.review.trans h'.review.symm
  reviewCount := h.reviewCount.trans h'.reviewCount.symm

/-- **Both screens tell the same.**  Users send reviews and press buttons on any number of
first and second screens, in any order and however late queries are answered and snapshots
received.  Nothing traps, and whatever a screen that has heard of everything shows is what the
database holds: any two of them, of either kind, agree about a trip, and two of one user also
about whether the user likes it, which on a second screen is its `isExist`. -/
theorem steps_consistent (h₀ : store.WellFormed)
    (h : (system sorter).Steps Connected { visitors := { store } } es f) :
    (∀ s ∈ f.guests, s.trapped = false) ∧ (∀ r ∈ f.visitors.screens, r.trapped = false) ∧
      ∀ view contentId user, UpToDate f view contentId user →
        view.Reviews (f.store.sub .comment contentId).docs ∧
        view.Likes (user.elim [] (ContentViewController.checkLike f.store contentId))
          (f.store.sub .favorite contentId).docs ∧
        ∀ view' user', UpToDate f view' contentId user' →
          view.Agree view' ∧ (user = user' → view.isExist = view'.isExist) := by
  have hI := (inv_start h₀).steps h
  refine ⟨?_, ?_, ?_⟩
  · exact fun s hs => (hI.guests s hs).2.sound_fed.1.running
  · exact fun r hr => (hI.visitors.screens r hr).2.sound_fed.1.running
  · intro view contentId user hup
    obtain ⟨hreviews, hlikes⟩ := hI.upToDate hup
    refine ⟨hreviews, hlikes, fun view' user' hup' => ?_⟩
    obtain ⟨hreviews', hlikes'⟩ := hI.upToDate hup'
    refine ⟨hreviews.agree hreviews' hlikes hlikes', ?_⟩
    rintro rfl
    exact hlikes.isExist.trans hlikes'.isExist.symm

/-- A user sends a review and likes the trip on a first screen, with a second one open. -/
def conversation : List Event :=
  let guest (e : DetailsScreen.Event) : Event := .guest 0 e
  let asked (query : DetailsQuery) : Event := guest (.evaluated query 0 true)
  let callback (id : DocId) : Event := guest (.callback id fun _ => 90)
  let received (feed : RouteFeed) : Event :=
    .visitors (.screen 0 (.delivered feed 0 "3" fun _ => 90))
  [.opened "a@b.c" (DetailsScreen.storyboard "trip"), .visitors (.opened "trip" (some "a@b.c")),
    guest (.typed "nice"), guest (.writeReview "1" 0), guest .clickLikeBtn,
    asked .getExistLikeLocation, callback "2", asked .getReview, asked .getReview,
    asked .getLikeCount, asked .getLikeCount, asked .checkLikeImage, asked .checkLikeImage,
    callback "3", callback "3", callback "3", callback "3", callback "3", callback "3",
    received .getReview, received .getReview, received .checkLikeImage, received .checkLikeImage,
    received .getLikeCount, received .getLikeCount]

/-- Both screens have heard of everything. -/
def conversed (f : Feedback) : Bool :=
  f.guests.any fun s => f.visitors.screens.any fun r =>
    decide (Answered s .getReview ∧ Answered s .getLikeCount ∧ Answered s .checkLikeImage ∧
      r.Quiet ∧ s.contentId = "trip" ∧ r.contentId = "trip")

theorem exists_of_conversed (h : f.conversed = true) : ∃ s ∈ f.guests, ∃ r ∈ f.visitors.screens,
    UpToDate f (guestView s) "trip" (some s.savedId) ∧
      UpToDate f (visitorView r) "trip" r.currentUser := by
  obtain ⟨s, hs, h⟩ := List.any_eq_true.mp h
  obtain ⟨r, hr, h⟩ := List.any_eq_true.mp h
  obtain ⟨hreview, hcount, hcheck, hquiet, hid, hid'⟩ := of_decide_eq_true h
  refine ⟨s, hs, r, hr, ?_, ?_⟩
  · exact hid ▸ .guest hs hreview hcount hcheck
  · exact hid' ▸ .visitor hr hquiet

theorem conversation_consistent : ∃ f view view' user user',
    (system .insertion).Steps Connected { visitors := { store := .empty } } conversation f ∧
      UpToDate f view "trip" user ∧ UpToDate f view' "trip" user' ∧ view.Agree view' := by
  obtain ⟨f, hrun, hconversed⟩ := EventSystem.exists_steps_of_exec (system .insertion) Connected
    { visitors := { store := .empty } } conversation conversed (by decide +kernel)
  obtain ⟨s, -, r, -, hguest, hvisitor⟩ := exists_of_conversed hconversed
  obtain ⟨-, -, hshown⟩ := steps_consistent Store.wellFormed_empty hrun
  obtain ⟨-, -, hagree⟩ := hshown _ _ _ hguest
  exact ⟨f, _, _, _, _, hrun, hguest, hvisitor, (hagree _ _ hvisitor).1⟩

/-! ## Reviews -/

/-- The review of a trip that an event sends. -/
def reviewed (contentId : DocId) (f : Feedback) : Event → Documents
  | .guest i (.writeReview id now) => (f.guests[i]?.bind fun s =>
      if s.contentId = contentId ∧ s.reviewTextField ≠ "" then
        some (id, ContentViewController.comment s.reviewTextField s.savedId now)
      else none).toList
  | .guest _ (.typed _) | .guest _ (.clickLikeBtn) | .guest _ (.evaluated _ _ _)
  | .guest _ (.callback _ _) | .guest _ (.elsewhere _) | .opened _ _ | .visitors _ => []

/-- All reviews of a trip that a run sends, the last one first. -/
def sent (sorter : Sorter Comment) (contentId : DocId) : Feedback → List Event → Documents
  | _, [] => []
  | f, e :: es => ((f.step sorter e).elim [] fun f' => sent sorter contentId f' es) ++
      reviewed contentId f e

/-- The other features of the app leave the reviews of a trip alone. -/
def Undisturbed (contentId : DocId) (f : Feedback) : Event → Prop
  | .visitors (.elsewhere w) => w.WellFormed ∧ ¬(w.target = contentId ∧ w.into = some .comment)
  | .visitors (.screen i e) => f.visitors.Connected (.screen i e)
  | .visitors (.opened _ _) | .opened _ _ | .guest _ _ => True

instance (contentId : DocId) (f : Feedback) (e : Event) : Decidable (f.Undisturbed contentId e) :=
  match e with
  | .visitors (.elsewhere _) => inferInstanceAs (Decidable (_ ∧ ¬_))
  | .visitors (.screen i e) => inferInstanceAs (Decidable (f.visitors.Connected (.screen i e)))
  | .visitors (.opened _ _) | .opened _ _ | .guest _ _ => inferInstanceAs (Decidable True)

theorem Undisturbed.connected (h : f.Undisturbed contentId e) : f.Connected e := by
  cases e with
  | visitors e =>
      cases e with
      | opened | screen => exact h
      | elsewhere => exact h.1
  | opened | guest => trivial

/-- The second screens write no reviews, and the other features none of the trip. -/
theorem Undisturbed.write {e : Visitors.Event} {w : Write} {visitors : Visitors}
    (hc : f.Undisturbed contentId (.visitors e)) (hv : f.visitors.step sorter e = some visitors)
    (hw : f.visitors.write e = some w) : ¬(w.target = contentId ∧ w.into = some .comment) := by
  cases e with
  | opened => cases hw
  | screen i e =>
      obtain ⟨hown, r, r', hi, hr, -⟩ := Visitors.step_screen hv
      rw [Visitors.write, hi, Option.bind_some] at hw
      rintro ⟨-, hinto⟩
      cases hinto.symm.trans (RouteFeeds.new_written hown hr hw).2.2
  | elsewhere w' =>
      cases hw
      exact hc.2

/-- A query of a first screen is evaluated, its next callback runs, or a listener of a second
screen receives a snapshot. -/
def Progress (f : Feedback) : Event → Prop
  | .opened _ _ => False
  | .guest _ e => DetailsScreen.Progress e
  | .visitors e => f.visitors.Delivery e

/-- Nothing is on its way. -/
def Rest (f : Feedback) : Prop := (∀ s ∈ f.guests, s.pending = []) ∧ f.visitors.Quiet

/-- The sum over the first screens. -/
def total (measure : DetailsScreen → Nat) (f : Feedback) : Nat := (f.guests.map measure).sum

/-- What is left of the presses on first screens; what waits for the second screens; what is
left of all queries of first screens.  A press on a first screen is answered once, and only it
or a snapshot makes the second screens receive more. -/
def rank (f : Feedback) : Nat × (Nat × Nat × Nat × Nat) × Nat :=
  (f.total DetailsScreen.presses, f.visitors.rank, f.total DetailsScreen.waiting)

/-- The order of the ranks. -/
def Below : Nat × (Nat × Nat × Nat × Nat) × Nat → Nat × (Nat × Nat × Nat × Nat) × Nat → Prop :=
  Prod.Lex (· < ·) (Prod.Lex RouteFeeds.Below (· < ·))

theorem wellFounded_below : WellFounded Below :=
  WellFounded.prod_lex wellFounded_lt
    (WellFounded.prod_lex RouteFeeds.wellFounded_below wellFounded_lt)

/-- The first screens do not ask again when somebody else writes. -/
theorem map_observe {measure : DetailsScreen → Nat}
    (hmeasure : ∀ s w, measure (s.elsewhere w) = measure s) (guests : List DetailsScreen)
    (w : Option Write) : (guests.map (DetailsScreen.observe w)).map measure =
      guests.map measure := by
  rw [List.map_map]
  refine List.map_congr_left fun s _ => ?_
  cases w with
  | none => rfl
  | some w => exact hmeasure s w

/-- So only the screen itself counts. -/
theorem total_guest (measure : DetailsScreen → Nat)
    (hmeasure : ∀ s w, measure (s.elsewhere w) = measure s) (hi : f.guests[i]? = some s)
    (visitors : Visitors) (w : Option Write) (s' : DetailsScreen) :
    total measure { visitors, guests := (f.guests.map (DetailsScreen.observe w)).set i s' } +
      measure s = f.total measure + measure s' := by
  have hi' : (f.guests.map measure)[i]? = some (measure s) := by
    rw [List.getElem?_map, hi, Option.map_some]
  obtain ⟨before, after, hsplit, -, hset⟩ := Removal.set_split hi'
  rw [total, total, List.map_set, map_observe hmeasure, hset, hsplit]
  simp only [List.sum_append, List.sum_cons]
  omega

/-- Progress makes the rank smaller. -/
theorem below_of_progress (h : f.Inv sorter) (hc : f.Progress e)
    (hf : f.step sorter e = some f') : Below f'.rank f.rank := by
  cases e with
  | opened => exact hc.elim
  | guest i e =>
      obtain ⟨-, s, s', hi, hs, rfl⟩ := step_guest hf
      have hpresses := total_guest DetailsScreen.presses (fun _ _ => rfl) hi
        (f.visitors.after (s.written e)) (s.written e) s'
      have hwaiting := total_guest DetailsScreen.waiting (fun _ _ => rfl) hi
        (f.visitors.after (s.written e)) (s.written e) s'
      rw [Below, Prod.lex_def, Prod.lex_def]
      obtain hless | ⟨hsame, hless, hwritten⟩ := DetailsScreen.progress_cases hc hs
      · left
        show total _ _ < total _ _
        omega
      · right
        rw [hwritten] at hpresses hwaiting ⊢
        refine ⟨?_, .inr ⟨rfl, ?_⟩⟩
        · show total _ _ = total _ _
          omega
        · show total _ _ < total _ _
          omega
  | visitors e =>
      obtain ⟨visitors, hv, rfl⟩ := Option.map_eq_some_iff.mp hf
      have htotal : ∀ measure : DetailsScreen → Nat,
          (∀ s w, measure (s.elsewhere w) = measure s) →
            ((f.guests.map (DetailsScreen.observe (f.visitors.write e))).map measure).sum =
              f.total measure :=
        fun measure hmeasure => congrArg List.sum (map_observe hmeasure f.guests _)
      rw [rank, total, total, htotal _ fun _ _ => rfl, htotal _ fun _ _ => rfl]
      exact .right _ (.left _ _ (Visitors.below_of_delivery h.visitors hc hv))

theorem Progress.connected (h : f.Progress e) : f.Connected e := by
  cases e with
  | visitors e => exact Visitors.Delivery.connected h
  | opened | guest => trivial

/-- As long as something is on its way, it can get further. -/
theorem exists_progress (h : f.Inv sorter) (hrest : ¬f.Rest) :
    ∃ f', (system sorter).Leads Progress f' f := by
  by_cases hguests : ∀ s ∈ f.guests, s.pending = []
  · obtain ⟨visitors, e, hc, hv⟩ :=
      Visitors.exists_delivery h.visitors fun hquiet => hrest ⟨hguests, hquiet⟩
    exact ⟨_, .visitors e, hc, Option.map_eq_some_iff.mpr ⟨visitors, hv, rfl⟩⟩
  · obtain ⟨s, hs⟩ := not_forall.mp hguests
    obtain ⟨hmem, hpending⟩ := Classical.not_imp.mp hs
    obtain ⟨i, hi⟩ := List.mem_iff_getElem?.mp hmem
    obtain ⟨e, s', hc, hown, hstep⟩ := DetailsScreen.exists_progress
      (h.guests s hmem).2.sound_fed.1 sorter hpending
    refine ⟨{
      visitors := f.visitors.after (s.written e)
      guests := (f.guests.map (DetailsScreen.observe (s.written e))).set i s' }, .guest i e, hc, ?_⟩
    show step sorter f (.guest i e) = _
    rw [step, if_pos hown, hi, Option.bind_some, hstep, Option.map_some]

/-- **Everything comes to rest.**  Presses, reviews and the writes of others set off queries,
snapshots and further writes, but not for ever: no run goes on with these only, and they lead
to a state in which nothing is on its way.  Then the second screens show the database, and the
first ones what their queries find, unless they have missed something since. -/
theorem steps_settle (h₀ : store.WellFormed)
    (h : (system sorter).Steps Connected { visitors := { store } } es f) :
    (∀ fs : Nat → Feedback, fs 0 = f →
      ¬∀ n, (system sorter).Leads Progress (fs (n + 1)) (fs n)) ∧
    ∃ gs f', (system sorter).Steps Progress f gs f' ∧ f'.Rest ∧
      (∀ r ∈ f'.visitors.screens, r.screen.store = f'.store ∧ r.Current sorter) ∧
      ∀ s ∈ f'.guests, s.screen.store = f'.store ∧ ∀ query, s.missed query = false →
        DetailsScreen.Shows sorter s.screen.vc (s.find query) query := by
  have hstep : ∀ {f : Feedback} {e f'}, f.Inv sorter → f.Progress e →
      f.step sorter e = some f' → f'.Inv sorter ∧ Below f'.rank f.rank :=
    fun hI hc hf => ⟨hI.step hc.connected hf, below_of_progress hI hc hf⟩
  obtain ⟨hends, gs, f', hrun, hrest, hI⟩ := EventSystem.comes_to_rest wellFounded_below
    (S := system sorter) (Q := Rest) hstep exists_progress ((inv_start h₀).steps h)
  refine ⟨hends, gs, f', hrun, hrest, fun r hr => hI.visitors.current hrest.2 hr, ?_⟩
  intro s hs
  obtain ⟨hstore, hran⟩ := hI.guests s hs
  obtain ⟨hsound, hfed⟩ := hran.sound_fed
  refine ⟨hstore, fun query hmissed => ?_⟩
  by_cases hquery : query = .getExistLikeLocation
  · subst hquery
    trivial
  · refine (hfed query hquery).shows ?_ hmissed
    rw [hrest.1 s hs]
    exact List.not_mem_nil

/-- A user presses the buttons of both screens, and nothing has been answered. -/
def pressed : List Event :=
  [.opened "a@b.c" (DetailsScreen.storyboard "trip"), .visitors (.opened "trip" (some "a@b.c")),
    .guest 0 .clickLikeBtn, .visitors (.screen 0 .likeButtonClicked)]

theorem pressed_settle : ∃ f,
    (system .insertion).Steps Connected { visitors := { store := .empty } } pressed f ∧
      ∃ gs f', (system .insertion).Steps Progress f gs f' ∧ f'.Rest := by
  obtain ⟨f, hrun, -⟩ := EventSystem.exists_steps_of_exec (system .insertion) Connected
    { visitors := { store := .empty } } pressed (fun _ => true) (by decide)
  obtain ⟨-, gs, f', hprogress, hrest, -⟩ := steps_settle Store.wellFormed_empty hrun
  exact ⟨f, hrun, gs, f', hprogress, hrest⟩

end Feedback

end Groute
