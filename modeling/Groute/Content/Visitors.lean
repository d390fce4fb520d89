import Groute.Content.RouteFeeds

/-!
# Any number of second screens

Each second screen writes while it listens, so the screens of several users trigger each
other: the like that one of them adds is received by all screens for the trip, and on
another device of the same user also by the listeners that write.  The listeners are never
removed and keep their screen alive, so a screen that has been closed goes on.

`Visitors` puts any number of them over one database.  Each behaves as if it were alone
with writes from elsewhere; together they come to rest, and then they agree.
-/

namespace Groute

/-! ## What a screen writes -/

namespace RouteFeeds

open ContentRouteViewController

/-- What an event writes. -/
def written (r : RouteFeeds) : Event → Option Write
  | .delivered .getExistLikeLocation k id _ =>
      ((r.listeners .getExistLikeLocation).deliver k).bind fun snapshot =>
        r.currentUser.map fun currentUser =>
          getExistLikeLocationDone r.contentId id currentUser snapshot.1
  | .delivered .checkLikeImage _ _ _ | .delivered .getLikeCount _ _ _
  | .delivered .getReview _ _ _ | .likeButtonClicked | .failed _ _ => none
  | .elsewhere w => some w

/-- The event happens on the screen itself. -/
def isOwn : Event → Bool
  | .elsewhere _ => false
  | .likeButtonClicked | .delivered _ _ _ _ | .failed _ _ => true

variable {sorter : Sorter Comment} {r r' : RouteFeeds} {e : Event} {w : Write}

/-- A listener that reads writes nothing. -/
theorem written_delivered_of_ne {feed : RouteFeed} (hfeed : feed ≠ .getExistLikeLocation)
    (k : Nat) (id : DocId) (now : DocId → Date) :
    r.written (.delivered feed k id now) = none := by
  cases feed with
  | getExistLikeLocation => exact absurd rfl hfeed
  | checkLikeImage | getLikeCount | getReview => rfl

/-- An event writes what it is said to write. -/
theorem store_step (h : r.step sorter e = some r') :
    r'.screen.store = r.screen.store.after (r.written e) := by
  cases e with
  | likeButtonClicked =>
      obtain ⟨-, ⟨⟩⟩ := Option.ite_none_left_eq_some.mp h
      rfl
  | delivered feed k id now =>
      obtain ⟨documents, listeners, read, hdeliver, hread, -, rfl⟩ := step_delivered h
      by_cases hfeed : feed = .getExistLikeLocation
      · subst hfeed
        obtain ⟨currentUser, hcurrent, rfl⟩ := Option.map_eq_some_iff.mp hread
        rw [store_call_getExistLikeLocation, written, hdeliver, Option.bind_some, hcurrent]
        rfl
      · obtain ⟨screen, trapped, hcall, hstore, -⟩ := exists_call_of_ne
          (r := { r with listeners := Function.update r.listeners feed listeners }) hread hfeed
          documents
        rw [hcall, written_delivered_of_ne hfeed]
        exact hstore
  | failed feed k =>
      obtain ⟨-, h⟩ := Option.ite_none_left_eq_some.mp h
      obtain ⟨-, ⟨⟩⟩ := Option.ite_none_right_eq_some.mp h
      rfl
  | elsewhere w =>
      obtain ⟨-, h⟩ := Option.ite_none_left_eq_some.mp h
      obtain ⟨-, ⟨⟩⟩ := Option.ite_none_right_eq_some.mp h
      rfl

/-- It writes a new like that can be read, or deletes one. -/
theorem new_written (he : isOwn e) (h : r.step sorter e = some r')
    (hw : r.written e = some w) :
    w.New r.screen.store ∧ w.WellFormed ∧ w.into = some .favorite := by
  cases e with
  | likeButtonClicked | failed => cases hw
  | elsewhere => cases he
  | delivered feed k id now =>
      obtain ⟨documents, listeners, read, hdeliver, -, hfresh, -⟩ := step_delivered h
      by_cases hfeed : feed = .getExistLikeLocation
      · subst hfeed
        rw [written, hdeliver, Option.bind_some] at hw
        obtain ⟨currentUser, -, rfl⟩ := Option.map_eq_some_iff.mp hw
        refine ⟨new_getExistLikeLocationDone hfresh .., wellFormed_getExistLikeLocationDone ..,
          ?_⟩
        rw [getExistLikeLocationDone]
        split <;> rfl
      · rw [written_delivered_of_ne hfeed] at hw
        cases hw

end RouteFeeds

/-- The database and the screens, of any users and for any trips. -/
structure Visitors where
  store : Store
  screens : List RouteFeeds := []

namespace Visitors

open RouteFeeds hiding contentId written

/-- What can happen. -/
inductive Event where
  /-- A user opens a trip. -/
  | opened (contentId : DocId) (currentUser : Option String)
  /-- Something happens on the `i`-th screen. -/
  | screen (i : Nat) (e : RouteFeeds.Event)
  /-- Something else writes. -/
  | elsewhere (w : Write)

/-- The database has changed, and the listeners of a screen are notified. -/
def observe (store : Store) (r : RouteFeeds) : RouteFeeds := r.become { r.screen with store }

/-- The state after an event. -/
def step (sorter : Sorter Comment) (v : Visitors) : Event → Option Visitors
  | .opened contentId currentUser =>
      some { v with screens := v.screens ++ [viewDidLoad v.store contentId currentUser] }
  | .screen i e =>
      if isOwn e then
        v.screens[i]?.bind fun r => (RouteFeeds.step sorter r e).map fun r' =>
          { store := r'.screen.store
            screens := (v.screens.map (observe r'.screen.store)).set i r' }
      else none
  | .elsewhere w =>
      if w.New v.store then
        some { store := v.store.apply w, screens := v.screens.map (observe (v.store.apply w)) }
      else none

/-- All screens. -/
def system (sorter : Sorter Comment) : EventSystem Visitors Event := ⟨step sorter⟩

/-- Others write documents that can be read, and no listener is lost. -/
def Connected (_ : Visitors) : Event → Prop
  | .elsewhere w => w.WellFormed
  | .screen _ (.failed _ _) => False
  | .screen _ (.likeButtonClicked) | .screen _ (.delivered _ _ _ _) | .screen _ (.elsewhere _)
  | .opened _ _ => True

/-- A listener of one of the screens receives a snapshot. -/
def Delivery (v : Visitors) : Event → Prop
  | .screen i e => ∃ r, v.screens[i]? = some r ∧ r.Delivery e
  | .opened _ _ | .elsewhere _ => False

instance (v : Visitors) (e : Event) : Decidable (v.Connected e) :=
  match e with
  | .elsewhere w => inferInstanceAs (Decidable w.WellFormed)
  | .screen _ (.failed _ _) => inferInstanceAs (Decidable False)
  | .screen _ (.likeButtonClicked) | .screen _ (.delivered _ _ _ _) | .screen _ (.elsewhere _)
  | .opened _ _ => inferInstanceAs (Decidable True)

/-- Everything has been received. -/
def Quiet (v : Visitors) : Prop := ∀ r ∈ v.screens, r.Quiet

instance (v : Visitors) : Decidable v.Quiet := inferInstanceAs (Decidable (∀ r ∈ v.screens, _))

/-- A review without its age, which depends on when it was read. -/
def written (review : Comment) : Comment := { review with calcTime := "" }

/-- Two screens show the same likes and the same reviews. -/
structure Agree (vc vc' : ContentRouteViewController) : Prop where
  like : vc.like = vc'.like
  likeCount : vc.likeCount = vc'.likeCount
  review : (vc.review.map written).Perm (vc'.review.map written)
  reviewCount : vc.reviewCount = vc'.reviewCount

variable {sorter : Sorter Comment} {v v' : Visitors} {r r' : RouteFeeds} {e : Event}
  {es : List Event} {store : Store} {w : Write} {i : Nat}

/-! ## Each screen for itself -/

/-- A screen has come from a run of its own. -/
def Ran (sorter : Sorter Comment) (r : RouteFeeds) : Prop :=
  ∃ (store : Store) (contentId : DocId) (currentUser : Option String)
    (es : List RouteFeeds.Event), store.WellFormed ∧
      (RouteFeeds.system sorter).Steps RouteFeeds.Connected
        (viewDidLoad store contentId currentUser) es r

theorem Ran.sound_fed (h : Ran sorter r) : r.Sound ∧ r.Fed sorter := by
  obtain ⟨store, contentId, currentUser, es, hstore, hrun⟩ := h
  exact steps_fed hstore hrun

/-- The run goes on. -/
theorem Ran.step {e : RouteFeeds.Event} (h : Ran sorter r) (hc : r.Connected e)
    (hr : RouteFeeds.step sorter r e = some r') : Ran sorter r' := by
  obtain ⟨store, contentId, currentUser, es, hstore, hrun⟩ := h
  exact ⟨store, contentId, currentUser, es ++ [e], hstore, hrun.snoc hc hr⟩

/-- Nothing has changed. -/
theorem observe_self (r : RouteFeeds) : observe r.screen.store r = r :=
  become_of_store rfl rfl

/-- For a screen, the writes of the others come from elsewhere. -/
theorem Ran.observe (h : Ran sorter r) (hnew : w.New r.screen.store) (hw : w.WellFormed) :
    Ran sorter (observe (r.screen.store.apply w) r) := by
  have hc : r.Connected (.elsewhere w) := hw
  refine h.step hc ?_
  rw [RouteFeeds.step, if_neg (by simp [h.sound_fed.1.running])]
  exact if_pos hnew

/-- All screens are next to the same database, and each has come from a run of its own. -/
structure Inv (sorter : Sorter Comment) (v : Visitors) : Prop where
  store : v.store.WellFormed
  screens : ∀ r ∈ v.screens, r.screen.store = v.store ∧ Ran sorter r

/-- The screens after a write. -/
theorem Inv.observe (h : v.Inv sorter) (hnew : w.New v.store) (hw : w.WellFormed) :
    ∀ r ∈ v.screens.map (Visitors.observe (v.store.apply w)),
      r.screen.store = v.store.apply w ∧ Ran sorter r := by
  intro r' hr'
  obtain ⟨r, hr, rfl⟩ := List.mem_map.mp hr'
  obtain ⟨hstore, hran⟩ := h.screens r hr
  rw [← hstore] at hnew ⊢
  exact ⟨rfl, hran.observe hnew hw⟩

/-- What happens on a screen. -/
theorem step_screen {e : RouteFeeds.Event} (hv : v.step sorter (.screen i e) = some v') :
    isOwn e = true ∧ ∃ r r', v.screens[i]? = some r ∧ RouteFeeds.step sorter r e = some r' ∧
      v' = { store := r'.screen.store
             screens := (v.screens.map (Visitors.observe r'.screen.store)).set i r' } := by
  obtain ⟨hown, hv⟩ := Option.ite_none_right_eq_some.mp hv
  obtain ⟨r, hi, hv⟩ := Option.bind_eq_some_iff.mp hv
  obtain ⟨r', hr, hv⟩ := Option.map_eq_some_iff.mp hv
  exact ⟨hown, r, r', hi, hr, hv.symm⟩

/-- One step keeps the invariant. -/
theorem Inv.step (h : v.Inv sorter) (hc : v.Connected e) (hv : v.step sorter e = some v') :
    v'.Inv sorter := by
  cases e with
  | opened contentId currentUser =>
      cases hv
      refine { h with screens := fun r hr => ?_ }
      rcases List.mem_append.mp hr with hr | hr
      · exact h.screens r hr
      · obtain rfl := List.mem_singleton.mp hr
        refine ⟨?_, v.store, contentId, currentUser, [], h.store, .nil _⟩
        exact congrArg Displayed.store (getLikeCount_frame _).1
  | screen i e =>
      obtain ⟨hown, r, r', hi, hr, rfl⟩ := step_screen hv
      obtain ⟨hstore, hran⟩ := h.screens r (List.mem_of_getElem? hi)
      have hconnected : r.Connected e := by
        cases e with
        | likeButtonClicked | delivered => trivial
        | failed => exact hc.elim
        | elsewhere => cases hown
      have hran' := hran.step hconnected hr
      have hothers : ∀ r₁ ∈ v.screens.map (Visitors.observe r'.screen.store),
          r₁.screen.store = r'.screen.store ∧ Ran sorter r₁ := by
        rw [store_step hr]
        cases hwritten : r.written e with
        | none =>
            intro r₂ hr₂
            obtain ⟨r₁, hr₁, rfl⟩ := List.mem_map.mp hr₂
            obtain ⟨hstore₁, hran₁⟩ := h.screens r₁ hr₁
            show r.screen.store = r.screen.store ∧ Ran sorter (Visitors.observe r.screen.store r₁)
            rw [hstore, ← hstore₁, observe_self]
            exact ⟨rfl, hran₁⟩
        | some w =>
            obtain ⟨hnew, hw, -⟩ := new_written hown hr hwritten
            rw [hstore] at hnew ⊢
            exact h.observe hnew hw
      refine ⟨hran'.sound_fed.1.store, fun r₁ hr₁ => ?_⟩
      rcases List.mem_or_eq_of_mem_set hr₁ with hr₁ | rfl
      · exact hothers r₁ hr₁
      · exact ⟨rfl, hran'⟩
  | elsewhere w =>
      obtain ⟨hnew, ⟨⟩⟩ := Option.ite_none_right_eq_some.mp hv
      exact ⟨h.store.apply hc, h.observe hnew hc⟩

/-- A run keeps it. -/
theorem inv_steps (h₀ : store.WellFormed)
    (h : (system sorter).Steps Connected { store } es v) : v.Inv sorter := by
  refine h.invariant (I := Inv sorter) (fun hI hc hv => hI.step hc hv) ⟨h₀, ?_⟩
  intro r hr
  cases hr

/-! ## Agreement -/

/-- When a review is read changes its age only. -/
theorem map_written_getReview {documents : Documents} {now now' : DocId → Date}
    {review review' : List Comment}
    (h : (documents.mapM fun d =>
      ContentRouteViewController.getReview (now d.1) d) = some review)
    (h' : (documents.mapM fun d =>
      ContentRouteViewController.getReview (now' d.1) d) = some review') :
    review.map written = review'.map written := by
  rw [← TableView.filterMap_of_mapM h, ← TableView.filterMap_of_mapM h', List.map_filterMap,
    List.map_filterMap]
  refine List.filterMap_congr fun d _ => ?_
  rw [ContentRouteViewController.getReview, ContentRouteViewController.getReview, Option.map_map,
    Option.map_map]
  rfl

/-- Two screens for one trip that show the same database agree. -/
theorem agree_of_current (hr : r.Current sorter) (hr' : r'.Current sorter)
    (hstore : r.screen.store = r'.screen.store) (hid : r.contentId = r'.contentId) :
    Agree r.screen.collectionView r'.screen.collectionView := by
  have hfavorites : r.favorites = r'.favorites := by
    rw [favorites, favorites, hstore, hid]
  have hcomments : r.comments = r'.comments := by
    rw [comments, comments, hstore, hid]
  obtain ⟨now, review, hreview, hsorted⟩ := hr.review
  obtain ⟨now', review', hreview', hsorted'⟩ := hr'.review
  constructor
  · have hlike := hr.like
    rw [hfavorites] at hlike
    exact Option.some.inj (hlike.symm.trans hr'.like)
  · rw [hr.likeCount, hr'.likeCount, hfavorites]
  · rw [hcomments] at hreview
    rw [hsorted, hsorted']
    have hperm := (sorter.perm_sort ContentRouteViewController.newer review).map written
    have hperm' := (sorter.perm_sort ContentRouteViewController.newer review').map written
    rw [map_written_getReview hreview hreview'] at hperm
    exact hperm.trans hperm'.symm
  · rw [hr.reviewCount, hr'.reviewCount, hcomments]

/-- For one user `isExist` is the same as well. -/
theorem isExist_of_current (hr : r.Current sorter) (hr' : r'.Current sorter)
    (hstore : r.screen.store = r'.screen.store) (hid : r.contentId = r'.contentId)
    (huser : r.currentUser = r'.currentUser) :
    r.screen.vc.isExist = r'.screen.vc.isExist := by
  have hresult : r.result .checkLikeImage = r'.result .checkLikeImage := by
    rw [result, result, hstore, hid, huser]
  rw [Bool.eq_iff_iff, hr.isExist, hr'.isExist, hresult]

/-- When everything has been received, all screens show the database. -/
theorem Inv.current (h : v.Inv sorter) (hquiet : v.Quiet) (hr : r ∈ v.screens) :
    r.screen.store = v.store ∧ r.Current sorter := by
  obtain ⟨hstore, hran⟩ := h.screens r hr
  obtain ⟨hsound, hfed⟩ := hran.sound_fed
  exact ⟨hstore, hfed.current hsound (hquiet r hr)⟩

/-- **All screens agree.**  Whatever the users of any number of screens press, whatever else
writes and in whatever order everything is received: once nothing waits, every screen shows
the database, two screens for one trip show the same likes and the same reviews, and two
screens of one user have the same `isExist`, which their hearts follow at the next reload. -/
theorem steps_agree (h₀ : store.WellFormed)
    (h : (system sorter).Steps Connected { store } es v) (hquiet : v.Quiet) :
    (∀ r ∈ v.screens, r.screen.store = v.store ∧ r.Current sorter) ∧
      ∀ r ∈ v.screens, ∀ r' ∈ v.screens, r.contentId = r'.contentId →
        Agree r.screen.collectionView r'.screen.collectionView ∧
          (r.currentUser = r'.currentUser → r.screen.vc.isExist = r'.screen.vc.isExist) := by
  have hI := inv_steps h₀ h
  refine ⟨fun r hr => hI.current hquiet hr, fun r hr r' hr' hid => ?_⟩
  obtain ⟨hstore, hcurrent⟩ := hI.current hquiet hr
  obtain ⟨hstore', hcurrent'⟩ := hI.current hquiet hr'
  have hsame := hstore.trans hstore'.symm
  exact ⟨agree_of_current hcurrent hcurrent' hsame hid,
    isExist_of_current hcurrent hcurrent' hsame hid⟩

/-- Two users open a trip, and one of them likes it. -/
def twoUsers : List Event :=
  let now : DocId → Date := fun _ => 0
  [.opened "trip" (some "a@b.c"), .opened "trip" (some "d@e.f"), .screen 0 .likeButtonClicked,
    .screen 0 (.delivered .getExistLikeLocation 0 "2" now),
    .screen 0 (.delivered .getExistLikeLocation 0 "3" now),
    .screen 0 (.delivered .checkLikeImage 0 "3" now),
    .screen 0 (.delivered .checkLikeImage 0 "3" now),
    .screen 0 (.delivered .checkLikeImage 1 "3" now),
    .screen 0 (.delivered .checkLikeImage 2 "3" now),
    .screen 0 (.delivered .getLikeCount 0 "3" now), .screen 0 (.delivered .getLikeCount 0 "3" now),
    .screen 0 (.delivered .getLikeCount 1 "3" now), .screen 0 (.delivered .getLikeCount 2 "3" now),
    .screen 0 (.delivered .getReview 0 "3" now), .screen 1 (.delivered .checkLikeImage 0 "3" now),
    .screen 1 (.delivered .getLikeCount 0 "3" now), .screen 1 (.delivered .getLikeCount 0 "3" now),
    .screen 1 (.delivered .getReview 0 "3" now)]

theorem twoUsers_agree : ∃ v, (system .insertion).Steps Connected { store := .empty } twoUsers v ∧
    ∀ r ∈ v.screens, ∀ r' ∈ v.screens, r.contentId = r'.contentId →
      Agree r.screen.collectionView r'.screen.collectionView := by
  obtain ⟨v, hrun, hquiet⟩ := EventSystem.exists_steps_of_exec (system .insertion) Connected
    { store := .empty } twoUsers (fun v => v.Quiet) (by decide +kernel)
  have hagree := steps_agree Store.wellFormed_empty hrun (of_decide_eq_true hquiet)
  exact ⟨v, hrun, fun r hr r' hr' hid => (hagree.2 r hr r' hr' hid).1⟩

/-! ## Coming to rest -/

/-- The sum over all screens. -/
def total (f : RouteFeeds → Nat) (screens : List RouteFeeds) : Nat := (screens.map f).sum

/-- What a delivery makes smaller. -/
def rank (v : Visitors) : Nat × Nat × Nat × Nat :=
  (total (·.rank.1) v.screens, total (·.rank.2.1) v.screens, total (·.rank.2.2.1) v.screens,
    total (·.rank.2.2.2) v.screens)

variable {f : RouteFeeds → Nat} {before after screens : List RouteFeeds} {contentId id : DocId}
  {currentUser : String}

theorem total_middle (f : RouteFeeds → Nat) (before after : List RouteFeeds) (r : RouteFeeds) :
    total f (before ++ r :: after) = total f before + f r + total f after := by
  simp only [total, List.map_append, List.map_cons, List.sum_append, List.sum_cons]
  omega

theorem total_map_congr {g : RouteFeeds → RouteFeeds} (h : ∀ r ∈ screens, f (g r) = f r) :
    total f (screens.map g) = total f screens := by
  rw [total, List.map_map]
  exact congrArg List.sum (List.map_congr_left h)

theorem total_map_le {g : RouteFeeds → RouteFeeds} (h : ∀ r ∈ screens, f (g r) ≤ f r) :
    total f (screens.map g) ≤ total f screens := by
  rw [total, List.map_map]
  exact List.sum_le_sum h

/-- The order of the ranks, part by part. -/
theorem below_iff {a b : Nat × Nat × Nat × Nat} :
    Below a b ↔ a.1 < b.1 ∨ a.1 = b.1 ∧ (a.2.1 < b.2.1 ∨ a.2.1 = b.2.1 ∧
      (a.2.2.1 < b.2.2.1 ∨ a.2.2.1 = b.2.2.1 ∧ a.2.2.2 < b.2.2.2)) := by
  rw [Below, Prod.lex_def, Prod.lex_def, Prod.lex_def]

/-- The like that a screen adds is no like of a trip by itself, and no listener receives that
there is none. -/
theorem rank_observe_addSub (hfresh : (r.screen.store.sub .favorite contentId).get id = none)
    (hid : id ≠ contentId) :
    let store := r.screen.store.apply
      (.addSub .favorite contentId id (ContentRouteViewController.favorite currentUser))
    (observe store r).rank.1 = r.rank.1 ∧ (observe store r).rank.2.1 = r.rank.2.1 := by
  intro store
  have hother : r.contentId ≠ contentId →
      store.sub .favorite r.contentId = r.screen.store.sub .favorite r.contentId := fun hne =>
    Store.setSub_sub_of_ne _ fun heq => hne heq.2
  constructor
  · show ownLike store r.contentId = ownLike r.screen.store r.contentId
    rw [ownLike, ownLike]
    by_cases hsame : r.contentId = contentId
    · rw [hsame, Store.sub_addSub, Collection.get_set_of_ne _ _ hid.symm]
    · rw [hother hsame]
  · show List.countP List.isEmpty (Listeners.pending (Listeners.observe _ _ _)) = _
    refine Listeners.countP_pending_observe fun hnil => ?_
    change RouteFeed.find store r.contentId r.currentUser .getExistLikeLocation = [] at hnil
    show RouteFeed.find r.screen.store r.contentId r.currentUser .getExistLikeLocation = []
    cases hcurrent : r.currentUser with
    | none => rfl
    | some user =>
        rw [hcurrent] at hnil
        simp only [RouteFeed.find, Option.elim_some] at hnil ⊢
        by_cases hsame : r.contentId = contentId
        · rw [hsame, Store.sub_addSub, Collection.query_set hfresh] at hnil
          rw [hsame]
          split at hnil
          · cases hnil
          · exact hnil
        · rwa [hother hsame] at hnil

/-- Deleting a like adds none. -/
theorem rank_observe_deleteSub :
    (observe (r.screen.store.apply (.deleteSub .favorite contentId id)) r).rank.1 ≤ r.rank.1 := by
  show ownLike (r.screen.store.apply (.deleteSub .favorite contentId id)) r.contentId ≤
    ownLike r.screen.store r.contentId
  rw [ownLike, ownLike]
  by_cases hsame : r.contentId = contentId
  · rw [hsame, Store.sub_deleteSub]
    by_cases hid : contentId = id
    · rw [hid, Collection.get_erase_self]
      exact Nat.zero_le _
    · rw [Collection.get_erase_of_ne _ hid]
  · rw [Store.apply, Store.setSub_sub_of_ne _ fun heq => hsame heq.2]

/-- A delivery on one screen makes the rank of all of them smaller. -/
theorem below_of_delivery (h : v.Inv sorter) (hc : v.Delivery e)
    (hv : v.step sorter e = some v') : Below v'.rank v.rank := by
  cases e with
  | opened | elsewhere => exact hc.elim
  | screen i e =>
      obtain ⟨r, hi, hdelivery⟩ := hc
      obtain ⟨-, r₁, r', hi', hr, rfl⟩ := step_screen hv
      cases hi.symm.trans hi'
      obtain ⟨before, after, hsplit, hlength, -⟩ := Removal.set_split hi
      have hstore : ∀ r₁ ∈ v.screens, r₁.screen.store = r.screen.store := fun r₁ hr₁ =>
        (h.screens r₁ hr₁).1.trans (h.screens r (List.mem_of_getElem? hi)).1.symm
      have hbefore : ∀ r₁ ∈ before, r₁.screen.store = r.screen.store := fun r₁ hr₁ =>
        hstore r₁ (hsplit ▸ List.mem_append_left _ hr₁)
      have hafter : ∀ r₁ ∈ after, r₁.screen.store = r.screen.store := fun r₁ hr₁ =>
        hstore r₁ (hsplit ▸ List.mem_append_right _ (List.mem_cons_of_mem _ hr₁))
      have hscreens : (v.screens.map (observe r'.screen.store)).set i r' =
          before.map (observe r'.screen.store) ++ r' :: after.map (observe r'.screen.store) := by
        rw [hsplit, List.map_append, List.map_cons, ← hlength]
        simp
      rw [below_iff, rank, rank, hscreens, hsplit]
      simp only [total_middle]
      obtain ⟨hsame, hbelow⟩ | ⟨id, currentUser, hfresh, hid, hadd, hfirst, hsecond⟩ |
        ⟨hdelete, hfirst⟩ := delivery_cases hdelivery hr
      · -- the other screens do not notice
        have hmap : ∀ screens : List RouteFeeds,
            (∀ r₁ ∈ screens, r₁.screen.store = r.screen.store) →
              screens.map (observe r'.screen.store) = screens := by
          intro screens hscreens
          refine (List.map_congr_left fun r₁ hr₁ => ?_).trans (List.map_id screens)
          rw [hsame, ← hscreens r₁ hr₁]
          exact observe_self r₁
        rw [hmap before hbefore, hmap after hafter]
        have hparts := below_iff.mp hbelow
        omega
      · have hobserve : ∀ screens : List RouteFeeds,
            (∀ r₁ ∈ screens, r₁.screen.store = r.screen.store) →
              total (·.rank.1) (screens.map (observe r'.screen.store)) =
                total (·.rank.1) screens ∧
              total (·.rank.2.1) (screens.map (observe r'.screen.store)) =
                total (·.rank.2.1) screens := by
          intro screens hscreens
          have hrank : ∀ r₁ ∈ screens, (observe r'.screen.store r₁).rank.1 = r₁.rank.1 ∧
              (observe r'.screen.store r₁).rank.2.1 = r₁.rank.2.1 := by
            intro r₁ hr₁
            change (r.screen.store.sub .favorite r.contentId).get id = none at hfresh
            rw [← hscreens r₁ hr₁] at hfresh
            rw [hadd, ← hscreens r₁ hr₁]
            exact rank_observe_addSub hfresh hid
          exact ⟨total_map_congr fun r₁ hr₁ => (hrank r₁ hr₁).1,
            total_map_congr fun r₁ hr₁ => (hrank r₁ hr₁).2⟩
        obtain ⟨hfirst₁, hsecond₁⟩ := hobserve before hbefore
        obtain ⟨hfirst₂, hsecond₂⟩ := hobserve after hafter
        omega
      · have hobserve : ∀ screens : List RouteFeeds,
            (∀ r₁ ∈ screens, r₁.screen.store = r.screen.store) →
              total (·.rank.1) (screens.map (observe r'.screen.store)) ≤
                total (·.rank.1) screens := by
          intro screens hscreens
          rw [hdelete]
          exact total_map_le fun r₁ hr₁ => hscreens r₁ hr₁ ▸ rank_observe_deleteSub
        have hfirst₁ := hobserve before hbefore
        have hfirst₂ := hobserve after hafter
        omega

theorem Delivery.connected (h : v.Delivery e) : v.Connected e := by
  cases e with
  | opened | elsewhere => exact h.elim
  | screen i e =>
      obtain ⟨r, -, hdelivery⟩ := h
      cases e with
      | delivered => trivial
      | likeButtonClicked | failed | elsewhere => exact hdelivery.elim

/-- As long as something waits, something can be delivered. -/
theorem exists_delivery (h : v.Inv sorter) (hquiet : ¬v.Quiet) :
    ∃ v', (system sorter).Leads Delivery v' v := by
  obtain ⟨r, hr⟩ := not_forall.mp hquiet
  obtain ⟨hmem, hwaits⟩ := Classical.not_imp.mp hr
  obtain ⟨i, hi⟩ := List.mem_iff_getElem?.mp hmem
  obtain ⟨r', e, hdelivery, hstep⟩ :=
    RouteFeeds.exists_delivery (h.screens r hmem).2.sound_fed.1 sorter hwaits
  have hown : isOwn e := by
    cases e with
    | delivered => rfl
    | likeButtonClicked | failed | elsewhere => exact hdelivery.elim
  refine ⟨{
    store := r'.screen.store
    screens := (v.screens.map (observe r'.screen.store)).set i r' }, .screen i e,
    ⟨r, hi, hdelivery⟩, ?_⟩
  change RouteFeeds.step sorter r e = some r' at hstep
  show step sorter v (.screen i e) = _
  rw [step, if_pos hown, hi, Option.bind_some, hstep, Option.map_some]

/-- **All screens come to rest together.**  The screens of any users trigger each other, but
not for ever: no run goes on with deliveries only, and deliveries lead to screens that all
show the database and agree. -/
theorem steps_come_to_rest (h₀ : store.WellFormed)
    (h : (system sorter).Steps Connected { store } es v) :
    (∀ vs : Nat → Visitors, vs 0 = v →
      ¬∀ n, (system sorter).Leads Delivery (vs (n + 1)) (vs n)) ∧
    ∃ fs v', (system sorter).Steps Delivery v fs v' ∧ v'.Quiet ∧
      ∀ r ∈ v'.screens, r.screen.store = v'.store ∧ r.Current sorter ∧
        ∀ r' ∈ v'.screens, r.contentId = r'.contentId →
          Agree r.screen.collectionView r'.screen.collectionView := by
  have hstep : ∀ {v : Visitors} {e v'}, v.Inv sorter → v.Delivery e →
      v.step sorter e = some v' → v'.Inv sorter ∧ Below v'.rank v.rank :=
    fun hI hc hv => ⟨hI.step hc.connected hv, below_of_delivery hI hc hv⟩
  obtain ⟨hends, fs, v', hrun, hquiet, hI⟩ := EventSystem.comes_to_rest wellFounded_below
    (S := system sorter) (Q := Quiet) hstep exists_delivery (inv_steps h₀ h)
  refine ⟨hends, fs, v', hrun, hquiet, fun r hr => ?_⟩
  obtain ⟨hstore, hcurrent⟩ := hI.current hquiet hr
  refine ⟨hstore, hcurrent, fun r' hr' hid => ?_⟩
  obtain ⟨hstore', hcurrent'⟩ := hI.current hquiet hr'
  exact agree_of_current hcurrent hcurrent' (hstore.trans hstore'.symm) hid

/-- A user with two devices presses the button on both. -/
def twoDevices : List Event :=
  [.opened "trip" (some "a@b.c"), .opened "trip" (some "a@b.c"), .screen 0 .likeButtonClicked,
    .screen 1 .likeButtonClicked]

theorem twoDevices_come_to_rest : ∃ v,
    (system .insertion).Steps Connected { store := .empty } twoDevices v ∧
      ∃ fs v', (system .insertion).Steps Delivery v fs v' ∧ v'.Quiet ∧
        ∀ r ∈ v'.screens, r.screen.store = v'.store ∧ r.Current .insertion := by
  obtain ⟨v, hrun, -⟩ := EventSystem.exists_steps_of_exec (system .insertion) Connected
    { store := .empty } twoDevices (fun _ => true) (by decide)
  obtain ⟨fs, v', hdeliveries, hquiet, hcurrent⟩ :=
    (steps_come_to_rest Store.wellFormed_empty hrun).2
  refine ⟨v, hrun, fs, v', hdeliveries, hquiet, fun r hr => ?_⟩
  obtain ⟨hstore, hshows, -⟩ := hcurrent r hr
  exact ⟨hstore, hshows⟩

end Visitors

end Groute
