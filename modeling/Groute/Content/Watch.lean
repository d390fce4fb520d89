import Groute.Content.RouteFeeds
import Groute.Content.RouteLike
import Groute.Lib.Simulation

/-!
# The like listeners of the second screen

`RouteLikes` is the second screen with nothing but the listeners that write likes;
`RouteFeeds` is all of it, with the listeners that read, what the screen shows and whatever
others write.  The listeners that write do not notice the rest: along `Watches`, every run of
the screen is one of theirs (`simulates_watches`), as long as none of them is lost.
-/

namespace Groute

open ContentRouteViewController

/-- The queries see the likes of one trip only. -/
theorem Store.sub_apply_congr {st st' : Store} {c : Sub} {id : DocId} (w : Write)
    (h : st.sub c id = st'.sub c id) : (st.apply w).sub c id = (st'.apply w).sub c id := by
  by_cases hw : w.target = id ∧ w.into = some c
  · obtain ⟨rfl, hinto⟩ := hw
    cases w with
    | addContent | updateContent | deleteContent => cases hinto
    | addSub | deleteSub =>
        cases hinto
        simp only [Store.apply, Write.target, Store.setSub_sub_self] at h ⊢
        rw [h]
  · rw [Store.sub_apply_of_ne hw, Store.sub_apply_of_ne hw, h]

namespace RouteFeeds

/-- The listeners that write have received the same, and wait for the same, over the same
likes. -/
structure Watches (r : RouteFeeds) (l : RouteLikes) : Prop where
  contentId : l.contentId = r.contentId
  currentUser : r.currentUser = some l.currentUser
  favorites : l.favorites = r.favorites
  listeners : l.listeners.mapSnapshots Snapshot.documents = r.listeners .getExistLikeLocation

/-- What an event of the screen for a trip is for the listeners that write; some are nothing. -/
inductive Watched (contentId : DocId) : Event → Option RouteLikes.Event → Prop
  | likeButtonClicked : Watched contentId .likeButtonClicked (some .likeButtonClicked)
  | delivered (k : Nat) (id : DocId) (now : DocId → Date) :
      Watched contentId (.delivered .getExistLikeLocation k id now) (some (.delivered k id))
  | shown (feed : RouteFeed) (k : Nat) (id : DocId) (now : DocId → Date)
      (h : feed ≠ .getExistLikeLocation) : Watched contentId (.delivered feed k id now) none
  | failed (feed : RouteFeed) (k : Nat) (h : feed ≠ .getExistLikeLocation) :
      Watched contentId (.failed feed k) none
  | elsewhere (w : Write) (h : ¬(w.target = contentId ∧ w.into = some .favorite)) :
      Watched contentId (.elsewhere w) none
  | liked (id : DocId) (email : String) :
      Watched contentId (.elsewhere (.addSub .favorite contentId id (favorite email)))
        (some (.liked email id))
  | unliked (id : DocId) :
      Watched contentId (.elsewhere (.deleteSub .favorite contentId id)) (some (.unliked id))

/-- No listener that writes is lost, and likes that are added elsewhere are as the app writes
them. -/
def Liking (r : RouteFeeds) : Event → Prop
  | .failed feed _ => feed ≠ .getExistLikeLocation
  | .elsewhere (.addSub .favorite contentId _ data) => contentId = r.contentId →
      ∃ email, data = favorite email
  | _ => True

variable {sorter : Sorter Comment} {r r' : RouteFeeds} {l : RouteLikes} {feed : RouteFeed}
  {e : Event} {es : List Event} {w : Write} {screen : Displayed ContentRouteViewController}
  {k : Nat} {id : DocId} {now : DocId → Date} {store : Store} {contentId : DocId}
  {currentUser : String}

/-- Both ask for the same likes. -/
theorem Watches.checkLike (h : Watches r l) : l.checkLike = r.result .getExistLikeLocation := by
  rw [result, h.currentUser, RouteLikes.checkLike, h.favorites]
  rfl

/-- Where a query finds what it found before, its listeners are not notified. -/
theorem listeners_become_of_result (hresult : (r.become screen).result feed = r.result feed) :
    (r.become screen).listeners feed = r.listeners feed := by
  show (r.listeners feed).observe (r.result feed) ((r.become screen).result feed) = _
  rw [hresult, Listeners.observe, if_pos rfl]

/-- A write is received on both. -/
theorem Watches.write (h : Watches r l) (w : Write)
    (hstore : screen.store = r.screen.store.apply w) (hid : screen.vc.contentId = r.contentId) :
    Watches (r.become screen) (l.write w) := by
  have hcontentId : (l.write w).contentId = (r.become screen).contentId :=
    h.contentId.trans hid.symm
  have hfavorites : (l.write w).favorites = (r.become screen).favorites := by
    show (l.store.apply w).sub .favorite l.contentId =
      screen.store.sub .favorite screen.vc.contentId
    have hsub : l.store.sub .favorite l.contentId = r.screen.store.sub .favorite r.contentId :=
      h.favorites
    rw [h.contentId] at hsub
    rw [hstore, hid, h.contentId]
    exact Store.sub_apply_congr w hsub
  have hresult : (l.write w).checkLike = (r.become screen).result .getExistLikeLocation := by
    rw [result, show (r.become screen).currentUser = some l.currentUser from h.currentUser,
      RouteLikes.checkLike, hfavorites]
    rfl
  refine ⟨hcontentId, h.currentUser, hfavorites, ?_⟩
  show _ = (r.listeners .getExistLikeLocation).observe (r.result .getExistLikeLocation)
    ((r.become screen).result .getExistLikeLocation)
  rw [RouteLikes.listeners_write, Listeners.observe, hresult, h.checkLike, ← h.listeners]
  split
  · rfl
  · rw [Listeners.mapSnapshots_notify]

/-- The listeners that read, and what is shown, do not matter. -/
theorem Watches.congr (h : Watches r l) (hstore : r'.screen.store = r.screen.store)
    (hid : r'.screen.vc.contentId = r.contentId) (huser : r'.currentUser = r.currentUser)
    (hlisteners : r'.listeners .getExistLikeLocation = r.listeners .getExistLikeLocation) :
    Watches r' l where
  contentId := h.contentId.trans hid.symm
  currentUser := huser.trans h.currentUser
  favorites := by
    show _ = r'.screen.store.sub .favorite r'.screen.vc.contentId
    rw [hstore, hid]
    exact h.favorites
  listeners := h.listeners.trans hlisteners.symm

/-- A press registers a listener on both. -/
theorem Watches.press (h : Watches r l) (hr : r.step sorter .likeButtonClicked = some r') :
    ∃ l', l.step .likeButtonClicked = some l' ∧ Watches r' l' := by
  refine ⟨_, rfl, ?_⟩
  have hlisteners : r'.listeners .getExistLikeLocation =
      (r.listeners .getExistLikeLocation).register (r.result .getExistLikeLocation) := by
    refine (listeners_likeButtonClicked hr).resolve_left fun hnone => ?_
    exact Option.some_ne_none _ (h.currentUser.symm.trans hnone.1)
  obtain ⟨-, ⟨⟩⟩ := Option.ite_none_left_eq_some.mp hr
  refine ⟨h.contentId, (currentUser_likeButtonClicked r).trans h.currentUser, h.favorites, ?_⟩
  rw [hlisteners, Listeners.mapSnapshots_register, h.listeners, h.checkLike]

/-- A listener that writes receives a snapshot on both. -/
theorem Watches.delivered (h : Watches r l)
    (hr : r.step sorter (.delivered .getExistLikeLocation k id now) = some r') :
    ∃ l', l.step (.delivered k id) = some l' ∧ Watches r' l' := by
  obtain ⟨documents, listeners, read, hdeliver, hread, hfresh, rfl⟩ := step_delivered hr
  obtain ⟨currentUser, huser, rfl⟩ := Option.map_eq_some_iff.mp hread
  obtain rfl : l.currentUser = currentUser := Option.some.inj (h.currentUser.symm.trans huser)
  rw [← h.listeners] at hdeliver
  obtain ⟨snapshot, rest, hl, rfl, rfl⟩ := Listeners.exists_deliver_of_mapSnapshots hdeliver
  -- both states once the snapshot has been taken from its queue
  let r₁ : RouteFeeds :=
    { r with
      listeners := Function.update r.listeners .getExistLikeLocation
        (rest.mapSnapshots Snapshot.documents) }
  let l₁ : RouteLikes := { l with listeners := rest }
  have hrest : r₁.listeners .getExistLikeLocation = rest.mapSnapshots Snapshot.documents := by
    show Function.update r.listeners .getExistLikeLocation _ .getExistLikeLocation = _
    exact Function.update_self ..
  have h₁ : Watches r₁ l₁ := ⟨h.contentId, h.currentUser, h.favorites, hrest.symm⟩
  let w := getExistLikeLocationDone r.contentId id l.currentUser snapshot.documents
  refine ⟨l₁.change w, ?_, ?_⟩
  · have hnew : (l.favorites.get id).isNone := by
      rw [h.favorites, hfresh]
      rfl
    have hw : getExistLikeLocationDone l.contentId id l.currentUser snapshot.documents = w := by
      rw [h.contentId]
    rw [RouteLikes.step, hl, Option.bind_some]
    exact (if_pos hnew).trans (congrArg (fun w => some (l₁.change w)) hw)
  · have hwritten : Watches (r₁.become (r₁.liked l.currentUser id snapshot.documents))
        (l₁.write w) := h₁.write w rfl rfl
    have hwrite : Watches (r₁.become (r₁.liked l.currentUser id snapshot.documents))
        (l₁.change w) := { hwritten with }
    rw [call_getExistLikeLocation]
    obtain ⟨hscreen, hlisteners⟩ :=
      getLikeCount_frame (r₁.become (r₁.liked l.currentUser id snapshot.documents))
    exact hwrite.congr (congrArg Displayed.store hscreen)
      (congrArg (fun screen => screen.vc.contentId) hscreen) (currentUser_getLikeCount _)
      hlisteners

/-- A write elsewhere is received on both; one that is no like of the trip by neither. -/
theorem Watches.elsewhere (h : Watches r l) (hliking : r.Liking (.elsewhere w))
    (hr : r.step sorter (.elsewhere w) = some r') :
    (Watched r.contentId (.elsewhere w) none ∧ Watches r' l) ∨
      ∃ f l', Watched r.contentId (.elsewhere w) (some f) ∧ l.step f = some l' ∧
        Watches r' l' := by
  obtain ⟨-, hr⟩ := Option.ite_none_left_eq_some.mp hr
  obtain ⟨hnew, ⟨⟩⟩ := Option.ite_none_right_eq_some.mp hr
  by_cases hw : w.target = r.contentId ∧ w.into = some .favorite
  · right
    have hwrite : Watches (r.become { r.screen with store := r.screen.store.apply w })
        (l.write w) := h.write w rfl rfl
    obtain ⟨htarget, hinto⟩ := hw
    cases w with
    | addContent | updateContent | deleteContent => cases hinto
    | addSub c contentId id data =>
        cases hinto
        obtain rfl : contentId = l.contentId := htarget.trans h.contentId.symm
        obtain ⟨email, rfl⟩ := hliking htarget
        rw [← h.contentId]
        refine ⟨_, _, .liked id email, ?_, hwrite⟩
        have hfresh : (l.favorites.get id).isNone := by
          rw [h.favorites, RouteFeeds.favorites, ← h.contentId]
          exact hnew
        exact if_pos hfresh
    | deleteSub c contentId id =>
        cases hinto
        obtain rfl : contentId = l.contentId := htarget.trans h.contentId.symm
        rw [← h.contentId]
        exact ⟨_, _, .unliked id, rfl, hwrite⟩
  · left
    have hsub : (r.screen.store.apply w).sub .favorite r.contentId = r.favorites :=
      Store.sub_apply_of_ne hw
    have hresult : (r.become { r.screen with store := r.screen.store.apply w }).result
        .getExistLikeLocation = r.result .getExistLikeLocation := by
      show RouteFeed.find (r.screen.store.apply w) r.contentId r.currentUser _ = _
      rw [result, h.currentUser, RouteFeed.find, RouteFeed.find]
      simp only [Option.elim_some]
      rw [hsub, RouteFeeds.favorites]
    refine ⟨.elsewhere w hw, h.contentId, h.currentUser, h.favorites.trans hsub.symm, ?_⟩
    exact h.listeners.trans (listeners_become_of_result hresult).symm

/-- One event on both. -/
theorem Watches.step (h : Watches r l) (hliking : r.Liking e) (hr : r.step sorter e = some r') :
    (Watched r.contentId e none ∧ Watches r' l) ∨
      ∃ f l', Watched r.contentId e (some f) ∧ l.step f = some l' ∧ Watches r' l' := by
  cases e with
  | likeButtonClicked =>
      obtain ⟨l', hl, hwatches⟩ := h.press hr
      exact .inr ⟨_, l', .likeButtonClicked, hl, hwatches⟩
  | delivered feed k id now =>
      by_cases hfeed : feed = .getExistLikeLocation
      · subst hfeed
        obtain ⟨l', hl, hwatches⟩ := h.delivered hr
        exact .inr ⟨_, l', .delivered k id now, hl, hwatches⟩
      · obtain ⟨documents, listeners, read, -, hread, -, rfl⟩ := step_delivered hr
        obtain ⟨screen, trapped, hcall, hstore, hid⟩ := exists_call_of_ne
          (r := { r with listeners := Function.update r.listeners feed listeners }) hread hfeed
          documents
        rw [hcall]
        exact .inl ⟨.shown feed k id now hfeed, h.congr hstore hid rfl
          (Function.update_of_ne (Ne.symm hfeed) ..)⟩
  | failed feed k =>
      obtain ⟨-, hr⟩ := Option.ite_none_left_eq_some.mp hr
      obtain ⟨-, ⟨⟩⟩ := Option.ite_none_right_eq_some.mp hr
      exact .inl ⟨.failed feed k hliking, h.congr rfl rfl rfl
        (Function.update_of_ne (Ne.symm hliking) ..)⟩
  | elsewhere w => exact h.elsewhere hliking hr

/-- The listeners that write follow the screen for a trip. -/
theorem simulates_watches (sorter : Sorter Comment) (contentId : DocId) :
    EventSystem.Simulates (system sorter) RouteLikes.system Liking (fun _ _ => True)
      (Watched contentId) fun r l => r.contentId = contentId ∧ Watches r l := by
  constructor
  rintro r r' e l ⟨rfl, h⟩ hliking hr
  have hcontentId : r'.contentId = r.contentId := (step_frame hr).1
  rcases h.step hliking hr with ⟨hm, hwatches⟩ | ⟨f, l', hm, hl, hwatches⟩
  · exact .inl ⟨hm, hcontentId, hwatches⟩
  · exact .inr ⟨f, l', hm, trivial, hl, hcontentId, hwatches⟩

/-- Nobody listens at the start. -/
theorem watches_viewDidLoad (store : Store) (contentId : DocId) (currentUser : String) :
    Watches (viewDidLoad store contentId (some currentUser)) { store, contentId, currentUser } where
  contentId := rfl
  currentUser := rfl
  favorites := rfl
  listeners := rfl

/-- **The second screen refines its like listeners.**  Every run of the screen, with all that
it reads and shows, is event by event a run of the listeners that write, over the same likes,
and in the end they wait for the same snapshots. -/
theorem steps_watched (h : (system sorter).Steps Liking
    (viewDidLoad store contentId (some currentUser)) es r) :
    ∃ fs l, List.Forall₂ (Watched contentId) es fs ∧
      RouteLikes.system.Runs { store, contentId, currentUser } fs.reduceOption l ∧
      Watches r l := by
  obtain ⟨fs, l, hfs, hrun, -, hwatches⟩ := (simulates_watches sorter contentId).run h
    ⟨rfl, watches_viewDidLoad store contentId currentUser⟩
  exact ⟨fs, l, hfs, hrun, hwatches⟩

end RouteFeeds

end Groute
