import Groute.Content.Feedback

/-!
# Likes that stick

On a first screen a press adds the like of the user or takes it back.  A press on a second
screen registers a listener and leaves it there.  It adds a like whenever it receives that
there is none, and what it deletes otherwise is not the like of the user.

So after a press on a second screen the like comes back whatever anybody does, on any screen:
it can be deleted, but the listener receives that as well, and nothing comes to rest before it
has been added again.
-/

namespace Groute

/-! ## One screen -/

namespace RouteFeeds

open ContentRouteViewController

/-- If a press is listening and nothing waits for it, the user likes the trip. -/
def Sticks (r : RouteFeeds) : Prop := (r.listeners .getExistLikeLocation).pending = [] →
  r.listeners .getExistLikeLocation = [] ∨ r.result .getExistLikeLocation ≠ []

variable {sorter : Sorter Comment} {r r' r'' : RouteFeeds} {feed : RouteFeed} {e : Event}
  {es : List Event} {w : Write} {screen : Displayed ContentRouteViewController} {k : Nat}
  {id : DocId} {now : DocId → Date} {store : Store} {contentId : DocId}
  {currentUser : Option String}

theorem Sticks.congr (h : r.Sticks)
    (hlisteners : r'.listeners .getExistLikeLocation = r.listeners .getExistLikeLocation)
    (hresult : r'.result .getExistLikeLocation = r.result .getExistLikeLocation) :
    r'.Sticks := by
  rw [Sticks, hlisteners, hresult]
  exact h

/-- The listeners are notified of a write. -/
theorem Sticks.become (h : r.Sticks) (hnew : w.New r.screen.store)
    (hstore : screen.store = r.screen.store.apply w) (hid : screen.vc.contentId = r.contentId) :
    (r.become screen).Sticks := by
  have hresult : (r.become screen).result .getExistLikeLocation =
      RouteFeed.find (r.screen.store.apply w) r.contentId r.currentUser .getExistLikeLocation := by
    show RouteFeed.find screen.store screen.vc.contentId r.currentUser _ = _
    rw [hstore, hid]
  have hlisteners : (r.become screen).listeners .getExistLikeLocation =
      (r.listeners .getExistLikeLocation).observe (r.result .getExistLikeLocation)
        ((r.become screen).result .getExistLikeLocation) := rfl
  by_cases hkeys : ((r.become screen).result .getExistLikeLocation).map Prod.fst =
      (r.result .getExistLikeLocation).map Prod.fst
  · rw [Listeners.observe, if_pos hkeys] at hlisteners
    rw [hresult] at hkeys
    exact h.congr hlisteners (hresult.trans (RouteFeed.find_apply_of_keys hnew hkeys))
  · rw [Listeners.observe, if_neg hkeys] at hlisteners
    intro hnil
    by_cases hnone : r.listeners .getExistLikeLocation = []
    · exact .inl (listeners_become_eq_nil.mpr hnone)
    · rw [hlisteners] at hnil
      exact absurd hnil (Listeners.pending_notify_ne_nil hnone _)

/-- A press that is answered. -/
theorem Sticks.call_getExistLikeLocation {currentUser : String} {documents : Documents}
    (h : documents ≠ [] → r.Sticks) (hcurrent : r.currentUser = some currentUser)
    (hfresh : r.favorites.get id = none) :
    (r.call .getExistLikeLocation (.getExistLikeLocation currentUser id) documents).Sticks := by
  have hbecome : (r.become (r.liked currentUser id documents)).Sticks := by
    by_cases hdocuments : documents = []
    · -- the like is there now
      subst hdocuments
      intro _
      right
      show RouteFeed.find (r.screen.store.apply
        (.addSub .favorite r.contentId id (favorite currentUser))) r.contentId r.currentUser
          .getExistLikeLocation ≠ []
      rw [hcurrent, find_addSub hfresh]
      exact List.cons_ne_nil _ _
    · have hnew := new_getExistLikeLocationDone hfresh currentUser documents
      exact (h hdocuments).become hnew rfl rfl
  rw [RouteFeeds.call_getExistLikeLocation]
  obtain ⟨hscreen, hlisteners⟩ := getLikeCount_frame (r.become (r.liked currentUser id documents))
  refine hbecome.congr hlisteners ?_
  rw [result, result, RouteFeeds.contentId, RouteFeeds.contentId, hscreen,
    currentUser_getLikeCount]

/-- A delivery. -/
theorem Sticks.delivered (h : r.Sticks) (hfed : r.Fed sorter)
    (hr : r.step sorter (.delivered feed k id now) = some r') : r'.Sticks := by
  obtain ⟨documents, listeners, read, hdeliver, hread, hfresh, rfl⟩ := step_delivered hr
  by_cases hfeed : feed = .getExistLikeLocation
  · subst hfeed
    obtain ⟨currentUser, hcurrent, rfl⟩ := Option.map_eq_some_iff.mp hread
    refine Sticks.call_getExistLikeLocation ?_ hcurrent hfresh
    -- what empties the queues is what the query finds now
    intro hdocuments hnil
    right
    show r.result .getExistLikeLocation ≠ []
    change (Function.update r.listeners .getExistLikeLocation listeners
      .getExistLikeLocation).pending = [] at hnil
    rw [Function.update_self] at hnil
    rwa [← (hfed.feeds .getExistLikeLocation).upToDate.of_deliver hdeliver hnil]
  · obtain ⟨screen, trapped, hcall, hstore, hid⟩ := exists_call_of_ne
      (r := { r with listeners := Function.update r.listeners feed listeners }) hread hfeed
      documents
    rw [hcall]
    refine h.congr (Function.update_of_ne (Ne.symm hfeed) _ _) ?_
    show RouteFeed.find screen.store screen.vc.contentId r.currentUser _ = _
    rw [hstore, hid]
    rfl

/-- One step. -/
theorem Sticks.step (h : r.Sticks) (hfed : r.Fed sorter) (hc : r.Connected e)
    (hr : r.step sorter e = some r') : r'.Sticks := by
  cases e with
  | likeButtonClicked =>
      rcases listeners_likeButtonClicked hr with ⟨-, hlisteners⟩ | hlisteners
      · obtain ⟨-, ⟨⟩⟩ := Option.ite_none_left_eq_some.mp hr
        refine h.congr (congrFun hlisteners _) ?_
        rw [result, result, currentUser_likeButtonClicked]
        rfl
      · intro hnil
        rw [hlisteners] at hnil
        exact absurd hnil (Listeners.pending_register_ne_nil _)
  | delivered feed k id now => exact h.delivered hfed hr
  | failed => exact hc.elim
  | elsewhere w =>
      obtain ⟨-, hr⟩ := Option.ite_none_left_eq_some.mp hr
      obtain ⟨hnew, ⟨⟩⟩ := Option.ite_none_right_eq_some.mp hr
      exact h.become hnew rfl rfl

/-- Nobody has pressed when the screen is opened. -/
theorem sticks_viewDidLoad : (viewDidLoad store contentId currentUser).Sticks := by
  intro _
  left
  cases currentUser <;> rfl

theorem sticks_steps (h₀ : store.WellFormed)
    (h : (system sorter).Steps Connected (viewDidLoad store contentId currentUser) es r) :
    r.Sticks := by
  have hall : (r.Sound ∧ r.Fed sorter) ∧ r.Sticks := by
    refine h.invariant (I := fun r => (r.Sound ∧ r.Fed sorter) ∧ r.Sticks) ?_
      ⟨⟨sound_viewDidLoad h₀, fed_viewDidLoad⟩, sticks_viewDidLoad⟩
    rintro r e r' ⟨⟨hsound, hfed⟩, hsticks⟩ hc hr
    exact ⟨⟨hsound.step hc.writesWell hr, hfed.step hsound hc hr⟩, hsticks.step hfed hc hr⟩
  exact hall.2

/-- The same screen later on.  The listeners of presses are not forgotten. -/
structure Later (r r' : RouteFeeds) : Prop where
  contentId : r'.contentId = r.contentId
  currentUser : r'.currentUser = r.currentUser
  armed : r.listeners .getExistLikeLocation ≠ [] → r'.listeners .getExistLikeLocation ≠ []

theorem Later.refl (r : RouteFeeds) : r.Later r := ⟨rfl, rfl, id⟩

theorem Later.trans (h : r.Later r') (h' : r'.Later r'') : r.Later r'' where
  contentId := h'.contentId.trans h.contentId
  currentUser := h'.currentUser.trans h.currentUser
  armed hne := h'.armed (h.armed hne)

theorem later_become (hid : screen.vc.contentId = r.contentId) : r.Later (r.become screen) where
  contentId := hid
  currentUser := rfl
  armed := mt listeners_become_eq_nil.mp

/-- One step later. -/
theorem later_step (hc : r.Connected e) (hr : r.step sorter e = some r') : r.Later r' := by
  obtain ⟨hcontentId, hcurrentUser⟩ := step_frame hr
  refine ⟨hcontentId, hcurrentUser, fun hne => ?_⟩
  cases e with
  | likeButtonClicked =>
      rcases listeners_likeButtonClicked hr with ⟨-, hlisteners⟩ | hlisteners
      · rwa [hlisteners]
      · rw [hlisteners]
        exact List.concat_ne_nil _ _
  | delivered feed k id now =>
      obtain ⟨documents, listeners, read, hdeliver, hread, -, rfl⟩ := step_delivered hr
      by_cases hfeed : feed = .getExistLikeLocation
      · subst hfeed
        obtain ⟨currentUser, -, rfl⟩ := Option.map_eq_some_iff.mp hread
        rw [call_getExistLikeLocation, (getLikeCount_frame _).2]
        intro hnil
        have hnil := listeners_become_eq_nil.mp hnil
        change Function.update r.listeners .getExistLikeLocation listeners
          .getExistLikeLocation = [] at hnil
        rw [Function.update_self] at hnil
        exact (Listeners.deliver_ne_nil hdeliver).2 hnil
      · obtain ⟨screen, trapped, hcall, -, -⟩ := exists_call_of_ne
          (r := { r with listeners := Function.update r.listeners feed listeners }) hread hfeed
          documents
        rw [hcall]
        show Function.update r.listeners feed listeners .getExistLikeLocation ≠ []
        rwa [Function.update_of_ne (Ne.symm hfeed)]
  | failed => exact hc.elim
  | elsewhere w =>
      obtain ⟨-, hr⟩ := Option.ite_none_left_eq_some.mp hr
      obtain ⟨-, ⟨⟩⟩ := Option.ite_none_right_eq_some.mp hr
      exact mt listeners_become_eq_nil.mp hne

end RouteFeeds

/-! ## All screens -/

namespace Visitors

open RouteFeeds hiding contentId written

variable {sorter : Sorter Comment} {v v' : Visitors} {e : Event} {r : RouteFeeds} {i : Nat}

/-- After a write. -/
theorem exists_later_after (hi : v.screens[i]? = some r) (w : Option Write) :
    ∃ r', (v.after w).screens[i]? = some r' ∧ r.Later r' := by
  cases w with
  | none => exact ⟨r, hi, .refl r⟩
  | some w =>
      refine ⟨observe (v.store.apply w) r, ?_, later_become rfl⟩
      show (v.screens.map (observe (v.store.apply w)))[i]? = _
      rw [List.getElem?_map, hi, Option.map_some]

/-- After a step. -/
theorem exists_later_step (hc : v.Connected e) (hv : v.step sorter e = some v')
    (hi : v.screens[i]? = some r) : ∃ r', v'.screens[i]? = some r' ∧ r.Later r' := by
  cases e with
  | opened contentId currentUser =>
      cases hv
      refine ⟨r, ?_, .refl r⟩
      obtain ⟨hlt, -⟩ := List.getElem?_eq_some_iff.mp hi
      exact (List.getElem?_append_left hlt).trans hi
  | screen j e =>
      obtain ⟨hown, r₁, r', hj, hr, rfl⟩ := step_screen hv
      have hmap : (v.screens.map (observe r'.screen.store))[i]? =
          some (observe r'.screen.store r) := by
        rw [List.getElem?_map, hi, Option.map_some]
      by_cases hij : j = i
      · subst hij
        cases hi.symm.trans hj
        have hconnected : r.Connected e := by
          cases e with
          | likeButtonClicked | delivered => trivial
          | failed => exact hc.elim
          | elsewhere => cases hown
        obtain ⟨hlt, -⟩ := List.getElem?_eq_some_iff.mp hmap
        exact ⟨r', List.getElem?_set_self hlt, later_step hconnected hr⟩
      · exact ⟨_, (List.getElem?_set_ne hij).trans hmap, later_become rfl⟩
  | elsewhere w =>
      obtain ⟨-, ⟨⟩⟩ := Option.ite_none_right_eq_some.mp hv
      exact exists_later_after hi (some w)

end Visitors

namespace Feedback

variable {sorter : Sorter Comment} {f f' : Feedback} {e : Event} {es : List Event}
  {r : RouteFeeds} {store : Store} {i : Nat} {user : String}

theorem exists_later_step (hc : f.Connected e) (hf : f.step sorter e = some f')
    (hi : f.visitors.screens[i]? = some r) :
    ∃ r', f'.visitors.screens[i]? = some r' ∧ r.Later r' := by
  cases e with
  | opened savedId texts =>
      cases hf
      exact ⟨r, hi, .refl r⟩
  | guest j e =>
      obtain ⟨-, s, s', -, -, rfl⟩ := step_guest hf
      exact Visitors.exists_later_after hi (s.written e)
  | visitors e =>
      obtain ⟨visitors, hv, rfl⟩ := Option.map_eq_some_iff.mp hf
      exact Visitors.exists_later_step hc hv hi

/-- After a run. -/
theorem exists_later_steps (h : (system sorter).Steps Connected f es f')
    (hi : f.visitors.screens[i]? = some r) :
    ∃ r', f'.visitors.screens[i]? = some r' ∧ r.Later r' := by
  refine h.invariant (I := fun f' => ∃ r', f'.visitors.screens[i]? = some r' ∧ r.Later r') ?_
    ⟨r, hi, .refl r⟩
  rintro f e f' ⟨r₁, hi₁, hlater₁⟩ hc hf
  obtain ⟨r₂, hi₂, hlater₂⟩ := exists_later_step hc hf hi₁
  exact ⟨r₂, hi₂, hlater₁.trans hlater₂⟩

/-- A press on a second screen is listening. -/
theorem exists_armed (hf : f.step sorter (.visitors (.screen i .likeButtonClicked)) = some f') :
    ∃ r, f'.visitors.screens[i]? = some r ∧
      (r.currentUser ≠ none → r.listeners .getExistLikeLocation ≠ []) := by
  obtain ⟨visitors, hv, rfl⟩ := Option.map_eq_some_iff.mp hf
  obtain ⟨-, r, r', hi, hr, rfl⟩ := Visitors.step_screen hv
  obtain ⟨hlt, -⟩ := List.getElem?_eq_some_iff.mp hi
  refine ⟨r', List.getElem?_set_self (by rwa [List.length_map]), fun huser => ?_⟩
  have hcurrent : r'.currentUser = r.currentUser :=
    (RouteFeeds.later_step (e := .likeButtonClicked) trivial hr).currentUser
  rcases RouteFeeds.listeners_likeButtonClicked hr with ⟨hnone, -⟩ | hlisteners
  · exact absurd (hcurrent.trans hnone) huser
  · rw [hlisteners]
    exact List.concat_ne_nil _ _

/-- Whoever has pressed on a second screen likes the trip once nothing waits there, and
`isExist` of the screen says so. -/
theorem Inv.liked (h : f.Inv sorter) (hi : f.visitors.screens[i]? = some r)
    (huser : r.currentUser = some user) (harmed : r.listeners .getExistLikeLocation ≠ [])
    (hquiet : r.Quiet) : ContentViewController.checkLike f.store r.contentId user ≠ [] ∧
      r.screen.vc.isExist = true := by
  obtain ⟨hstore, hran⟩ := h.visitors.screens r (List.mem_of_getElem? hi)
  obtain ⟨hsound, hfed⟩ := hran.sound_fed
  obtain ⟨store, contentId, currentUser, es, hwell, hrun⟩ := hran
  have hliked : r.result .getExistLikeLocation ≠ [] :=
    (RouteFeeds.sticks_steps hwell hrun (hquiet .getExistLikeLocation)).resolve_left harmed
  refine ⟨?_, (hfed.current hsound hquiet).isExist.mpr hliked⟩
  rw [RouteFeeds.result, huser, hstore] at hliked
  exact hliked

/-- **Likes stick.**  A user has pressed the button of a second screen at some time.  Then
whatever has happened since, on any screen, the user likes the trip as soon as nothing waits
for that screen, and its `isExist` is true; and from any state, however often the like has just
been deleted, the answers and snapshots on their way lead to a state at rest in which the user
likes the trip again. -/
theorem steps_stick (h₀ : store.WellFormed)
    (h : (system sorter).Steps Connected { visitors := { store } } es f)
    (hpress : .visitors (.screen i .likeButtonClicked) ∈ es) :
    ∃ r, f.visitors.screens[i]? = some r ∧ ∀ user, r.currentUser = some user →
      (r.Quiet → ContentViewController.checkLike f.store r.contentId user ≠ [] ∧
        r.screen.vc.isExist = true) ∧
      ∃ gs f', (system sorter).Steps Progress f gs f' ∧ f'.Rest ∧
        ContentViewController.checkLike f'.store r.contentId user ≠ [] := by
  obtain ⟨fs, gs, rfl⟩ := List.append_of_mem hpress
  obtain ⟨f₁, hfs, hrest⟩ := h.split
  cases hrest with
  | @cons _ f₂ _ _ _ hc hf hgs =>
      obtain ⟨r₂, hi₂, harmed₂⟩ := exists_armed hf
      obtain ⟨r, hi, hlater⟩ := exists_later_steps hgs hi₂
      have hI : f.Inv sorter := (inv_start h₀).steps h
      refine ⟨r, hi, fun user huser => ?_⟩
      have harmed : r.listeners .getExistLikeLocation ≠ [] := by
        refine hlater.armed (harmed₂ ?_)
        rw [← hlater.currentUser, huser]
        exact Option.some_ne_none user
      refine ⟨hI.liked hi huser harmed, ?_⟩
      have hstep : ∀ {f : Feedback} {e f'}, f.Inv sorter → f.Progress e →
          f.step sorter e = some f' → f'.Inv sorter ∧ Below f'.rank f.rank :=
        fun hI hc hf => ⟨hI.step hc.connected hf, below_of_progress hI hc hf⟩
      obtain ⟨-, gs', f', hrun, hrest, hI'⟩ := EventSystem.comes_to_rest wellFounded_below
        (S := system sorter) (Q := Rest) hstep exists_progress hI
      obtain ⟨r', hi', hlater'⟩ :=
        exists_later_steps (hrun.mono fun _ _ hc => hc.connected) hi
      refine ⟨gs', f', hrun, hrest, ?_⟩
      rw [← hlater'.contentId]
      refine (hI'.liked hi' (hlater'.currentUser.trans huser) (hlater'.armed harmed) ?_).1
      exact hrest.2 r' (List.mem_of_getElem? hi')

/-- A user likes a trip on a second screen and takes the like back on a first one. -/
def takenBack : List Event :=
  [.visitors (.opened "trip" (some "a@b.c")), .visitors (.screen 0 .likeButtonClicked),
    .visitors (.screen 0 (.delivered .getExistLikeLocation 0 "1" fun _ => 0)),
    .opened "a@b.c" (DetailsScreen.storyboard "trip"), .guest 0 .clickLikeBtn,
    .guest 0 (.evaluated .getExistLikeLocation 0 true), .guest 0 (.callback "2" fun _ => 0)]

/-- The like is gone, but comes back. -/
theorem takenBack_stick : ∃ f, (system .insertion).Steps Connected
    { visitors := { store := .empty } } takenBack f ∧
      ContentViewController.checkLike f.store "trip" "a@b.c" = [] ∧
      ∃ gs f', (system .insertion).Steps Progress f gs f' ∧ f'.Rest ∧
        ContentViewController.checkLike f'.store "trip" "a@b.c" ≠ [] := by
  obtain ⟨f, hrun, hgone⟩ := EventSystem.exists_steps_of_exec (system .insertion) Connected
    { visitors := { store := .empty } } takenBack (fun f =>
      (ContentViewController.checkLike f.store "trip" "a@b.c").isEmpty &&
        f.visitors.screens[0]?.any fun r : RouteFeeds =>
          decide (r.contentId = "trip" ∧ r.currentUser = some "a@b.c")) (by decide +kernel)
  obtain ⟨hgone, hscreen⟩ := (Bool.and_eq_true _ _).mp hgone
  obtain ⟨r₀, hi₀, hr₀⟩ := (Option.any_eq_true _ _).mp hscreen
  obtain ⟨hid, huser⟩ := of_decide_eq_true hr₀
  obtain ⟨r, hi, hstick⟩ := steps_stick (i := 0) Store.wellFormed_empty hrun
    (List.mem_cons_of_mem _ List.mem_cons_self)
  cases hi₀.symm.trans hi
  obtain ⟨-, gs, f', hprogress, hrest, hliked⟩ := hstick "a@b.c" huser
  exact ⟨f, hrun, List.isEmpty_iff.mp hgone, gs, f', hprogress, hrest, hid ▸ hliked⟩

end Feedback

end Groute
