import Groute.Content.Controllers
import Groute.Lib.EventSystem
import Groute.Lib.Listeners

/-!
# Likes on the second screen for a trip

Each press of the like button of `ContentRouteViewController` registers a snapshot
listener on the likes of the user, which nothing removes.  Whatever it receives,
it writes: a like if the user has none, and otherwise the deletion of a document
under the identifier of the trip, where there is no like.  So its own write
triggers it again, and with it the listeners of all earlier presses.

A press does what it should if it is the first one, the user has no like then, and
from then on the user's likes never run out (`RouteLikes.Calm`).

The listeners that `getLikeCount` registers write nothing and are left out, and so
is what the screen shows.
-/

namespace Groute

open ContentRouteViewController

/-- What a listener receives. -/
structure Snapshot where
  /-- It is the first one, which answers the press of the button. -/
  initial : Bool
  documents : List (DocId × Document)

/-- The likes of a trip, and the listeners that the screen has registered. -/
structure RouteLikes where
  store : Store
  contentId : DocId
  currentUser : String
  listeners : Listeners Snapshot := []
  /-- How often the button was pressed. -/
  taps : Nat := 0
  /-- How often a write of the screen has changed the likes. -/
  changes : Nat := 0

namespace RouteLikes

/-- What can happen. -/
inductive Event where
  | likeButtonClicked
  /-- Listener `k` receives a snapshot; a like it adds gets the identifier `id`. -/
  | delivered (k : Nat) (id : DocId)
  /-- A like is added elsewhere, by this user or another. -/
  | liked (email : String) (id : DocId)
  /-- A like is deleted elsewhere. -/
  | unliked (id : DocId)

/-- The likes of the trip. -/
def favorites (r : RouteLikes) : Collection DocId Document := r.store.sub .favorite r.contentId

/-- The query of `getExistLikeLocation`. -/
def checkLike (r : RouteLikes) : List (DocId × Document) :=
  r.favorites.query fun d => d.get "email" = some (.string r.currentUser)

/-- A write is carried out.  Likes are only added and deleted, so the identifiers
tell whether the listeners are notified. -/
def write (r : RouteLikes) (w : Write) : RouteLikes :=
  let r' := { r with store := r.store.apply w }
  { r' with listeners :=
      if r'.checkLike.map Prod.fst = r.checkLike.map Prod.fst then r.listeners
      else r.listeners.notify ⟨false, r'.checkLike⟩ }

/-- A write of the screen is carried out. -/
def change (r : RouteLikes) (w : Write) : RouteLikes :=
  let r' := r.write w
  { r' with changes :=
      if r'.favorites.docs.map Prod.fst = r.favorites.docs.map Prod.fst then r.changes
      else r.changes + 1 }

/-- The state after an event. -/
def step (r : RouteLikes) : Event → Option RouteLikes
  | .likeButtonClicked => some { r with
      listeners := r.listeners.register ⟨true, r.checkLike⟩
      taps := r.taps + 1 }
  | .delivered k id =>
      (r.listeners.deliver k).bind fun (snapshot, listeners) =>
        if (r.favorites.get id).isNone then
          some (change { r with listeners }
            (getExistLikeLocationDone r.contentId id r.currentUser snapshot.documents))
        else none
  | .liked email id =>
      if (r.favorites.get id).isNone then
        some (r.write (.addSub .favorite r.contentId id (favorite email)))
      else none
  | .unliked id => some (r.write (.deleteSub .favorite r.contentId id))

/-- The likes of one trip. -/
def system : EventSystem RouteLikes Event := ⟨step⟩

/-- Whether the user has a like has changed, and nobody else's like has. -/
structure Toggled (r r' : RouteLikes) : Prop where
  flipped : r'.checkLike = [] ↔ r.checkLike ≠ []
  others : ∀ id d, d.get "email" ≠ some (.string r.currentUser) →
    (r'.favorites.get id = some d ↔ r.favorites.get id = some d)

/-- Likes change by presses only: the first snapshot of a listener toggles the
like of the user, and the others change nothing. -/
def Lawful (r : RouteLikes) (e : Event) (r' : RouteLikes) : Prop :=
  match e with
  | .likeButtonClicked => r'.favorites = r.favorites
  | .delivered k _ => ∀ snapshot listeners, r.listeners.deliver k = some (snapshot, listeners) →
      if snapshot.initial then r.Toggled r' else r'.favorites = r.favorites
  | .liked _ _ | .unliked _ => True

/-- The button is pressed once at most, when the user has no like.  From then on
the user's likes do not run out, the user likes the trip nowhere else before the
press is answered, and no like has the identifier of the trip. -/
def Calm (r : RouteLikes) : Event → Prop
  | .likeButtonClicked =>
      r.listeners = [] ∧ r.checkLike = [] ∧ r.favorites.get r.contentId = none
  | .delivered _ id => id ≠ r.contentId
  | .liked email id => r.listeners ≠ [] →
      id ≠ r.contentId ∧ (r.checkLike = [] → email ≠ r.currentUser)
  | .unliked id => r.listeners ≠ [] → r.checkLike ≠ [] → ∃ d ∈ r.checkLike, d.1 ≠ id

/-- The screen is opened. -/
structure Opened (r : RouteLikes) : Prop where
  listeners : r.listeners = []
  taps : r.taps = 0
  changes : r.changes = 0

/-- How far the one press has come. -/
inductive Phase (r : RouteLikes) : Prop where
  | untouched (hnone : r.listeners = []) (hcount : r.changes ≤ r.taps)
  | waiting (hone : r.listeners = [[⟨true, []⟩]]) (hcheck : r.checkLike = [])
      (hid : r.favorites.get r.contentId = none) (hcount : r.changes < r.taps)
  | armed (queue : List Snapshot) (hone : r.listeners = [queue])
      (hqueue : ∀ s ∈ queue, s.initial = false ∧ s.documents ≠ []) (hcheck : r.checkLike ≠ [])
      (hid : r.favorites.get r.contentId = none) (hcount : r.changes ≤ r.taps)

variable {r r' r₀ : RouteLikes} {w : Write} {e : Event} {es : List Event} {id : DocId}
  {email : String}

/-- The listeners are notified exactly if the likes of the user have changed. -/
theorem listeners_write : (r.write w).listeners =
    if (r.write w).checkLike.map Prod.fst = r.checkLike.map Prod.fst then r.listeners
    else r.listeners.notify ⟨false, (r.write w).checkLike⟩ := rfl

theorem listeners_change : (r.change w).listeners = (r.write w).listeners := rfl

theorem checkLike_change : (r.change w).checkLike = (r.write w).checkLike := rfl

theorem favorites_change : (r.change w).favorites = (r.write w).favorites := rfl

theorem favorites_addSub {d : Document} :
    (r.write (.addSub .favorite r.contentId id d)).favorites = r.favorites.set id d :=
  Store.sub_addSub

theorem favorites_deleteSub :
    (r.write (.deleteSub .favorite r.contentId id)).favorites = r.favorites.erase id :=
  Store.sub_deleteSub

/-- A new like is the user's or somebody else's. -/
theorem checkLike_addSub (h : r.favorites.get id = none) :
    (r.write (.addSub .favorite r.contentId id (favorite email))).checkLike =
      if email = r.currentUser then (id, favorite email) :: r.checkLike else r.checkLike := by
  rw [checkLike, favorites_addSub, Collection.query_set h]
  refine if_congr ?_ rfl rfl
  rw [decide_eq_true_eq]
  change some (Value.string email) = some (.string r.currentUser) ↔ _
  rw [Option.some.injEq, Value.string.injEq]

theorem checkLike_deleteSub :
    (r.write (.deleteSub .favorite r.contentId id)).checkLike =
      r.checkLike.filter fun d => d.1 ≠ id := by
  rw [checkLike, favorites_deleteSub, Collection.query_erase]
  rfl

/-- Deleting a like that is not there changes nothing. -/
theorem change_deleteSub (h : r.favorites.get id = none) :
    r.change (.deleteSub .favorite r.contentId id) = r := by
  have hwrite : r.write (.deleteSub .favorite r.contentId id) = r := by
    rw [write, Store.apply_deleteSub_of_get_eq_none h]
    simp
  rw [change, hwrite]
  simp

/-- A write elsewhere that neither ends nor starts the likes of the user while a
listener is registered. -/
theorem Phase.write (h : r.Phase)
    (hcheck : r.listeners ≠ [] → ((r.write w).checkLike = [] ↔ r.checkLike = []))
    (hid : r.listeners ≠ [] → r.favorites.get r.contentId = none →
      (r.write w).favorites.get r.contentId = none) : (r.write w).Phase := by
  cases h with
  | untouched hnone hcount =>
      refine .untouched ?_ hcount
      rw [listeners_write, hnone]
      exact ite_self _
  | waiting hone hnil hget hcount =>
      have hne : r.listeners ≠ [] := by rw [hone]; exact List.cons_ne_nil _ _
      have hnil' := (hcheck hne).mpr hnil
      refine .waiting ?_ hnil' (hid hne hget) hcount
      rw [listeners_write, hnil', hnil, if_pos rfl, hone]
  | armed queue hone hqueue hlikes hget hcount =>
      have hne : r.listeners ≠ [] := by rw [hone]; exact List.cons_ne_nil _ _
      have hlikes' := mt (hcheck hne).mp hlikes
      by_cases hsame : (r.write w).checkLike.map Prod.fst = r.checkLike.map Prod.fst
      · refine .armed queue ?_ hqueue hlikes' (hid hne hget) hcount
        rw [listeners_write, if_pos hsame, hone]
      · refine .armed (queue ++ [⟨false, (r.write w).checkLike⟩]) ?_ (fun s hs => ?_) hlikes'
          (hid hne hget) hcount
        · rw [listeners_write, if_neg hsame, hone]
          rfl
        · rcases List.mem_append.mp hs with hs | hs
          · exact hqueue s hs
          · rw [List.mem_singleton.mp hs]
            exact ⟨rfl, hlikes'⟩

/-- The only listener receives its oldest snapshot. -/
theorem deliver_singleton {k : Nat} {queue : List Snapshot} {snapshot : Snapshot}
    {listeners : Listeners Snapshot}
    (h : Listeners.deliver [queue] k = some (snapshot, listeners)) :
    ∃ rest, queue = snapshot :: rest ∧ listeners = [rest] := by
  obtain ⟨before, rest, after, hsplit, rfl, -⟩ := Listeners.deliver_eq_some h
  obtain ⟨rfl, hrest⟩ := List.append_eq_cons_iff.mp hsplit.symm |>.resolve_right (by simp)
  obtain ⟨rfl, rfl⟩ := List.cons.inj hrest
  exact ⟨rest, rfl, rfl⟩

/-- What the listener adds when the user has no like. -/
theorem checkLike_answer (hcheck : r.checkLike = []) (hfresh : r.favorites.get id = none) :
    (r.write (.addSub .favorite r.contentId id (favorite r.currentUser))).checkLike =
      [(id, favorite r.currentUser)] := by
  rw [checkLike_addSub hfresh, if_pos rfl, hcheck]

/-- The press is answered: the only listener, which has received its first snapshot,
adds a like and will be told so. -/
theorem Phase.answer (hone : r.listeners = [[]]) (hcheck : r.checkLike = [])
    (hget : r.favorites.get r.contentId = none) (hcount : r.changes < r.taps)
    (hfresh : r.favorites.get id = none) (hid : id ≠ r.contentId) :
    (r.change (.addSub .favorite r.contentId id (favorite r.currentUser))).Phase := by
  have hlikes := checkLike_answer hcheck hfresh
  refine .armed [⟨false, [(id, favorite r.currentUser)]⟩] ?_ (fun s hs => ?_) ?_ ?_ ?_
  · rw [listeners_change, listeners_write, hlikes, hcheck, if_neg (by simp), hone]
    rfl
  · rw [List.mem_singleton.mp hs]
    exact ⟨rfl, List.cons_ne_nil _ _⟩
  · rw [checkLike_change, hlikes]
    exact List.cons_ne_nil _ _
  · rw [favorites_change, favorites_addSub]
    exact (Collection.get_set_of_ne _ _ hid.symm).trans hget
  · rw [change]
    dsimp only
    split
    · exact Nat.le_of_lt hcount
    · exact hcount

/-- It toggles the like of the user. -/
theorem toggled_answer (hcheck : r.checkLike = []) (hfresh : r.favorites.get id = none) :
    r.Toggled (r.change (.addSub .favorite r.contentId id (favorite r.currentUser))) where
  flipped := by
    rw [checkLike_change, checkLike_answer hcheck hfresh, hcheck]
    simp
  others id' d hd := by
    rw [favorites_change, favorites_addSub]
    by_cases hid : id' = id
    · subst hid
      rw [Collection.get_set_self, hfresh]
      constructor
      · rintro ⟨⟩
        exact absurd rfl hd
      · rintro ⟨⟩
    · rw [Collection.get_set_of_ne _ _ hid]

/-- A calm step goes on to the next phase and is lawful. -/
theorem Phase.step (h : r.Phase) (hc : r.Calm e) (hr : r.step e = some r') :
    r'.Phase ∧ r.Lawful e r' := by
  cases e with
  | likeButtonClicked =>
      cases hr
      obtain ⟨hnone, hcheck, hget⟩ := hc
      cases h with
      | untouched _ hcount =>
          refine ⟨.waiting ?_ hcheck hget (Nat.lt_succ_of_le hcount), rfl⟩
          rw [hnone, hcheck]
          rfl
      | waiting hone _ _ _ => cases hnone.symm.trans hone
      | armed _ hone _ _ _ _ => cases hnone.symm.trans hone
  | delivered k id =>
      obtain ⟨⟨snapshot, listeners⟩, hdeliver, hr⟩ := Option.bind_eq_some_iff.mp hr
      obtain ⟨hfresh, ⟨⟩⟩ := Option.ite_none_right_eq_some.mp hr
      have hfresh := Option.isNone_iff_eq_none.mp hfresh
      cases h with
      | untouched hnone _ =>
          rw [hnone] at hdeliver
          cases hdeliver
      | waiting hone hcheck hget hcount =>
          rw [hone] at hdeliver
          obtain ⟨rest, hqueue, rfl⟩ := deliver_singleton hdeliver
          obtain ⟨rfl, rfl⟩ := List.cons.inj hqueue
          refine ⟨Phase.answer (r := { r with listeners := [[]] }) rfl hcheck hget hcount hfresh hc,
            ?_⟩
          rintro snapshot' listeners' hdeliver'
          rw [hone] at hdeliver'
          cases hdeliver.symm.trans hdeliver'
          exact { toggled_answer (r := { r with listeners := [[]] }) hcheck hfresh with }
      | armed queue hone hqueue hlikes hget hcount =>
          have hdeliver' := hdeliver
          rw [hone] at hdeliver'
          obtain ⟨rest, rfl, rfl⟩ := deliver_singleton hdeliver'
          obtain ⟨hinitial, hdocuments⟩ := hqueue snapshot List.mem_cons_self
          have hwrite : getExistLikeLocationDone r.contentId id r.currentUser snapshot.documents =
              .deleteSub .favorite r.contentId r.contentId :=
            if_neg (by simpa using hdocuments)
          have hsame := change_deleteSub (r := { r with listeners := [rest] }) hget
          rw [hwrite, hsame]
          refine ⟨.armed rest rfl (fun s hs => hqueue s (List.mem_cons_of_mem _ hs)) hlikes hget
            hcount, ?_⟩
          intro snapshot' listeners' hdeliver'
          cases hdeliver.symm.trans hdeliver'
          rw [if_neg (by simp [hinitial])]
          rfl
  | liked email id =>
      obtain ⟨hfresh, ⟨⟩⟩ := Option.ite_none_right_eq_some.mp hr
      have hfresh := Option.isNone_iff_eq_none.mp hfresh
      refine ⟨h.write (fun hne => ?_) (fun hne hget => ?_), trivial⟩
      · rw [checkLike_addSub hfresh]
        split
        · next hemail =>
          have hlikes := mt ((hc hne).2) (not_not_intro hemail)
          simp [hlikes]
        · rfl
      · rw [favorites_addSub, Collection.get_set_of_ne _ _ (hc hne).1.symm, hget]
  | unliked id =>
      cases hr
      refine ⟨h.write (fun hne => ?_) (fun hne hget => ?_), trivial⟩
      · rw [checkLike_deleteSub]
        constructor
        · intro hnil
          by_contra hlikes
          obtain ⟨d, hd, hdid⟩ := hc hne hlikes
          have hmem : d ∈ r.checkLike.filter fun d => d.1 ≠ id :=
            List.mem_filter.mpr ⟨hd, decide_eq_true hdid⟩
          rw [hnil] at hmem
          cases hmem
        · intro hnil
          rw [hnil, List.filter_nil]
      · rw [favorites_deleteSub]
        by_cases hid : r.contentId = id
        · rw [hid, Collection.get_erase_self]
        · rw [Collection.get_erase_of_ne _ hid, hget]

/-- Every phase has made one change for each press at most. -/
theorem Phase.changes_le (h : r.Phase) : r.changes ≤ r.taps := by
  cases h with
  | untouched _ hcount => exact hcount
  | waiting _ _ _ hcount => exact Nat.le_of_lt hcount
  | armed _ _ _ _ _ hcount => exact hcount

/-- **Likes change by presses only.**  Along a calm run every press toggles the like
of the user, no other snapshot changes anything, and there are no more changes than
presses. -/
theorem steps_lawful (h₀ : r₀.Opened) (h : system.Steps Calm r₀ es r) :
    (∀ fs e b b', fs ++ [e] <+: es → system.Runs r₀ fs b → b.step e = some b' →
      b.Lawful e b') ∧ r.changes ≤ r.taps := by
  have hstart : r₀.Phase := .untouched h₀.listeners (by rw [h₀.changes, h₀.taps])
  constructor
  · intro fs e b b' hfs hb hstep
    exact h.forall_steps (I := Phase) (P := Lawful) (fun hI hc hr => hI.step hc hr) hstart hfs hb
      hstep
  · exact (h.invariant (fun hI hc hr => (Phase.step hI hc hr).1) hstart).changes_le

/-- A press waits until everything has been received. -/
def Settled (r : RouteLikes) : Event → Prop
  | .likeButtonClicked => r.listeners.pending.isEmpty
  | .delivered _ _ | .liked _ _ | .unliked _ => True

instance (r : RouteLikes) (e : Event) : Decidable (r.Calm e) :=
  match e with
  | .likeButtonClicked => decidable_of_iff
      (r.listeners.isEmpty ∧ r.checkLike.isEmpty ∧ (r.favorites.get r.contentId).isNone)
      (by rw [List.isEmpty_iff, List.isEmpty_iff, Option.isNone_iff_eq_none]; rfl)
  | .delivered _ id => inferInstanceAs (Decidable (id ≠ r.contentId))
  | .liked email id => decidable_of_iff
      (¬r.listeners.isEmpty → id ≠ r.contentId ∧ (r.checkLike.isEmpty → email ≠ r.currentUser))
      (by rw [List.isEmpty_iff, List.isEmpty_iff]; rfl)
  | .unliked id => decidable_of_iff
      (¬r.listeners.isEmpty → ¬r.checkLike.isEmpty → ∃ d ∈ r.checkLike, d.1 ≠ id)
      (by rw [List.isEmpty_iff, List.isEmpty_iff]; rfl)

instance (r : RouteLikes) (e : Event) : Decidable (r.Settled e) :=
  match e with
  | .likeButtonClicked => inferInstanceAs (Decidable (r.listeners.pending.isEmpty = true))
  | .delivered _ _ | .liked _ _ | .unliked _ => inferInstanceAs (Decidable True)

/-- A trip without likes. -/
def unliked : RouteLikes := { store := .empty, contentId := "trip", currentUser := "a@b.c" }

theorem opened_unliked : unliked.Opened := ⟨rfl, rfl, rfl⟩

/-- The user likes the trip, and so does somebody else. -/
def pressed : List Event := [.likeButtonClicked, .delivered 0 "like", .liked "d@e.f" "another",
  .delivered 0 "unused"]

theorem pressed_lawful : ∃ r, system.Runs unliked pressed r ∧
    (∀ fs e b b', fs ++ [e] <+: pressed → system.Runs unliked fs b → b.step e = some b' →
      b.Lawful e b') ∧ r.changes ≤ r.taps := by
  obtain ⟨r, hrun, -⟩ := EventSystem.exists_steps_of_exec system Calm unliked pressed
    (fun _ => true) (by decide)
  exact ⟨r, hrun.runs, steps_lawful opened_unliked hrun⟩

/-- A second press does not take the like back. -/
theorem exists_not_lawful : ¬∀ {r₀ r : RouteLikes} {es : List Event}, r₀.Opened →
    r₀.checkLike.length ≤ 1 → system.Steps Settled r₀ es r →
    ∀ fs e b b', fs ++ [e] <+: es → system.Runs r₀ fs b → b.step e = some b' →
      b.Lawful e b' := by
  intro hall
  obtain ⟨r, hrun, hr⟩ := EventSystem.exists_steps_of_exec system Settled unliked
    [.likeButtonClicked, .delivered 0 "like", .delivered 0 "unused", .likeButtonClicked]
    (fun r => ((r.listeners.deliver 1).any fun d => d.1.initial) && !r.checkLike.isEmpty &&
      (r.step (.delivered 1 "unused")).any fun r' => !r'.checkLike.isEmpty) (by decide)
  obtain ⟨hr, hstep⟩ := Bool.and_eq_true_iff.mp hr
  obtain ⟨hdeliver, hlikes⟩ := Bool.and_eq_true_iff.mp hr
  obtain ⟨⟨snapshot, listeners⟩, hdeliver, hinitial⟩ := (Option.any_eq_true _ _).mp hdeliver
  obtain ⟨r', hstep, hlikes'⟩ : ∃ r', system.step r (.delivered 1 "unused") = some r' ∧
    (!r'.checkLike.isEmpty) = true := (Option.any_eq_true _ _).mp hstep
  have hsettled : r.Settled (.delivered 1 "unused") := trivial
  have hlawful := hall opened_unliked (Nat.zero_le 1) (hrun.snoc hsettled hstep) _ _ r r'
    (List.prefix_refl _) hrun.runs hstep snapshot listeners hdeliver
  rw [if_pos hinitial] at hlawful
  have hnil := hlawful.flipped.mpr (by simpa using hlikes)
  rw [hnil] at hlikes'
  cases hlikes'

end RouteLikes

end Groute
