import Groute.Authoring.Itinerary

/-!
# Saved trips

A run that ends with the confirm action of the save alert leaves a document
that is complete exactly if the user revisited the list of places
(`Itinerary.Revisited`): the city and the image are written when that list is
opened, and the confirm action writes nothing.

The run is one of any number that are interleaved in any order; the other runs
cannot reach its document.
-/

namespace Groute

namespace Session

variable {s : Session} {st st' : Store} {it : Itinerary}

/-- The itinerary concerns the trip of the run only. -/
theorem Follows.sameAt (h : Follows it s st) (hsame : Store.SameAt s.created st st') :
    Follows it s st' :=
  { h with
    document := by rw [hsame.content]; exact h.document
    plans := { h.plans with
      stops := by rw [hsame.sub]; exact h.plans.stops
      firstDay := by rw [hsame.sub]; exact h.plans.firstDay } }

/-- A run starts with an empty itinerary. -/
theorem follows_enter {created : DocId} {randomElement : Nat → Fin letters.length}
    {currentUser : Option String} {now : Date} (h : st.Unused created) :
    Follows {} (enter created randomElement currentUser)
      (st.apply (.addContent created (TitleViewController.createRouteDocument
        (TitleViewController.drawId randomElement) currentUser now))) where
  title := rfl
  memo := rfl
  contentTitle := nofun
  contentMemo := nofun
  city := rfl
  day := rfl
  tour := nofun
  image := rfl
  visited := nofun
  deletion := rfl
  document := ⟨_, Collection.get_set_self _ _ _, {
    title := nofun
    memo := nofun
    location := rfl
    email := rfl
    image := ⟨"", rfl, fun _ => rfl, fun hne => absurd rfl hne⟩ }⟩
  plans := {
    stops := by
      intro id d hd
      rw [show (enter created randomElement currentUser).created = created from rfl,
        Store.apply, h.sub] at hd
      cases hd
    firstDay := fun hne => absurd rfl hne
    received := nofun
    section0 := nofun
    current := nofun }

/-- What a run that follows the itinerary to the end has written. -/
theorem Follows.complete_iff (h : Follows it s st) (hsaved : s.phase = .saved) :
    (∃ d, st.content.get s.created = some d ∧ d.Complete it s.currentUser) ↔ it.Revisited := by
  obtain ⟨d, hd, hsays⟩ := h.document
  obtain ⟨image, himage, hnone, hsome⟩ := hsays.image
  have hwritten : s.phase.IsWritten := by rw [hsaved]; trivial
  constructor
  · rintro ⟨d', hd', hcomplete⟩
    cases hd.symm.trans hd'
    refine ⟨?_, fun hfirst => ?_⟩
    · have hcity := hsays.location.symm.trans hcomplete.location
      rwa [Option.some.injEq, Value.string.injEq] at hcity
    · by_cases hvisited : it.visitedImages = []
      · obtain ⟨image', hmem, himage'⟩ := hcomplete.image hfirst
        have heq := himage.symm.trans himage'
        rw [Option.some.injEq, Value.string.injEq, hnone hvisited] at heq
        exact Or.inr (heq ▸ hmem)
      · exact Or.inl hvisited
  · rintro ⟨hcity, hfirst⟩
    refine ⟨d, hd, {
      title := hsays.title hwritten
      memo := hsays.memo hwritten
      location := hcity ▸ hsays.location
      email := hsays.email
      image := fun hne => ⟨image, ?_, himage⟩ }⟩
    by_cases hvisited : it.visitedImages = []
    · rw [hnone hvisited]
      exact (hfirst hne).resolve_left (not_not.mpr hvisited)
    · exact h.visited image (hsome hvisited)

end Session

namespace World

variable {w w' w₁ w₂ w₃ : World} {e : Event} {fs : List Event} {i : Nat} {created : DocId}
  {currentUser : Option String}

/-- What an event is for the `i`-th run. -/
def Event.ofRun (i : Nat) : Event → Option Session.Event
  | .run j e _ => if j = i then some e else none
  | .enter .. | .elsewhere _ => none

/-- The itinerary of the `i`-th run. -/
def itinerary (i : Nat) (es : List Event) : Itinerary :=
  (es.filterMap (Event.ofRun i)).foldl Itinerary.step {}

theorem itinerary_of_some {e' : Session.Event} (h : e.ofRun i = some e') :
    itinerary i (fs ++ [e]) = (itinerary i fs).step e' := by
  simp [itinerary, h]

theorem itinerary_of_none (h : e.ofRun i = none) : itinerary i (fs ++ [e]) = itinerary i fs := by
  simp [itinerary, h]

/-- The operations of the `i`-th run succeed, its user waits for the callbacks,
and no other feature of the app writes to its trip. -/
def Prompt (i : Nat) (created : DocId) (w : World) : Event → Prop
  | .run j e ok => j = i → ok = true ∧
      (e.isUser → ∀ s ∈ w.sessions[i]?, s.Delivered)
  | .elsewhere wr => wr.target ≠ created
  | .enter .. => True

instance (i : Nat) (created : DocId) (w : World) (e : Event) :
    Decidable (Prompt i created w e) :=
  match e with
  | .run j e ok => inferInstanceAs (Decidable (j = i → ok = true ∧
      (e.isUser → ∀ s ∈ w.sessions[i]?, s.Delivered)))
  | .elsewhere wr => inferInstanceAs (Decidable (wr.target ≠ created))
  | .enter .. => inferInstanceAs (Decidable True)

/-- What is known of the `i`-th run after the events `fs`. -/
structure Saving (i : Nat) (created : DocId) (currentUser : Option String) (fs : List Event)
    (w : World) (s : Session) : Prop where
  owned : w.Owned
  session : w.sessions[i]? = some s
  created_eq : s.created = created
  currentUser_eq : s.currentUser = currentUser
  follows : s.phase.IsOpen → Session.Follows (itinerary i fs) s w.store

/-- An event of which the `i`-th run takes no notice. -/
theorem Saving.other {s : Session} (h : Saving i created currentUser fs w s)
    (hw : w.step e = some w') (he : e.ofRun i = none) (hs : w'.sessions[i]? = some s)
    (hsame : Store.SameAt created w.store w'.store) :
    Saving i created currentUser (fs ++ [e]) w' s where
  owned := h.owned.step hw
  session := hs
  created_eq := h.created_eq
  currentUser_eq := h.currentUser_eq
  follows hopen := by
    rw [itinerary_of_none he]
    exact (h.follows hopen).sameAt (h.created_eq ▸ hsame)

/-- Every event that meets the condition keeps the invariant. -/
theorem Saving.step {s : Session} (h : Saving i created currentUser fs w s)
    (he : Prompt i created w e) (hw : w.step e = some w') :
    ∃ s', Saving i created currentUser (fs ++ [e]) w' s' := by
  have hlt := (List.getElem?_eq_some_iff.mp h.session).1
  cases e with
  | enter created' randomElement currentUser' now ok =>
      have hstep := hw
      obtain ⟨⟨-, -, -, hother⟩, ⟨⟩⟩ := Option.ite_none_right_eq_some.mp hw
      have hne : created ≠ created' := fun heq =>
        (hother s (List.mem_of_getElem? h.session)).1 (h.created_eq.trans heq)
      refine ⟨s, h.other hstep rfl ?_ ?_⟩
      · rw [List.getElem?_append_left hlt]
        exact h.session
      · dsimp only
        split
        · exact Store.sameAt_apply (w := .addContent created' _) hne
        · exact .refl _ _
  | run j e ok =>
      by_cases hj : j = i
      · subst hj
        obtain ⟨rfl, hprompt⟩ := he rfl
        have howned := h.owned.step hw
        obtain ⟨s', r, hi, hr, hcases⟩ := step_run hw
        cases h.session.symm.trans hi
        have hs := List.mem_of_getElem? hi
        have hreacts := Session.reacts_of_react hr
        rcases hcases with ⟨-, rfl⟩ | ⟨hd, rfl⟩
        · exact ⟨s.abort, howned, List.getElem?_set_self hlt, h.created_eq, h.currentUser_eq,
            nofun⟩
        · refine ⟨r.next, howned, List.getElem?_set_self hlt,
            hreacts.fixed.1.trans h.created_eq, hreacts.fixed.2.2.trans h.currentUser_eq,
            fun hopen => ?_⟩
          have hof : (Event.run j e true).ofRun j = some e := if_pos rfl
          rw [itinerary_of_some hof]
          exact hreacts.follows (h.owned.own s hs) (h.owned.resolved s hs) hd
            (fun huser => hprompt huser s hi) (h.follows (hreacts.isOpen hopen)) hopen
      · have hstep := hw
        obtain ⟨s', r, hi, hr, hcases⟩ := step_run hw
        have hs' : ∀ t, (w.sessions.set j t)[i]? = some s := fun t => by
          rw [List.getElem?_set_ne hj]
          exact h.session
        refine ⟨s, h.other hstep (if_neg hj) ?_ ?_⟩
        · rcases hcases with ⟨-, rfl⟩ | ⟨-, rfl⟩ <;> exact hs' _
        · refine h.owned.sameAt_run hstep hi fun heq => hj ?_
          refine (List.getElem?_inj (by simpa using (List.getElem?_eq_some_iff.mp hi).1)
            h.owned.nodup).mp ?_
          simp [hi, h.session, h.created_eq, heq]
  | elsewhere wr =>
      have hstep := hw
      obtain ⟨-, ⟨⟩⟩ := Option.ite_none_right_eq_some.mp hw
      exact ⟨s, h.other hstep rfl h.session (Store.sameAt_apply (Ne.symm he))⟩

/-- **A saved trip.**  A run whose operations succeed and whose user waits for
the callbacks, and that ends with the confirm action of the save alert, leaves a
complete document exactly if its user revisited the list of places. -/
theorem saved_complete_iff {w₀ : World} {es : List Event}
    {randomElement : Nat → Fin letters.length} {now : Date} {s : Session} (h₀ : w₀.Initial)
    (hbefore : system.Runs w₀ es w₁)
    (henter : w₁.step (.enter created randomElement currentUser now true) = some w₂)
    (hrun : system.Steps (Prompt w₁.sessions.length created) w₂ fs w₃)
    (hs : w₃.sessions[w₁.sessions.length]? = some s) (hsaved : s.phase = .saved) :
    (∃ d, w₃.store.content.get created = some d ∧
      d.Complete (itinerary w₁.sessions.length fs) currentUser) ↔
      (itinerary w₁.sessions.length fs).Revisited := by
  have hstart : Saving w₁.sessions.length created currentUser [] w₂
      (Session.enter created randomElement currentUser) := by
    have howned := (Owned.runs h₀ hbefore).step henter
    obtain ⟨⟨-, hunused, -, -⟩, ⟨⟩⟩ := Option.ite_none_right_eq_some.mp henter
    exact ⟨howned, by simp, rfl, rfl, fun _ => Session.follows_enter hunused⟩
  obtain ⟨s', h⟩ : ∃ s', Saving w₁.sessions.length created currentUser fs w₃ s' :=
    hrun.invariant_history
      (I := fun fs w => ∃ s', Saving w₁.sessions.length created currentUser fs w s')
      (fun ⟨_, hI⟩ hc hstep => hI.step hc hstep) ⟨_, hstart⟩
  cases hs.symm.trans h.session
  have hiff := (h.follows (by rw [hsaved]; trivial)).complete_iff hsaved
  rwa [h.created_eq, h.currentUser_eq] at hiff

/-- From the title screen to the planner, with the callbacks of each screen. -/
def toPlanner : List Session.Event :=
  [.didAppear, .editTitle "Jeju", .editMemo "May", .next, .searchRead, .searchDone, .didAppear,
    .pickCity ⟨"Jeju", "", "", ⟨33, 126⟩⟩, .addRouteRead, .addRouteDone 0, .didAppear,
    .routeSnapshot 0 .dedup]

/-- A stop with an image is added to day 1. -/
def addStop : List Session.Event :=
  [.openRouteList 0, .didAppear, .openTour "tour",
    .tourDone (.ofFields [("imageAddress", .string "beach"), ("geopoint", .geopoint ⟨33, 126⟩)]),
    .didAppear, .confirmStop "stop", .addRouteRead, .addRouteDone 0, .didAppear,
    .routeSnapshot 1 .dedup]

/-- The list of places is opened once more before the trip is saved. -/
def revisit : List Session.Event :=
  [.openRouteList 1, .didAppear, .back, .addRouteRead, .addRouteDone 0, .didAppear,
    .routeSnapshot 2 .dedup]

/-- The events of the only run that save the trip after the given ones. -/
def savedRun (es : List Session.Event) : List Event :=
  (toPlanner ++ es ++ [Session.Event.saveConfirm]).map fun e => .run 0 e true

/-- That trip is complete. -/
theorem revisited_complete : ∃ w d,
    system.Runs blank (enterTrip :: savedRun (addStop ++ revisit)) w ∧
    w.store.content.get "trip" = some d ∧
    d.Complete (itinerary 0 (savedRun (addStop ++ revisit))) (some "a@b.c") := by
  obtain ⟨w, hrun, hw⟩ := EventSystem.exists_steps_of_exec system (Prompt 0 "trip") blank
    (enterTrip :: savedRun (addStop ++ revisit))
    (fun w => w.sessions[0]?.any fun s => s.phase = .saved) (by decide)
  obtain ⟨s, hs, hsaved⟩ := (Option.any_eq_true _ _).mp hw
  have hruns := hrun.runs
  cases hrun with
  | cons _ henter hrest =>
      change blank.step (.enter "trip" _ _ _ true) = _ at henter
      obtain ⟨d, hd, hcomplete⟩ := (saved_complete_iff initial_blank (.nil blank) henter hrest hs
        (of_decide_eq_true hsaved)).mpr (by decide)
      exact ⟨w, d, hruns, hd, hcomplete⟩

/-- The trip is saved without a visit to the list of places: its city is missing. -/
theorem exists_saved_incomplete : ¬∀ {w₀ w₁ w₂ w₃ : World} {es fs : List Event}
    {created : DocId} {randomElement : Nat → Fin letters.length} {currentUser : Option String}
    {now : Date} {s : Session}, w₀.Initial → system.Runs w₀ es w₁ →
    w₁.step (.enter created randomElement currentUser now true) = some w₂ →
    system.Steps (Prompt w₁.sessions.length created) w₂ fs w₃ →
    w₃.sessions[w₁.sessions.length]? = some s → s.phase = .saved →
    ∃ d, w₃.store.content.get created = some d ∧
      d.Complete (itinerary w₁.sessions.length fs) currentUser := by
  intro hall
  obtain ⟨w, hrun, hw⟩ := EventSystem.exists_steps_of_exec system (Prompt 0 "trip") blank
    (enterTrip :: savedRun [])
    (fun w => (w.sessions[0]?.any fun s => s.phase = .saved) &&
      (w.store.content.get "trip").all fun d => d.get "location" = some (.string "")) (by decide)
  obtain ⟨hsaved, hlocation⟩ := Bool.and_eq_true_iff.mp hw
  obtain ⟨s, hs, hsaved⟩ := (Option.any_eq_true _ _).mp hsaved
  cases hrun with
  | cons _ henter hrest =>
      change blank.step (.enter "trip" _ _ _ true) = _ at henter
      obtain ⟨d, hd, hcomplete⟩ := hall initial_blank (.nil blank) henter hrest hs
        (of_decide_eq_true hsaved)
      rw [hd, Option.all_some, decide_eq_true_eq] at hlocation
      exact absurd (hlocation.symm.trans hcomplete.location) (by decide)

end World

end Groute
