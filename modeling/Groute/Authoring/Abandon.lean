import Groute.Authoring.Ownership

/-!
# Abandoned trips

A run that does not end with the confirm action of the save alert ends either
with its cancel action, or by going back from the title screen.  The cancel
action deletes what the run has written.  Going back has no such code: the
document that `createRouteDocument` added when the title screen loaded stays,
with all its stops.

`Session.Lives` relates a run whose operations succeed to the database: its
document exists until the cancel action, and from then on everything that is
left of it is yet to be deleted.
-/

namespace Groute

namespace Session

variable {s : Session} {st : Store} {e : Event} {ok : Bool} {r : Response}

/-- The trip of a run exists, or is being deleted. -/
structure Lives (s : Session) (st : Store) : Prop where
  content : s.deletion = none → (st.content.get s.created).isSome
  covers : ∀ d ∈ s.deletion, d.Covers st
  cancelled : s.phase = .cancelled → s.deletion.isSome
  closed : s.deletion.isSome → s.phase = .cancelled ∨ s.phase = .aborted

/-- Only a run that the cancel action has ended is deleting. -/
theorem Lives.deletion_eq_none (h : s.Lives st) {screen : Screen} {appeared : Bool}
    (hp : s.phase = .on screen appeared) : s.deletion = none := by
  rw [← Option.not_isSome_iff_eq_none]
  intro hdel
  rcases h.closed hdel with hc | hc <;> cases hp.symm.trans hc

/-- A screen stays in the flow, or the run ends without the cancel action. -/
theorem Lives.on {screen : Screen} {appeared : Bool} (h : s.Lives st)
    (hp : s.phase = .on screen appeared) {s' : Session} {st' : Store}
    (hdeletion : s'.deletion = s.deletion) (hphase : s'.phase ≠ .cancelled)
    (hcontent : (st.content.get s.created).isSome → (st'.content.get s'.created).isSome) :
    s'.Lives st' := by
  have hnone := hdeletion.trans (h.deletion_eq_none hp)
  exact {
    content := fun _ => hcontent (h.content (h.deletion_eq_none hp))
    covers := by simp [hnone]
    cancelled := fun hc => absurd hc hphase
    closed := by simp [hnone] }

/-- The document survives an update. -/
theorem isSome_updateContent {id id' : DocId} {fields : Fields}
    (h : (st.content.get id).isSome) :
    ((st.apply (.updateContent id' fields)).content.get id).isSome := by
  by_cases hid : id = id'
  · subst hid
    simpa [Store.apply, Collection.get_modify_self] using h
  · simpa [Store.apply, Collection.get_modify_of_ne _ _ hid] using h

theorem Lives.abort (h : s.Lives st) : s.abort.Lives st :=
  { h with cancelled := nofun, closed := fun _ => Or.inr rfl }

/-- A successful reaction that does not abort keeps the invariant. -/
theorem Reacts.lives (h : Reacts s st e true r) (hs : s.Lives st) :
    r.next.Lives (st.applyAll r.writes) := by
  cases h with
  | editTitle hp | editMemo hp => exact hs.on hp rfl (by simp [hp]) id
  | next hp | pickCity hp | openTour hp | leave hp | saveConfirm hp | addRouteAppears hp
  | appears hp => exact hs.on hp rfl (by rintro ⟨⟩) id
  | back hp => exact hs.on hp rfl (by simp [popTo]) id
  | openRouteList hp | searchAppears hp => exact hs.on hp rfl (by rintro ⟨⟩) isSome_updateContent
  | confirmStop hp => exact hs.on hp rfl (by simp [popTo]) id
  | saveCancel hp =>
      exact {
        content := nofun
        covers := fun d hd => Option.some.inj hd ▸ Deletion.covers_saveCancel st _
        cancelled := fun _ => rfl
        closed := fun _ => Or.inl rfl }
  | searchRead | searchDone | addRouteRead | addRouteDone | routeSnapshot | tourDone =>
      exact { hs with }
  | addRouteTraps | routeTraps => exact hs.abort
  | @cleanUp e _ d d' ws hdel hstep =>
      exact { hs with
        content := nofun
        covers := fun d₁ hd₁ => Option.some.inj hd₁ ▸ (hs.covers d hdel).step hstep
        cancelled := fun _ => rfl
        closed := fun _ => hs.closed (by rw [hdel]; rfl) }

/-- Only the cancel action of the save alert starts to delete. -/
theorem Reacts.isSome_deletion_iff (h : Reacts s st e ok r) :
    r.next.deletion.isSome ↔ s.deletion.isSome ∨ e = .saveCancel := by
  cases h with
  | saveCancel => simp
  | cleanUp hdel => simp [hdel]
  | _ => simp [Session.abort, popTo]

/-- A run that aborted stays so. -/
theorem Reacts.aborted (h : Reacts s st e ok r) (hs : s.phase = .aborted) :
    r.next.phase = .aborted := by
  cases h with
  | searchRead | searchDone | addRouteRead | addRouteDone | routeSnapshot | routeFails
  | tourDone | cleanUp => exact hs
  | searchFails | addRouteTraps | routeTraps => rfl
  | editTitle hp | editMemo hp | next hp | pickCity hp | openRouteList hp | openTour hp
  | confirmStop hp | leave hp | back hp | saveConfirm hp | saveCancel hp | searchAppears hp
  | addRouteAppears hp | appears hp => cases hs.symm.trans hp

/-- The run has ended without the confirm action, and all it issued is done. -/
def Abandoned (s : Session) : Prop :=
  s.phase = .left ∨ s.phase = .cancelled ∧ ∃ d ∈ s.deletion, d.isDone

end Session

namespace World

variable {w w' w₁ w₂ w₃ : World} {e : Event} {fs : List Event} {i : Nat} {created : DocId}

/-- The `i`-th run reacts, and Firestore reports success. -/
def Alone (i : Nat) (_ : World) : Event → Prop
  | .run j _ ok => j = i ∧ ok = true
  | .enter .. | .elsewhere _ => False

/-- What is known of the `i`-th run after it has reacted to `fs`, starting with
the document `created` over the database of `w₁`. -/
structure Abandoning (w₁ : World) (i : Nat) (created : DocId) (fs : List Event) (w : World)
    (s : Session) : Prop where
  owned : w.Owned
  session : w.sessions[i]? = some s
  created_eq : s.created = created
  lives : s.Lives w.store
  same : ∀ id ≠ created, Store.SameAt id w₁.store w.store
  cancel : s.phase = .aborted ∨ (.run i .saveCancel true ∈ fs ↔ s.deletion.isSome)

/-- The run starts. -/
theorem Abandoning.enter {randomElement : Nat → Fin letters.length}
    {currentUser : Option String} {now : Date} (h : w₁.Owned)
    (hw : w₁.step (.enter created randomElement currentUser now true) = some w₂) :
    Abandoning w₁ w₁.sessions.length created [] w₂
      (Session.enter created randomElement currentUser) := by
  have howned := h.step hw
  obtain ⟨hfresh, ⟨⟩⟩ := Option.ite_none_right_eq_some.mp hw
  exact {
    owned := howned
    session := by simp
    created_eq := rfl
    lives := {
      content := fun _ => by simp [Store.apply, Session.enter]
      covers := nofun
      cancelled := nofun
      closed := nofun }
    same := fun id hid => Store.sameAt_apply (w := .addContent created _) hid
    cancel := Or.inr (by simp [Session.enter]) }

/-- The run goes on. -/
theorem Abandoning.step {s : Session} (h : Abandoning w₁ i created fs w s) (he : Alone i w e)
    (hw : w.step e = some w') : ∃ s', Abandoning w₁ i created (fs ++ [e]) w' s' := by
  cases e with
  | enter | elsewhere => cases he
  | run j e ok =>
      obtain ⟨rfl, rfl⟩ := he
      have howned := h.owned.step hw
      have hsame : ∀ id ≠ created, Store.SameAt id w₁.store w'.store := fun id hid =>
        (h.same id hid).trans (h.owned.sameAt_run hw h.session (h.created_eq ▸ hid))
      obtain ⟨s', r, hi, hr, hcases⟩ := step_run hw
      cases h.session.symm.trans hi
      have hreacts := Session.reacts_of_react hr
      have hlt := (List.getElem?_eq_some_iff.mp hi).1
      rcases hcases with ⟨-, rfl⟩ | ⟨-, rfl⟩
      · exact ⟨s.abort, {
          owned := howned
          session := List.getElem?_set_self hlt
          created_eq := h.created_eq
          lives := h.lives.abort
          same := hsame
          cancel := Or.inl rfl }⟩
      · refine ⟨r.next, {
          owned := howned
          session := List.getElem?_set_self hlt
          created_eq := hreacts.fixed.1.trans h.created_eq
          lives := hreacts.lives h.lives
          same := hsame
          cancel := h.cancel.imp hreacts.aborted fun hiff => ?_ }⟩
        rw [hreacts.isSome_deletion_iff, ← hiff]
        simp [eq_comm]

/-- **An abandoned trip.**  A run whose operations succeed and that ends without
the confirm action restores the database exactly if it ended with the cancel
action of the save alert. -/
theorem abandoned_restores_iff {w₀ : World} {es : List Event}
    {randomElement : Nat → Fin letters.length} {currentUser : Option String} {now : Date}
    {s : Session} (h₀ : w₀.Initial) (hbefore : system.Runs w₀ es w₁)
    (henter : w₁.step (.enter created randomElement currentUser now true) = some w₂)
    (hrun : system.Steps (Alone w₁.sessions.length) w₂ fs w₃)
    (hs : w₃.sessions[w₁.sessions.length]? = some s) (hended : s.Abandoned) :
    (∀ id, Store.SameAt id w₁.store w₃.store) ↔
      .run w₁.sessions.length .saveCancel true ∈ fs := by
  obtain ⟨s', h⟩ : ∃ s', Abandoning w₁ w₁.sessions.length created fs w₃ s' :=
    hrun.invariant_history
      (I := fun fs w => ∃ s', Abandoning w₁ w₁.sessions.length created fs w s')
      (fun ⟨_, hI⟩ hc hstep => hI.step hc hstep) ⟨_, .enter (Owned.runs h₀ hbefore) henter⟩
  cases hs.symm.trans h.session
  obtain ⟨⟨-, hunused, -, -⟩, -⟩ := Option.ite_none_right_eq_some.mp henter
  rcases hended with hleft | ⟨hcancelled, d, hd, hdone⟩
  · -- the document added by the title screen is still there
    have hnone : s.deletion = none := by
      rw [← Option.not_isSome_iff_eq_none]
      intro hdel
      rcases h.lives.closed hdel with hc | hc <;> cases hleft.symm.trans hc
    refine iff_of_false (fun hsame => ?_) fun hmem => ?_
    · have hget := h.lives.content hnone
      rw [h.created_eq, (hsame created).content, hunused.content] at hget
      cases hget
    · rcases h.cancel with hc | hiff
      · cases hleft.symm.trans hc
      · rw [hiff, hnone] at hmem
        cases hmem
  · refine iff_of_true (fun id => ?_) ?_
    · by_cases hid : id = created
      · subst hid
        obtain ⟨hcontent, hsub⟩ := (h.lives.covers d hd).gone hdone
        rw [(h.owned.own s (List.mem_of_getElem? hs)).deletion d hd, h.created_eq] at hcontent hsub
        exact ⟨hcontent.trans hunused.content.symm, fun c => (hsub c).trans (hunused.sub c).symm⟩
      · exact h.same id hid
    · refine (h.cancel.resolve_left ?_).mpr ?_
      · rw [hcancelled]
        nofun
      · rw [hd]
        rfl

/-- A stop is added before the cancel action is chosen; the cancel action finds
and deletes it. -/
def cancelledRun : List Event :=
  [.didAppear, .editTitle "Jeju", .next, .searchRead, .searchDone, .didAppear,
    .pickCity ⟨"Jeju", "", "", ⟨33, 126⟩⟩, .addRouteRead, .addRouteDone 0, .didAppear,
    .openRouteList 0, .didAppear, .openTour "tour", .didAppear, .confirmStop "stop",
    .addRouteRead, .addRouteDone 0, .didAppear, .saveCancel, .cleanUp (.read .route),
    .cleanUp (.read .comment), .cleanUp .document, .cleanUp (.read .favorite),
    .cleanUp (.deleted .route "stop")].map fun e => .run 0 e true

/-- Nothing is left of that run. -/
theorem cancelledRun_restores : ∃ w, system.Runs blank (enterTrip :: cancelledRun) w ∧
    ∀ id, Store.SameAt id blank.store w.store := by
  obtain ⟨w, hrun, hw⟩ := EventSystem.exists_runs_of_exec system blank
    (enterTrip :: cancelledRun) (fun w => w.sessions[0]?.any fun s =>
      s.phase = .cancelled && s.deletion.any (decide <| Deletion.isDone ·)) (by decide)
  obtain ⟨s, hs, hp⟩ := (Option.any_eq_true _ _).mp hw
  obtain ⟨hphase, hdone⟩ := Bool.and_eq_true_iff.mp hp
  obtain ⟨d, hd, hdone⟩ := (Option.any_eq_true _ _).mp hdone
  refine ⟨w, hrun, ?_⟩
  cases hrun with
  | cons _ henter hrest =>
      change blank.step (.enter "trip" _ _ _ true) = _ at henter
      refine (abandoned_restores_iff initial_blank (.nil blank) henter
        (hrest.of_forall fun e he _ => ?_) hs ?_).mpr ?_
      · obtain ⟨e, -, rfl⟩ := List.mem_map.mp he
        exact ⟨rfl, rfl⟩
      · exact Or.inr ⟨of_decide_eq_true hphase, d, hd, of_decide_eq_true hdone⟩
      · exact List.mem_map_of_mem (by simp)

/-- Going back from the title screen leaves the document behind. -/
theorem exists_abandoned_remains : ¬∀ {w₀ w₁ w₂ w₃ : World} {es fs : List Event}
    {created : DocId} {randomElement : Nat → Fin letters.length} {currentUser : Option String}
    {now : Date} {s : Session}, w₀.Initial → system.Runs w₀ es w₁ →
    w₁.step (.enter created randomElement currentUser now true) = some w₂ →
    system.Steps (Alone w₁.sessions.length) w₂ fs w₃ →
    w₃.sessions[w₁.sessions.length]? = some s → s.Abandoned →
    ∀ id, Store.SameAt id w₁.store w₃.store := by
  intro hall
  obtain ⟨w, hrun, hw⟩ := EventSystem.exists_runs_of_exec system blank
    [enterTrip, .run 0 .didAppear true, .run 0 .back true]
    (fun w => (w.sessions[0]?.any fun s => s.phase = .left) &&
      (w.store.content.get "trip").isSome) (by decide)
  obtain ⟨hleft, hremains⟩ := Bool.and_eq_true_iff.mp hw
  obtain ⟨s, hs, hleft⟩ := (Option.any_eq_true _ _).mp hleft
  cases hrun with
  | cons _ henter hrest =>
      change blank.step (.enter "trip" _ _ _ true) = _ at henter
      have halone : system.Steps (Alone 0) _ _ w := hrest.of_forall fun e he _ => by
        simp only [List.mem_cons, List.not_mem_nil, or_false] at he
        rcases he with rfl | rfl <;> exact ⟨rfl, rfl⟩
      have hsame := hall initial_blank (.nil blank) henter halone hs
        (Or.inl (of_decide_eq_true hleft)) "trip"
      rw [hsame.content] at hremains
      cases hremains

end World

end Groute
