import Groute.Authoring.Abandon
import Groute.Trips.Makers

/-!
# Nothing is lost

A trip is deleted by a swipe on its row or by the cancel action of the save alert.  Both
issue several operations that are answered at any time later, when the screen that has issued
them may show something else, and they delete by identifiers alone.

Still nothing disappears unless its maker has asked for it: whatever was deleted belonged to
a trip whose deletion was demanded in time by the user who had made it (`Demanded`), or was a
like that was taken back.  And what is gone stays away, for an update needs the document.
-/

namespace Groute

/-! ## What there is -/

/-- A path under a trip: the trip itself, or a document of a subcollection. -/
abbrev Path := Option (Sub × DocId)

/-- There is a document under this path of a trip. -/
def Store.Has (st : Store) (id : DocId) : Path → Prop
  | none => (st.content.get id).isSome
  | some (c, sub) => ((st.sub c id).get sub).isSome

/-- The write deletes it. -/
def Write.Removes (id : DocId) (path : Path) : Write → Prop
  | .deleteContent id' => id' = id ∧ path = none
  | .deleteSub c id' sub => id' = id ∧ path = some (c, sub)
  | .addContent _ _ | .updateContent _ _ | .addSub _ _ _ _ => False

instance (st : Store) (id : DocId) (path : Path) : Decidable (st.Has id path) :=
  match path with
  | none => inferInstanceAs (Decidable ((st.content.get id).isSome))
  | some (c, sub) => inferInstanceAs (Decidable (((st.sub c id).get sub).isSome))

variable {st : Store} {id : DocId} {path : Path} {w : Write} {ws : List Write}

/-- What is not deleted is still there. -/
theorem Store.Has.apply (h : st.Has id path) (hw : ¬w.Removes id path) :
    (st.apply w).Has id path := by
  match path with
  | none =>
      show ((st.apply w).content.get id).isSome
      by_cases hid : id = w.target
      · cases w with
        | addContent i data =>
            obtain rfl : id = i := hid
            exact Option.isSome_iff_exists.mpr ⟨data, Collection.get_set_self _ _ _⟩
        | updateContent i fields =>
            obtain rfl : id = i := hid
            obtain ⟨d, hd⟩ := Option.isSome_iff_exists.mp h
            refine Option.isSome_iff_exists.mpr ⟨d.updateData fields, ?_⟩
            rw [Store.apply, Collection.get_modify_self, hd, Option.map_some]
        | deleteContent i => exact absurd ⟨hid.symm, rfl⟩ hw
        | addSub | deleteSub => exact h
      · rw [(Store.sameAt_apply hid).content]
        exact h
  | some (c, sub) =>
      show (((st.apply w).sub c id).get sub).isSome
      cases w with
      | addContent | updateContent | deleteContent => exact h
      | addSub c' id' sub' data =>
          by_cases hsub : c = c' ∧ id = id' ∧ sub = sub'
          · obtain ⟨rfl, rfl, rfl⟩ := hsub
            rw [Store.sub_addSub]
            exact Option.isSome_iff_exists.mpr ⟨data, Collection.get_set_self _ _ _⟩
          · rw [Store.get_sub_addSub hsub]
            exact h
      | deleteSub c' id' sub' =>
          have hsub : ¬(c = c' ∧ id = id' ∧ sub = sub') := by
            rintro ⟨rfl, rfl, rfl⟩
            exact hw ⟨rfl, rfl⟩
          rw [Store.get_sub_deleteSub hsub]
          exact h

/-- What has gone was deleted by one of the writes. -/
theorem exists_removes (h : st.Has id path) (hgone : ¬(st.applyAll ws).Has id path) :
    ∃ w ∈ ws, w.Removes id path := by
  induction ws generalizing st with
  | nil => exact absurd h hgone
  | cons w ws ih =>
      by_cases hw : w.Removes id path
      · exact ⟨w, List.mem_cons_self, hw⟩
      · obtain ⟨w', hw', hremoves⟩ := ih (h.apply hw) hgone
        exact ⟨w', List.mem_cons_of_mem w hw', hremoves⟩

/-- A write removes under the trip that it is about. -/
theorem Write.Removes.target (h : w.Removes id path) : w.target = id := by
  cases w with
  | deleteContent | deleteSub => exact h.1
  | addContent | updateContent | addSub => exact h.elim

/-! ## Who deletes -/

/-- A run deletes only what its cancel action has issued. -/
theorem Session.Reacts.removes {s : Session} {e : Session.Event} {ok : Bool}
    {r : Session.Response} (h : Session.Reacts s st e ok r) :
    ∀ w ∈ r.writes, w.Removes id path → ∃ d, s.deletion = some d ∧ d.target = id := by
  cases h with
  | openRouteList | searchAppears | confirmStop =>
      exact Write.forall_mem_ite (fun hremoves => hremoves.elim)
  | @cleanUp e _ d d' ws hdeletion hstep =>
      intro w hw hremoves
      refine ⟨d, hdeletion, ?_⟩
      rw [← hremoves.target, (Deletion.step_writes hstep w hw).1]
  | _ => simp

namespace MyTrips

variable {t t' : MyTrips} {e : Event}

/-- Only a swipe starts to delete, and it deletes what the row shows. -/
theorem swipes_step (ht : t.step e = some t') {swipe : Swipe} (hswipe : swipe ∈ t'.swipes) :
    (∃ swipe' ∈ t.swipes, swipe'.deletion.target = swipe.deletion.target) ∨
      ∃ row r, e = .swipe row ∧ t.vc.filteredDocument[row]? = some r ∧
        r.id = swipe.deletion.target := by
  obtain ⟨-, ht⟩ := Option.ite_none_left_eq_some.mp ht
  cases e with
  | viewWillAppear sorter =>
      cases ht
      exact .inl ⟨swipe, hswipe, rfl⟩
  | read ok =>
      obtain ⟨-, ⟨⟩⟩ := Option.ite_none_left_eq_some.mp ht
      exact .inl ⟨swipe, hswipe, rfl⟩
  | done i order =>
      obtain ⟨documents, -, rfl⟩ := Option.map_eq_some_iff.mp ht
      refine .inl ⟨swipe, ?_, rfl⟩
      revert hswipe
      split <;> exact id
  | swipe row =>
      obtain ⟨⟨myContent, vc⟩, hcommit, rfl⟩ := Option.map_eq_some_iff.mp ht
      obtain ⟨r, hr, heq⟩ := Option.map_eq_some_iff.mp hcommit
      obtain ⟨rfl, rfl⟩ := Prod.mk.inj heq
      rcases List.mem_append.mp hswipe with hswipe | hswipe
      · exact .inl ⟨swipe, hswipe, rfl⟩
      · cases List.mem_singleton.mp hswipe
        exact .inr ⟨row, r, rfl, hr, rfl⟩
  | deletion j e ok =>
      obtain ⟨s, hs, ht⟩ := Option.bind_eq_some_iff.mp ht
      obtain ⟨⟨deletion, ws⟩, hstep, rfl⟩ := Option.map_eq_some_iff.mp ht
      left
      dsimp only at hswipe
      split at hswipe
      · rcases List.mem_or_eq_of_mem_set hswipe with hswipe | rfl
        · exact ⟨swipe, hswipe, rfl⟩
        · exact ⟨s, List.mem_of_getElem? hs, (Deletion.step_target hstep).symm⟩
      · exact ⟨swipe, hswipe, rfl⟩
  | elsewhere w =>
      obtain ⟨-, ⟨⟩⟩ := Option.ite_none_right_eq_some.mp ht
      exact .inl ⟨swipe, hswipe, rfl⟩

end MyTrips

/-! ## All users -/

namespace Trips

/-- The event asks for the deletion of a trip: its row is swiped, or its run cancelled. -/
def Demands (t : Trips) (id : DocId) : Event → Prop
  | .screen j (.swipe row) => ∃ s r, t.screens[j]? = some s ∧
      s.vc.filteredDocument[row]? = some r ∧ r.id = id
  | .run i .saveCancel _ => ∃ s, t.world.sessions[i]? = some s ∧ s.created = id
  | _ => False

/-- Its maker has asked for it in the run. -/
def Demanded (t₀ : Trips) (es : List Event) (id : DocId) : Prop :=
  ∃ fs e u email, fs ++ [e] <+: es ∧ system.Runs t₀ fs u ∧ u.Demands id e ∧
    u.actor e = some email ∧ t₀.Made u email id

variable {t₀ t t' u v : Trips} {e : Event} {es fs gs : List Event} {id : DocId} {path : Path}

theorem Demanded.mono (h : t₀.Demanded es id) (fs : List Event) : t₀.Demanded (es ++ fs) id := by
  obtain ⟨gs, e, u, email, hprefix, hrest⟩ := h
  exact ⟨gs, e, u, email, hprefix.trans (List.prefix_append es fs), hrest⟩

/-- A deletion that is under way has been demanded. -/
structure Answerable (t₀ : Trips) (es : List Event) (t : Trips) : Prop where
  inv : t₀.Inv t
  runs : system.Runs t₀ es t
  swipes : ∀ s ∈ t.screens, ∀ swipe ∈ s.swipes, t₀.Demanded es swipe.deletion.target
  cancels : ∀ s ∈ t.world.sessions, s.deletion.isSome → t₀.Demanded es s.created

/-- A swipe whose operations are under way was so before, or the row is swiped now. -/
theorem swipes_step (ht : t.step e = some t') {s : MyTrips} (hs : s ∈ t'.screens) {swipe : Swipe}
    (hswipe : swipe ∈ s.swipes) :
    (∃ s' ∈ t.screens, ∃ swipe' ∈ s'.swipes,
        swipe'.deletion.target = swipe.deletion.target) ∨
      t.Demands swipe.deletion.target e := by
  cases e with
  | enter created randomElement currentUser now ok =>
      obtain ⟨-, ht⟩ := Option.ite_none_left_eq_some.mp ht
      obtain ⟨world, -, rfl⟩ := Option.map_eq_some_iff.mp ht
      exact .inl ⟨s, hs, swipe, hswipe, rfl⟩
  | run i e ok =>
      obtain ⟨world, -, rfl⟩ := Option.map_eq_some_iff.mp ht
      exact .inl ⟨s, hs, swipe, hswipe, rfl⟩
  | opened currentUser =>
      cases ht
      rcases List.mem_append.mp hs with hs | hs
      · exact .inl ⟨s, hs, swipe, hswipe, rfl⟩
      · rw [List.mem_singleton.mp hs] at hswipe
        cases hswipe
  | screen j e =>
      obtain ⟨-, ht⟩ := Option.ite_none_right_eq_some.mp ht
      obtain ⟨s₀, hj, ht⟩ := Option.bind_eq_some_iff.mp ht
      obtain ⟨s', hs', rfl⟩ := Option.map_eq_some_iff.mp ht
      rcases List.mem_or_eq_of_mem_set hs with hs | rfl
      · exact .inl ⟨s, hs, swipe, hswipe, rfl⟩
      · rcases MyTrips.swipes_step hs' hswipe with ⟨swipe', hswipe', htarget⟩ |
          ⟨row, r, rfl, hr, hid⟩
        · exact .inl ⟨s₀, List.mem_of_getElem? hj, swipe', hswipe', htarget⟩
        · exact .inr ⟨s₀, r, hj, hr, hid⟩
  | feedback w =>
      obtain ⟨-, ⟨⟩⟩ := Option.ite_none_right_eq_some.mp ht
      exact .inl ⟨s, hs, swipe, hswipe, rfl⟩

/-- A run that deletes did so before, or is cancelled now. -/
theorem cancels_step (ht : t.step e = some t') {s : Session} (hs : s ∈ t'.world.sessions)
    (hsome : s.deletion.isSome) :
    (∃ s' ∈ t.world.sessions, s'.deletion.isSome ∧ s'.created = s.created) ∨
      t.Demands s.created e := by
  cases e with
  | enter created randomElement currentUser now ok =>
      obtain ⟨-, ht⟩ := Option.ite_none_left_eq_some.mp ht
      obtain ⟨world, hworld, rfl⟩ := Option.map_eq_some_iff.mp ht
      obtain ⟨-, ⟨⟩⟩ := Option.ite_none_right_eq_some.mp hworld
      rcases List.mem_append.mp hs with hs | hs
      · exact .inl ⟨s, hs, hsome, rfl⟩
      · rw [List.mem_singleton.mp hs] at hsome
        cases hsome
  | run i e ok =>
      obtain ⟨world, hworld, rfl⟩ := Option.map_eq_some_iff.mp ht
      obtain ⟨s₀, r, hi, hr, hcases⟩ := World.step_run hworld
      have hs₀ := List.mem_of_getElem? hi
      have hreacts := Session.reacts_of_react hr
      rcases hcases with ⟨-, rfl⟩ | ⟨-, rfl⟩
      · rcases List.mem_or_eq_of_mem_set hs with hs | rfl
        · exact .inl ⟨s, hs, hsome, rfl⟩
        · exact .inl ⟨s₀, hs₀, hsome, rfl⟩
      · rcases List.mem_or_eq_of_mem_set hs with hs | rfl
        · exact .inl ⟨s, hs, hsome, rfl⟩
        · have hcreated := hreacts.fixed.1
          rcases hreacts.isSome_deletion_iff.mp hsome with hsome | rfl
          · exact .inl ⟨s₀, hs₀, hsome, hcreated.symm⟩
          · exact .inr ⟨s₀, hi, hcreated.symm⟩
  | opened currentUser =>
      cases ht
      exact .inl ⟨s, hs, hsome, rfl⟩
  | screen j e =>
      obtain ⟨-, ht⟩ := Option.ite_none_right_eq_some.mp ht
      obtain ⟨s₀, -, ht⟩ := Option.bind_eq_some_iff.mp ht
      obtain ⟨s', -, rfl⟩ := Option.map_eq_some_iff.mp ht
      exact .inl ⟨s, hs, hsome, rfl⟩
  | feedback w =>
      obtain ⟨-, ⟨⟩⟩ := Option.ite_none_right_eq_some.mp ht
      exact .inl ⟨s, hs, hsome, rfl⟩

/-- Only the maker of a trip can ask for its deletion. -/
theorem Inv.made_of_demands (h : t₀.Inv t) (hdemands : t.Demands id e) :
    ∃ email, t.actor e = some email ∧ t₀.Made t email id := by
  match e with
  | .screen j (.swipe row) =>
      obtain ⟨s, r, hj, hr, rfl⟩ := hdemands
      refine ⟨s.currentUser.getD "", by rw [actor, hj, Option.map_some], ?_⟩
      exact (h.knows s (List.mem_of_getElem? hj)).rows r (List.mem_of_getElem? hr)
  | .run i .saveCancel _ =>
      obtain ⟨s, hi, rfl⟩ := hdemands
      refine ⟨s.currentUser.getD "", by rw [actor, hi, Option.map_some], ?_⟩
      exact (h.made_iff (List.mem_of_getElem? hi)).mpr rfl

/-- One step keeps deletions answerable. -/
theorem Answerable.step (h : t₀.Answerable es t) (ht : t.step e = some t') :
    t₀.Answerable (es ++ [e]) t' := by
  have hdemanded : ∀ id, t.Demands id e → t₀.Demanded (es ++ [e]) id := by
    intro id hdemands
    obtain ⟨email, hactor, hmade⟩ := h.inv.made_of_demands hdemands
    exact ⟨es, e, t, email, List.prefix_rfl, h.runs, hdemands, hactor, hmade⟩
  refine ⟨h.inv.step ht, h.runs.snoc trivial ht, ?_, ?_⟩
  · intro s hs swipe hswipe
    rcases swipes_step ht hs hswipe with ⟨s', hs', swipe', hswipe', htarget⟩ | hdemands
    · exact htarget ▸ (h.swipes s' hs' swipe' hswipe').mono [e]
    · exact hdemanded _ hdemands
  · intro s hs hsome
    rcases cancels_step ht hs hsome with ⟨s', hs', hsome', hcreated⟩ | hdemands
    · exact hcreated ▸ (h.cancels s' hs' hsome').mono [e]
    · exact hdemanded _ hdemands

/-- What a step takes away was to be deleted, or was a like that is taken back. -/
theorem Answerable.demanded (h : t₀.Answerable es t) (ht : t.step e = some t')
    (hbefore : t.store.Has id path) (hgone : ¬t'.store.Has id path) :
    t₀.Demanded es id ∨
      ∃ sub, path = some (.favorite, sub) ∧ e = .feedback (.deleteSub .favorite id sub) := by
  cases e with
  | enter created randomElement currentUser now ok =>
      obtain ⟨-, ht⟩ := Option.ite_none_left_eq_some.mp ht
      obtain ⟨world, hworld, rfl⟩ := Option.map_eq_some_iff.mp ht
      obtain ⟨-, ⟨⟩⟩ := Option.ite_none_right_eq_some.mp hworld
      refine absurd ?_ hgone
      show Store.Has (if ok then _ else t.store) id path
      split
      · exact hbefore.apply not_false
      · exact hbefore
  | run i e ok =>
      obtain ⟨world, hworld, rfl⟩ := Option.map_eq_some_iff.mp ht
      obtain ⟨s, r, hi, hr, ⟨-, rfl⟩ | ⟨-, rfl⟩⟩ := World.step_run hworld
      · exact absurd hbefore hgone
      · have hs := List.mem_of_getElem? hi
        obtain ⟨w, hw, hremoves⟩ := exists_removes hbefore hgone
        obtain ⟨d, hdeletion, rfl⟩ := (Session.reacts_of_react hr).removes w hw hremoves
        rw [(h.inv.owned.own s hs).deletion d hdeletion]
        exact .inl (h.cancels s hs (by rw [hdeletion]; rfl))
  | opened currentUser =>
      cases ht
      exact absurd hbefore hgone
  | screen j e =>
      obtain ⟨he, ht⟩ := Option.ite_none_right_eq_some.mp ht
      obtain ⟨s, hj, ht⟩ := Option.bind_eq_some_iff.mp ht
      obtain ⟨s', hs', rfl⟩ := Option.map_eq_some_iff.mp ht
      obtain ⟨-, ws, hstore, hws⟩ := MyTrips.step_store hs' he
      have hgone : ¬(t.store.applyAll ws).Has id path := hstore ▸ hgone
      obtain ⟨w, hw, hremoves⟩ := exists_removes hbefore hgone
      obtain ⟨-, swipe, hswipe, htarget⟩ := hws w hw
      rw [← hremoves.target, htarget]
      exact .inl (h.swipes s (List.mem_of_getElem? hj) swipe hswipe)
  | feedback w =>
      obtain ⟨hw, ⟨⟩⟩ := Option.ite_none_right_eq_some.mp ht
      have hremoves : w.Removes id path := by
        by_contra hnot
        exact hgone (hbefore.apply hnot)
      cases w with
      | addContent | updateContent | deleteContent => exact hw.elim
      | addSub => exact hremoves.elim
      | deleteSub c id' sub =>
          obtain rfl : c = .favorite := hw
          obtain ⟨rfl, rfl⟩ := hremoves
          exact .inr ⟨sub, rfl, rfl⟩

theorem Start.answerable (h : t.Start) : t.Answerable [] t where
  inv := h.inv
  runs := .nil t
  swipes := by simp [h.screens]
  cancels := by simp [h.world.sessions]

/-- The same for a run. -/
theorem Answerable.demanded_runs (h : t₀.Answerable es u) (ht : system.Runs u fs t)
    (hbefore : u.store.Has id path) (hgone : ¬t.store.Has id path) :
    t₀.Demanded (es ++ fs) id ∨
      ∃ sub, path = some (.favorite, sub) ∧ .feedback (.deleteSub .favorite id sub) ∈ fs := by
  induction ht generalizing es with
  | nil u => exact absurd hbefore hgone
  | @cons u u' t e fs _ hu _ ih =>
      by_cases hthere : u'.store.Has id path
      · have hrest := ih (h.step hu) hthere hgone
        rw [List.append_cons]
        exact hrest.imp_right fun ⟨sub, hpath, hmem⟩ => ⟨sub, hpath, List.mem_cons_of_mem e hmem⟩
      · rcases h.demanded hu hbefore hthere with hdemanded | ⟨sub, hpath, rfl⟩
        · exact .inl (hdemanded.mono (e :: fs))
        · exact .inr ⟨sub, hpath, List.mem_cons_self⟩

/-- A trip that is gone stays away. -/
theorem gone_runs (h : system.Runs t gs v) (hused : id ∈ t.used)
    (hgone : t.store.content.get id = none) : v.store.content.get id = none := by
  have hkept : id ∈ v.used ∧ v.store.content.get id = none := by
    refine h.invariant (I := fun v => id ∈ v.used ∧ v.store.content.get id = none) ?_
      ⟨hused, hgone⟩
    rintro v e v' ⟨hused, hgone⟩ - hv
    refine ⟨(step_mono hv).1 id hused, Option.eq_none_iff_forall_ne_some.mpr fun d' hd' => ?_⟩
    obtain ⟨d, hd, -⟩ := exists_get_of_step hv hused hd'
    cases hgone.symm.trans hd
  exact hkept.2

/-- **Nothing is lost, and nothing comes back.**  However the authoring runs and the screens of
all users interleave, and whatever fails: a trip, a stop, a review or a like that is there at
some time and not at a later one has gone because the maker of its trip had asked to delete the
trip, or is a like that was taken back; and a trip that has gone is never there again. -/
theorem runs_lost (h₀ : t₀.Start) (hu : system.Runs t₀ es u) (ht : system.Runs u fs t)
    (hbefore : u.store.Has id path) (hgone : ¬t.store.Has id path) :
    (t₀.Demanded (es ++ fs) id ∨
        ∃ sub, path = some (.favorite, sub) ∧ .feedback (.deleteSub .favorite id sub) ∈ fs) ∧
      (path = none → ∀ gs v, system.Runs t gs v → ¬v.store.Has id none) := by
  have hanswerable : t₀.Answerable es u :=
    hu.invariant_history (I := t₀.Answerable) (fun hI _ hstep => hI.step hstep) h₀.answerable
  refine ⟨hanswerable.demanded_runs ht hbefore hgone, ?_⟩
  rintro rfl gs v hv
  obtain ⟨d, hd⟩ := Option.isSome_iff_exists.mp hbefore
  have hused : id ∈ t.used :=
    ht.invariant (I := fun t => id ∈ t.used) (fun hI _ hstep => (step_mono hstep).1 id hI)
      (hanswerable.inv.used hd)
  rw [Store.Has, gone_runs hv hused (by simpa [Store.Has] using hgone)]
  exact Bool.false_ne_true

/-- The trip of the first user has gone, and its deletion was demanded. -/
theorem twoUsers_lost : ∃ t, system.Runs blank
    (twoUsers ++ [.screen 0 (.deletion 0 .document true)]) t ∧ ¬t.store.Has "trip" none ∧
      blank.Demanded (twoUsers ++ [.screen 0 (.deletion 0 .document true)]) "trip" := by
  obtain ⟨u, hu, hp⟩ := EventSystem.exists_runs_of_exec system blank twoUsers
    (fun u => decide (u.store.Has "trip" none) &&
      (u.step (.screen 0 (.deletion 0 .document true))).any fun t : Trips =>
        decide (¬t.store.Has "trip" none)) (by decide)
  obtain ⟨hbefore, hgone⟩ := (Bool.and_eq_true _ _).mp hp
  obtain ⟨t, ht, hgone⟩ := (Option.any_eq_true _ _).mp hgone
  have hrun : system.Runs u [.screen 0 (.deletion 0 .document true)] t :=
    .cons trivial ht (.nil t)
  have hlost := runs_lost start_blank hu hrun (of_decide_eq_true hbefore)
    (of_decide_eq_true hgone)
  refine ⟨t, hu.append hrun, of_decide_eq_true hgone, hlost.1.resolve_right ?_⟩
  rintro ⟨sub, ⟨⟩, -⟩

end Trips

end Groute
