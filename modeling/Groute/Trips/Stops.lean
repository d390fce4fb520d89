import Groute.Authoring.SavedTrip
import Groute.Content.Days
import Groute.Content.DetailsScreen

/-!
# Stops, from the plan to the screens

A stop takes a long way: the confirm action of `addClick` adds it to the trip that a look-up
has found, `getRoute` of the first screen reads all stops at once, and `getRoute` of the
second screen reads them day by day.

`World.confirmed` lists what the user of a run has confirmed, as the screen showed it.  That
is what is stored, whatever the other runs do, and what both screens show.
-/

namespace Groute

/-- Writes to documents leave all subcollections alone. -/
theorem Store.sub_applyAll_of_into {st : Store} {ws : List Write} (h : ∀ w ∈ ws, w.into = none) :
    (st.applyAll ws).sub = st.sub := by
  induction ws generalizing st with
  | nil => rfl
  | cons w ws ih =>
      have hrest : ((st.apply w).applyAll ws).sub = (st.apply w).sub :=
        ih fun w' hw' => h w' (List.mem_cons_of_mem w hw')
      refine hrest.trans ?_
      cases w with
      | addContent | updateContent | deleteContent => rfl
      | addSub | deleteSub => cases h _ List.mem_cons_self

namespace Session

variable {s : Session} {st : Store} {e : Event} {ok : Bool} {r : Response}

/-- A stop is confirmed, and Firestore reports success. -/
def Event.stop : Event → Bool → Option DocId
  | .confirmStop stop, true => some stop
  | _, _ => none

/-- The cancel action of the save alert. -/
def Event.cancels : Event → Bool
  | .saveCancel => true
  | _ => false

/-- A stop is confirmed: it is added to the trip that was handed on. -/
structure Confirms (s : Session) (st : Store) (r : Response) (stop : DocId) : Prop where
  phase : s.phase = .on .detailTour true
  fresh : (st.sub .route s.detailTour.documentId).get stop = none
  documents : r.documents = [s.detailTour.documentId]
  writes : r.writes = [.addSub .route s.detailTour.documentId stop s.detailTour.addClick]

/-- Nothing else that a run does, unless it cancels, writes to a subcollection. -/
theorem Reacts.stops (h : Reacts s st e ok r) (hdeletion : s.deletion = none)
    (hcancel : e.cancels = false) : r.next.deletion = none ∧
      ((∃ stop, e.stop ok = some stop ∧ s.Confirms st r stop) ∨
        e.stop ok = none ∧ ∀ w ∈ r.writes, w.into = none) := by
  cases h with
  | @confirmStop stop ok hp hstop =>
      cases ok with
      | true => exact ⟨hdeletion, .inl ⟨stop, rfl, hp, hstop, rfl, rfl⟩⟩
      | false => exact ⟨hdeletion, .inr ⟨rfl, by simp⟩⟩
  | openRouteList | searchAppears =>
      refine ⟨hdeletion, .inr ⟨rfl, ?_⟩⟩
      exact Write.forall_mem_ite rfl
  | saveCancel => cases hcancel
  | cleanUp hdel => cases hdeletion.symm.trans hdel
  | _ => exact ⟨hdeletion, .inr ⟨rfl, by simp⟩⟩

/-- The trip that was handed on is that of the run. -/
theorem Confirms.documentId {stop : DocId} (h : s.Confirms st r stop) (hs : s.Own)
    (hr : s.Resolved) : s.detailTour.documentId = s.created ∧ "" ∉ r.documents := by
  have hne := (hr.detailTour h.phase).1
  refine ⟨hs.detailTour.resolve_left hne, ?_⟩
  rw [h.documents]
  exact empty_notMem_singleton_iff.mpr hne

end Session

namespace World

variable {w w' w₀ : World} {e : Event} {es : List Event} {i : Nat} {s : Session}

/-- The stop that an event makes the `i`-th run confirm, and the screen that shows it. -/
def confirm (i : Nat) (w : World) : Event → Option (DocId × DetailTourViewController)
  | .run j e ok =>
      if j = i then w.sessions[i]?.bind fun s => (e.stop ok).map fun stop => (stop, s.detailTour)
      else none
  | .enter _ _ _ _ _ | .elsewhere _ => none

/-- All stops that the `i`-th run confirms, the last one first. -/
def confirmed (i : Nat) : World → List Event → List (DocId × DetailTourViewController)
  | _, [] => []
  | w, e :: es => ((w.step e).elim [] fun w' => confirmed i w' es) ++ (confirm i w e).toList

/-- The documents of the stops. -/
def stored (stops : List (DocId × DetailTourViewController)) : Documents :=
  stops.map fun stop => (stop.1, stop.2.addClick)

/-- The `i`-th run is not cancelled, and the other features of the app leave the stops of its
trip alone. -/
def Undisturbed (i : Nat) (created : DocId) (_ : World) : Event → Prop
  | .run j e _ => j = i → e.cancels = false
  | .elsewhere wr => ¬(wr.target = created ∧ wr.into = some .route)
  | .enter _ _ _ _ _ => True

instance (i : Nat) (created : DocId) (w : World) (e : Event) :
    Decidable (Undisturbed i created w e) :=
  match e with
  | .run j e _ => inferInstanceAs (Decidable (j = i → e.cancels = false))
  | .elsewhere wr => inferInstanceAs (Decidable (¬(wr.target = created ∧ wr.into = some .route)))
  | .enter _ _ _ _ _ => inferInstanceAs (Decidable True)

/-- Two runs have different trips. -/
theorem Owned.created_ne {j : Nat} {s' : Session} (h : w.Owned) (hi : w.sessions[i]? = some s)
    (hj : w.sessions[j]? = some s') (hne : j ≠ i) : s.created ≠ s'.created := by
  intro heq
  refine hne ((List.getElem?_inj ?_ h.nodup).mp ?_)
  · simpa using (List.getElem?_eq_some_iff.mp hj).1
  · simp [hi, hj, heq]

/-- One step stores the stop that it confirms. -/
theorem stored_step (howned : w.Owned) (hi : w.sessions[i]? = some s)
    (hdeletion : s.deletion = none) (hc : Undisturbed i s.created w e)
    (hw : w.step e = some w') :
    ∃ s', w'.sessions[i]? = some s' ∧ s'.created = s.created ∧ s'.deletion = none ∧
      (w'.store.sub .route s.created).docs =
        stored (confirm i w e).toList ++ (w.store.sub .route s.created).docs := by
  have hlt := (List.getElem?_eq_some_iff.mp hi).1
  cases e with
  | enter created randomElement currentUser now ok =>
      obtain ⟨-, ⟨⟩⟩ := Option.ite_none_right_eq_some.mp hw
      refine ⟨s, (List.getElem?_append_left hlt).trans hi, rfl, hdeletion, ?_⟩
      dsimp only
      split <;> rfl
  | elsewhere wr =>
      obtain ⟨-, ⟨⟩⟩ := Option.ite_none_right_eq_some.mp hw
      refine ⟨s, hi, rfl, hdeletion, ?_⟩
      show ((w.store.apply wr).sub .route s.created).docs = _
      rw [Store.sub_apply_of_ne hc]
      rfl
  | run j e ok =>
      obtain ⟨s', r, hj, hr, hcases⟩ := step_run hw
      by_cases hne : j = i
      · subst hne
        cases hi.symm.trans hj
        have hs := List.mem_of_getElem? hi
        have hreacts := Session.reacts_of_react hr
        have hconfirm : confirm j w (.run j e ok) = (e.stop ok).map fun stop =>
            (stop, s.detailTour) := by
          rw [confirm, if_pos rfl, hi]
          rfl
        obtain ⟨hnext, hstops⟩ := hreacts.stops hdeletion (hc rfl)
        rw [hconfirm]
        rcases hstops with ⟨stop, hstop, hconfirms⟩ | ⟨hstop, hwrites⟩
        · obtain ⟨hid, hdocuments⟩ :=
            hconfirms.documentId (howned.own s hs) (howned.resolved s hs)
          rcases hcases with ⟨habort, -⟩ | ⟨-, rfl⟩
          · exact absurd habort hdocuments
          · refine ⟨r.next, List.getElem?_set_self hlt, hreacts.fixed.1, hnext, ?_⟩
            have hfresh := hconfirms.fresh
            rw [hid] at hfresh
            rw [hconfirms.writes, hid, hstop]
            show ((w.store.apply (.addSub _ _ _ _)).sub .route s.created).docs = _
            rw [Store.sub_addSub]
            show _ :: ((w.store.sub .route s.created).erase stop).docs = _
            rw [Collection.erase_of_get_eq_none hfresh]
            rfl
        · rw [hstop]
          rcases hcases with ⟨-, rfl⟩ | ⟨-, rfl⟩
          · exact ⟨s.abort, List.getElem?_set_self hlt, rfl, hdeletion, rfl⟩
          · refine ⟨r.next, List.getElem?_set_self hlt, hreacts.fixed.1, hnext, ?_⟩
            show ((w.store.applyAll r.writes).sub .route s.created).docs = _
            rw [Store.sub_applyAll_of_into hwrites]
            rfl
      · have hsame := howned.sameAt_run hw hj (howned.created_ne hi hj hne)
        have hconfirm : confirm i w (.run j e ok) = none := if_neg hne
        refine ⟨s, ?_, rfl, hdeletion, ?_⟩
        · rcases hcases with ⟨-, rfl⟩ | ⟨-, rfl⟩
          · exact (List.getElem?_set_ne hne).trans hi
          · exact (List.getElem?_set_ne hne).trans hi
        · rw [hsame.sub, hconfirm]
          rfl

/-- The stops of a run that has not been cancelled. -/
theorem stored_steps (howned : w.Owned) (hi : w.sessions[i]? = some s)
    (hdeletion : s.deletion = none) (h : system.Steps (Undisturbed i s.created) w es w') :
    (w'.store.sub .route s.created).docs =
      stored (confirmed i w es) ++ (w.store.sub .route s.created).docs := by
  induction es generalizing w s with
  | nil =>
      cases h
      rfl
  | cons e es ih =>
      cases h with
      | @cons _ v _ _ _ hc hw hrest =>
          obtain ⟨s', hi', hcreated, hdeletion', hdocs⟩ := stored_step howned hi hdeletion hc hw
          have hstored : stored (confirmed i w (e :: es)) =
              stored (confirmed i v es) ++ stored (confirm i w e).toList := by
            have hv : w.step e = some v := hw
            rw [confirmed, hv, stored, List.map_append]
            rfl
          rw [← hcreated] at hrest hdocs ⊢
          rw [ih (howned.step hw) hi' hdeletion' hrest, hdocs, hstored, List.append_assoc]

/-- A run starts without stops. -/
theorem enter_start {created : DocId} {randomElement : Nat → Fin letters.length}
    {currentUser : Option String} {now : Date} {ok : Bool}
    (h : w.step (.enter created randomElement currentUser now ok) = some w') :
    w'.sessions[w.sessions.length]? = some (Session.enter created randomElement currentUser) ∧
      w'.store.sub .route created = .empty := by
  obtain ⟨⟨-, hunused, -, -⟩, ⟨⟩⟩ := Option.ite_none_right_eq_some.mp h
  refine ⟨by simp, ?_⟩
  rw [← hunused.sub .route]
  dsimp only
  split <;> rfl

/-- The stops of a run, from its start. -/
theorem stored_enter {w₁ w₂ w₃ : World} {fs : List Event} {created : DocId}
    {randomElement : Nat → Fin letters.length} {currentUser : Option String} {now : Date}
    {ok : Bool} (h₀ : w₀.Initial) (hbefore : system.Runs w₀ es w₁)
    (henter : w₁.step (.enter created randomElement currentUser now ok) = some w₂)
    (h : system.Steps (Undisturbed w₁.sessions.length created) w₂ fs w₃) :
    (w₃.store.sub .route created).docs = stored (confirmed w₁.sessions.length w₂ fs) := by
  obtain ⟨hi, hempty⟩ := enter_start henter
  have hdocs := stored_steps ((Owned.runs h₀ hbefore).step henter) hi rfl h
  have hcreated : (Session.enter created randomElement currentUser).created = created := rfl
  rw [hcreated, hempty] at hdocs
  exact hdocs.trans (List.append_nil _)

/-- A stop is confirmed, and the trip is saved. -/
def oneStop : List Event := savedRun addStop

end World

/-! ## On the screens -/

namespace ContentRouteViewController

variable {c : Collection DocId Document} {arrivals : List Nat}

/-- The sections that are asked for. -/
def days : List (Option Value) := (List.range 101).map fun i => some (.int (i : Nat))

/-- The queries find the names of the stops that have one of the sections asked for. -/
theorem perm_names_of_days (harrivals : arrivals.Perm (List.range 101)) :
    (arrivals.flatMap (names c)).Perm
      ((c.docs.filter fun doc => doc.2.get "section" ∈ days).filterMap getName) := by
  have hinj : Function.Injective fun i : Nat => some (Value.int i) := by
    intro i j hij
    simpa using hij
  have hdays : ((arrivals.map fun i => some (Value.int (i : Nat))).flatMap fun v =>
      (c.docs.filter fun doc => doc.2.get "section" ∈ days).filter fun doc =>
        doc.2.get "section" = v).Perm
      (c.docs.filter fun doc => doc.2.get "section" ∈ days) := by
    refine Collection.perm_flatMap_filter
      (fun doc : DocId × Document => doc.2.get "section") ?_ fun doc hdoc => ?_
    · exact (harrivals.nodup_iff.mpr List.nodup_range).map hinj
    · have hday := of_decide_eq_true (List.mem_filter.mp hdoc).2
      exact (harrivals.map _).mem_iff.mpr hday
  have hquery : ∀ i ∈ arrivals, ((c.docs.filter fun doc => doc.2.get "section" ∈ days).filter
      fun doc => doc.2.get "section" = some (.int (i : Nat))) = dayQuery c i := by
    intro i hi
    rw [List.filter_filter]
    refine List.filter_congr fun doc _ => ?_
    by_cases hsection : doc.2.get "section" = some (.int (i : Nat))
    · have hday : doc.2.get "section" ∈ days := by
        rw [hsection]
        exact List.mem_map_of_mem (harrivals.mem_iff.mp hi)
      simp [hsection, hsection ▸ hday]
    · simp [hsection]
  rw [List.flatMap_map, List.flatMap_congr hquery] at hdays
  have hnames := hdays.filterMap getName
  rwa [List.filterMap_flatMap] at hnames

end ContentRouteViewController

namespace World

variable {w₀ w₁ w₂ w₃ : World} {es fs : List Event} {created : DocId}
  {stops : List (DocId × DetailTourViewController)}

/-- A stop as the first screen shows it. -/
def shown (stop : DocId × DetailTourViewController) : RouteName where
  id := ""
  name := stop.2.nameLabel
  section_ := stop.2.section_
  point := stop.2.geoPoint
  imageAddress := stop.2.imageAddress

/-- The second screen asks for this stop. -/
def IsListed (stop : DocId × DetailTourViewController) : Prop :=
  0 ≤ stop.2.section_ ∧ stop.2.section_ ≤ 100

instance (stop : DocId × DetailTourViewController) : Decidable (IsListed stop) :=
  inferInstanceAs (Decidable (_ ∧ _))

theorem map_getRouteName_stored (stops : List (DocId × DetailTourViewController)) :
    (stored stops).map ContentViewController.getRouteName = stops.map shown := by
  rw [stored, List.map_map]
  rfl

/-- A stop has a section that is asked for exactly if it is one of the numbers up to 100. -/
theorem mem_days_iff (n : Int) :
    some (Value.int n) ∈ ContentRouteViewController.days ↔ 0 ≤ n ∧ n ≤ 100 := by
  rw [ContentRouteViewController.days, List.mem_map]
  constructor
  · rintro ⟨i, hi, heq⟩
    have hin : (i : Int) = n := Value.int.inj (Option.some.inj heq)
    rw [List.mem_range] at hi
    omega
  · rintro ⟨hlow, hhigh⟩
    refine ⟨n.toNat, List.mem_range.mpr (by omega), ?_⟩
    rw [Int.toNat_of_nonneg hlow]

theorem filterMap_getName_stored (stops : List (DocId × DetailTourViewController)) :
    ((stored stops).filter fun doc =>
      doc.2.get "section" ∈ ContentRouteViewController.days).filterMap
        ContentRouteViewController.getName =
          (stops.filter fun stop => IsListed stop).map fun stop => stop.2.nameLabel := by
  induction stops with
  | nil => rfl
  | cons stop stops ih =>
      have hsection : stop.2.addClick.get "section" = some (.int stop.2.section_) := rfl
      have hname : ContentRouteViewController.getName (stop.1, stop.2.addClick) =
          some stop.2.nameLabel := rfl
      have hiff := mem_days_iff stop.2.section_
      rw [stored, List.map_cons, ← stored]
      by_cases hlisted : IsListed stop
      · rw [List.filter_cons_of_pos (by simpa [hsection] using hiff.mpr hlisted),
          List.filterMap_cons_some hname, ih, List.filter_cons_of_pos (by simpa using hlisted),
          List.map_cons]
      · rw [List.filter_cons_of_neg (by simpa [hsection] using mt hiff.mp hlisted), ih,
          List.filter_cons_of_neg (by simpa using hlisted)]

/-- The other features of the app write well-formed documents, and the run is not
disturbed. -/
def Planning (i : Nat) (created : DocId) (w : World) (e : Event) : Prop :=
  w.WritesWell e ∧ Undisturbed i created w e

/-- **Both screens show what was confirmed.**  Once its answer has arrived, the table of the
first screen lists all stops that the user of a run has confirmed, as they were; the second
screen lists the names of those on the days that it asks for, whatever the order of the
answers. -/
theorem steps_confirmed_shown {randomElement : Nat → Fin letters.length}
    {currentUser : Option String} {now : Date} {ok : Bool} (h₀ : w₀.Initial)
    (hwell : w₀.store.WellFormed) (hbefore : system.Steps WritesWell w₀ es w₁)
    (henter : w₁.step (.enter created randomElement currentUser now ok) = some w₂)
    (h : system.Steps (Planning w₁.sessions.length created) w₂ fs w₃) :
    (∀ {sorter : Sorter Comment} {savedId : String} {texts : ContentViewController.Details}
      {gs : List DetailsScreen.Event} {s : DetailsScreen}, texts.contentId = created →
      (DetailsScreen.system sorter).Steps DetailsScreen.WritesWell
        (.viewDidLoad w₃.store savedId texts) gs s →
      .getRoute ∉ s.pending → s.missed .getRoute = false →
      s.screen.tableView.content.Perm ((confirmed w₁.sessions.length w₂ fs).map shown)) ∧
    ∀ arrivals : List Nat, arrivals.Perm (List.range 101) → ∃ vc,
      ContentRouteViewController.getRoute (w₃.store.sub .route created) arrivals
        { contentId := created } = some vc ∧
      vc.exRoutes.flatten.Perm (((confirmed w₁.sessions.length w₂ fs).filter fun stop =>
        IsListed stop).map fun stop => stop.2.nameLabel) := by
  have hdocs := stored_enter h₀ hbefore.runs henter (h.mono fun _ _ hc => hc.2)
  have hwell₁ : w₁.store.WellFormed := hbefore.invariant (I := fun w => w.store.WellFormed)
    (fun hI hc hw => wellFormed_step hI hc hw) hwell
  have henters : w₁.WritesWell (.enter created randomElement currentUser now ok) := trivial
  have hwell₃ : w₃.store.WellFormed := h.invariant (I := fun w => w.store.WellFormed)
    (fun hI hc hw => wellFormed_step hI hc.1 hw) (wellFormed_step hwell₁ henters henter)
  constructor
  · intro sorter savedId texts gs s hid hrun hpending hmissed
    obtain ⟨hsound, hfed⟩ := DetailsScreen.sound_fed_steps hwell₃ hrun
    have hgetRoute : DetailsQuery.getRoute ≠ .getExistLikeLocation := by rintro ⟨⟩
    obtain ⟨listed, hperm, hcontent⟩ := (hfed _ hgetRoute).shows hpending hmissed
    have hfind : s.find .getRoute = stored (confirmed w₁.sessions.length w₂ fs) := by
      have honce : DetailsScreen.AskedOnce .getRoute := trivial
      rw [DetailsScreen.steps_find honce hrun hmissed, hid]
      exact hdocs
    rw [hsound.tableView, hcontent, ← map_getRouteName_stored, ← hfind]
    exact hperm.map _
  · intro arrivals harrivals
    have hname : ∀ doc ∈ (w₃.store.sub .route created).docs,
        (ContentRouteViewController.getName doc).isSome := fun doc hdoc =>
      (hwell₃.sub (Collection.mem_docs_iff.mp hdoc)).1
    obtain ⟨vc, hvc, hroutes⟩ :=
      ContentRouteViewController.getRoute_eq hname arrivals { contentId := created }
    rw [List.nil_append] at hroutes
    refine ⟨vc, hvc, ?_⟩
    rw [hroutes, ContentRouteViewController.flatten_occupied, ← filterMap_getName_stored, ← hdocs]
    exact ContentRouteViewController.perm_names_of_days harrivals

instance (i : Nat) (created : DocId) (w : World) (e : Event) : Decidable (Planning i created w e) :=
  inferInstanceAs (Decidable (_ ∧ _))

/-- The stop is on the second screen. -/
theorem oneStop_shown : ∃ w₂ w₃, blank.step enterTrip = some w₂ ∧
    system.Steps (Planning 0 "trip") w₂ oneStop w₃ ∧
      ∃ vc, ContentRouteViewController.getRoute (w₃.store.sub .route "trip") (List.range 101)
        { contentId := "trip" } = some vc ∧
      vc.exRoutes.flatten.Perm (((confirmed 0 w₂ oneStop).filter fun stop =>
        IsListed stop).map fun stop => stop.2.nameLabel) := by
  obtain ⟨w₃, hrun, -⟩ := EventSystem.exists_steps_of_exec system (Planning 0 "trip") blank
    (enterTrip :: oneStop) (fun _ => true) (by decide)
  cases hrun with
  | @cons _ w₂ _ _ _ _ henter hrest =>
      change blank.step (.enter "trip" _ _ _ true) = _ at henter
      have hshown := steps_confirmed_shown initial_blank Store.wellFormed_empty (.nil blank)
        henter hrest
      exact ⟨w₂, w₃, henter, hrest, hshown.2 (List.range 101) (.refl _)⟩

end World

end Groute
