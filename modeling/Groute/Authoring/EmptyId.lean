import Groute.Authoring.Ownership

/-!
# References to the empty identifier

`db.collection("Content").document("")` aborts the process.  The authoring flow
starts with empty identifiers and fills them in when look-ups are answered, but
no screen waits for the answer, and a failed title check hands the empty string
on.  The runs without such a call are exactly those in which `viewDidAppear` of
the city screen and of the planner come after a look-up of that screen has found
a document; the three screens on top of the planner need no condition.
-/

namespace Groute

namespace World

variable {w w₀ : World} {es : List Event}

/-- No call `document(_)` of the event gets the empty string. -/
def NoEmptyReference (w : World) : Event → Prop
  | .run i e ok => ∀ s r, w.sessions[i]? = some s → s.react w.store e ok = some r →
      "" ∉ r.documents
  | .enter .. | .elsewhere _ => True

/-- The run that reacts is ready for the event. -/
def Ready (w : World) : Event → Prop
  | .run i e _ => ∀ s, w.sessions[i]? = some s → s.Ready e
  | .enter .. | .elsewhere _ => True

/-- Along the invariant, the empty string is passed exactly by events for which
the run is not ready. -/
theorem Owned.noEmptyReference_iff {w' : World} {e : Event} (h : w.Owned)
    (hw : w.step e = some w') : w.NoEmptyReference e ↔ w.Ready e := by
  cases e with
  | enter | elsewhere => exact Iff.rfl
  | run i e ok =>
      obtain ⟨s, r, hi, hr, -⟩ := step_run hw
      have hiff := (Session.reacts_of_react hr).ready_iff (h.resolved s (List.mem_of_getElem? hi))
      constructor
      · intro hno s' hs'
        cases hi.symm.trans hs'
        exact hiff.mp (hno s r hi hr)
      · intro hready s' r' hs' hr'
        cases hi.symm.trans hs'
        cases hr.symm.trans hr'
        exact hiff.mpr (hready s hi)

/-- **References to the empty identifier.**  A run of the system makes no call
`document("")` exactly if, at every `viewDidAppear` of a city screen or a
planner, a look-up of that screen has found a document. -/
theorem steps_noEmptyReference_iff (h₀ : w₀.Initial) (h : system.Runs w₀ es w) :
    system.Steps NoEmptyReference w₀ es w ↔ system.Steps Ready w₀ es w :=
  h.iff_steps (fun hI _ _ hstep => hI.step hstep)
    (fun hI _ hstep => hI.noEmptyReference_iff hstep) h₀.owned

instance (q : LookUp) : Decidable (Session.LookUp.Found q) :=
  inferInstanceAs (Decidable (∃ documents ∈ q.delivered, documents ≠ []))

instance (s : Session) (e : Session.Event) : Decidable (s.Ready e) :=
  match e with
  | .didAppear => decidable_of_iff
      ((s.phase = .on .search false → Session.LookUp.Found s.searchLookUp) ∧
        (s.phase = .on .addRoute false → Session.LookUp.Found s.addRouteLookUp))
      ⟨fun h _ => h, fun h => h rfl⟩
  | .editTitle _ | .editMemo _ | .next | .pickCity _ | .openRouteList _ | .openTour _
  | .confirmStop _ | .back | .saveConfirm | .saveCancel | .searchRead | .searchDone
  | .addRouteRead | .addRouteDone _ | .routeSnapshot _ _ | .tourDone _ | .cleanUp _ =>
      .isTrue nofun

instance (w : World) (e : Event) : Decidable (w.Ready e) :=
  match e with
  | .run i e _ => inferInstanceAs (Decidable (∀ s ∈ w.sessions[i]?, s.Ready e))
  | .enter .. | .elsewhere _ => inferInstanceAs (Decidable True)

/-- The planner of a titled trip appears once its look-up has found the trip. -/
def resolvedRun : List Event :=
  [enterTrip, .run 0 .didAppear true, .run 0 (.editTitle "Jeju") true, .run 0 .next true,
    .run 0 .searchRead true, .run 0 .searchDone true, .run 0 .didAppear true]

theorem resolvedRun_ready : ∃ w, system.Steps Ready blank resolvedRun w ∧
    system.Steps NoEmptyReference blank resolvedRun w := by
  obtain ⟨w, hrun, -⟩ := EventSystem.exists_steps_of_exec system Ready blank
    resolvedRun (fun _ => true) (by decide)
  exact ⟨w, hrun, (steps_noEmptyReference_iff initial_blank hrun.runs).mpr hrun⟩

/-- The user presses the button with both texts empty. -/
def untitledRun : List Event :=
  [enterTrip, .run 0 .didAppear true, .run 0 .next true]

/-- The city screen appears nevertheless and writes under the empty identifier. -/
theorem exists_emptyReference : ¬∀ {w₀ w : World} {es : List Event}, w₀.Initial →
    system.Runs w₀ es w → system.Steps NoEmptyReference w₀ es w := by
  intro hall
  obtain ⟨w, hrun, hw⟩ := EventSystem.exists_runs_of_exec system blank
    untitledRun (fun w =>
      (w.sessions[0]?.any fun s => (s.react w.store .didAppear true).any fun r =>
        "" ∈ r.documents) &&
      (w.step (.run 0 .didAppear true)).isSome) (by decide)
  obtain ⟨hempty, hstep⟩ := Bool.and_eq_true_iff.mp hw
  obtain ⟨w', hw'⟩ := Option.isSome_iff_exists.mp hstep
  have hlonger : system.Runs blank (untitledRun ++ [.run 0 .didAppear true]) w' :=
    hrun.snoc trivial hw'
  obtain ⟨s, hs, hempty⟩ := (Option.any_eq_true _ _).mp hempty
  obtain ⟨r, hr, hempty⟩ := (Option.any_eq_true _ _).mp hempty
  exact (hall initial_blank hlonger).last hrun s r hs hr (of_decide_eq_true hempty)

end World

end Groute
