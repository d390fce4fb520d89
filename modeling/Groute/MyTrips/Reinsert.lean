import Groute.Lib.Removal
import Groute.MyTrips.Controller

/-!
# Putting a swiped row back

Rows are swiped away while the deletions of earlier ones are still outstanding,
and a deletion that fails puts its row back at the index it had when it was
swiped.  `Swiping` is the screen between two appearances: its rows, and every
swipe with its outcome.

The rows that are left are the original list without what is gone, as long as
every row is put back behind exactly those rows that were before it originally.
The index of the swipe is the right one only if no row before it has come or gone
since.
-/

namespace Groute

/-- A swipe. -/
structure Attempt where
  myContent : CurrentUserDocument
  /-- `indexPath.row`. -/
  row : Nat
  /-- Whether the delete of the document succeeded, once it has completed. -/
  outcome : Option Bool := none
deriving DecidableEq

/-- The rows of the screen, and what was swiped. -/
structure Swiping where
  vc : SecondTabViewController
  attempts : List Attempt := []
  /-- The process has trapped. -/
  trapped : Bool := false

namespace Swiping

variable {s t : Swiping} {original : List CurrentUserDocument}

/-- What can happen. -/
inductive Event where
  /-- A row is swiped away. -/
  | swipe (row : Nat)
  /-- The delete of the document of the `j`-th swipe completes. -/
  | completed (j : Nat) (ok : Bool)
deriving DecidableEq

/-- The `j`-th swipe, if its outcome is open. -/
def outstanding (s : Swiping) (j : Nat) : Option Attempt :=
  s.attempts[j]?.filter fun attempt => attempt.outcome.isNone

/-- Record the outcome of the `j`-th swipe. -/
def record (s : Swiping) (j : Nat) (attempt : Attempt) (ok : Bool) : List Attempt :=
  s.attempts.set j { attempt with outcome := some ok }

/-- The state after an event, unless the process has trapped. -/
def step (s : Swiping) (e : Event) : Option Swiping :=
  if s.trapped then none else match e with
  | .swipe row => (s.vc.commit row).map fun (myContent, vc) =>
      { s with vc, attempts := s.attempts ++ [{ myContent, row }] }
  | .completed j true => (s.outstanding j).map fun attempt =>
      { s with attempts := s.record j attempt true }
  | .completed j false => (s.outstanding j).map fun attempt =>
      match s.vc.deleteFailed attempt.myContent attempt.row with
      | some vc => { s with vc, attempts := s.record j attempt false }
      | none => { s with trapped := true }

/-- The screen between two appearances. -/
def system : EventSystem Swiping Event := ⟨step⟩

/-- The documents whose deletion is outstanding or has succeeded. -/
def gone (s : Swiping) : List CurrentUserDocument :=
  (s.attempts.filter fun attempt => attempt.outcome ≠ some false).map Attempt.myContent

/-- The documents whose deletion has succeeded. -/
def deleted (s : Swiping) : List CurrentUserDocument :=
  (s.attempts.filter fun attempt => attempt.outcome = some true).map Attempt.myContent

/-- Every deletion has completed. -/
def Quiescent (s : Swiping) : Prop := ∀ attempt ∈ s.attempts, attempt.outcome.isSome

/-- Nothing was out of bounds, and the rows are the original ones, in their order,
without what is gone. -/
structure Intact (original : List CurrentUserDocument) (s : Swiping) : Prop where
  running : s.trapped = false
  rows : s.vc.filteredDocument = original.filter fun d => d ∉ s.gone

/-- A failed deletion finds as many rows before the index of its swipe as there are
rows that were before its document originally. -/
def RightPlace (original : List CurrentUserDocument) (s : Swiping) : Event → Prop
  | .completed j false => ∀ attempt ∈ s.outstanding j,
      attempt.row = Removal.before original s.vc.filteredDocument attempt.myContent
  | .completed _ true | .swipe _ => True

/-- When every deletion has completed, the documents that are gone are deleted. -/
theorem Intact.restored (h : s.Intact original) (hs : s.Quiescent) :
    s.vc.filteredDocument = original.filter fun d => d ∉ s.deleted := by
  have hgone : s.gone = s.deleted := by
    refine congrArg (List.map Attempt.myContent) (List.filter_congr fun attempt hattempt => ?_)
    have hsome := hs attempt hattempt
    cases houtcome : attempt.outcome with
    | none => rw [houtcome] at hsome; cases hsome
    | some ok => cases ok <;> rfl
  rw [h.rows, hgone]

/-- Around an outstanding swipe. -/
theorem outstanding_split {j : Nat} {attempt : Attempt} (h : s.outstanding j = some attempt) :
    attempt.outcome = none ∧ ∃ front back, s.attempts = front ++ attempt :: back ∧
      ∀ ok, s.record j attempt ok = front ++ { attempt with outcome := some ok } :: back := by
  obtain ⟨hj, hnone⟩ := Option.filter_eq_some_iff.mp h
  obtain ⟨front, back, hsplit, -, hset⟩ := Removal.set_split hj
  exact ⟨Option.isNone_iff_eq_none.mp hnone, front, back, hsplit, fun ok => hset _⟩

/-- What is gone is part of the original list, once. -/
structure Inv (original : List CurrentUserDocument) (s : Swiping) : Prop where
  intact : s.Intact original
  nodup : s.gone.Nodup
  subset : s.gone ⊆ original

/-- A swipe removes its row from what is left. -/
theorem Inv.swipe {row : Nat} (hnodup : original.Nodup) (h : s.Inv original)
    (hstep : s.step (.swipe row) = some t) : t.Inv original := by
  obtain ⟨-, hstep⟩ := Option.ite_none_left_eq_some.mp hstep
  obtain ⟨⟨myContent, vc⟩, hcommit, rfl⟩ := Option.map_eq_some_iff.mp hstep
  obtain ⟨_, hrow, ⟨⟩⟩ := Option.map_eq_some_iff.mp hcommit
  rw [h.intact.rows] at hrow
  obtain ⟨hmem, hnotMem⟩ := List.mem_filter.mp (List.mem_of_getElem? hrow)
  have hgone : gone { s with
      vc := { s.vc with filteredDocument := s.vc.filteredDocument.eraseIdx row }
      attempts := s.attempts ++ [{ myContent, row }] } = s.gone ++ [myContent] := by
    simp [gone]
  refine ⟨⟨h.intact.running, ?_⟩, ?_, ?_⟩
  · rw [hgone]
    show s.vc.filteredDocument.eraseIdx row = _
    rw [h.intact.rows, Removal.eraseIdx_filter hnodup hrow]
    exact List.filter_congr fun d _ => by simp
  · rw [hgone, ← List.concat_eq_append, List.nodup_concat]
    exact ⟨by simpa using hnotMem, h.nodup⟩
  · rw [hgone]
    exact List.append_subset.mpr ⟨h.subset, by simpa using hmem⟩

/-- A success changes neither the rows nor what is gone. -/
theorem Inv.succeeded {j : Nat} (h : s.Inv original)
    (hstep : s.step (.completed j true) = some t) : t.Inv original := by
  obtain ⟨-, hstep⟩ := Option.ite_none_left_eq_some.mp hstep
  obtain ⟨attempt, hattempt, rfl⟩ := Option.map_eq_some_iff.mp hstep
  obtain ⟨hnone, front, back, hsplit, hrecord⟩ := outstanding_split hattempt
  have hgone : gone { s with attempts := s.record j attempt true } = s.gone := by
    simp [gone, hrecord, hsplit, hnone]
  exact ⟨⟨h.intact.running, by rw [hgone]; exact h.intact.rows⟩, hgone ▸ h.nodup, hgone ▸ h.subset⟩

/-- After a failure the document is no longer gone. -/
theorem gone_failed {j : Nat} {attempt : Attempt} (hnodup : s.gone.Nodup)
    (h : s.outstanding j = some attempt) (vc : SecondTabViewController) :
    attempt.myContent ∈ s.gone ∧
      (gone { s with vc, attempts := s.record j attempt false }).Sublist s.gone ∧
      ∀ d, d ∈ gone { s with vc, attempts := s.record j attempt false } ↔
        d ∈ s.gone ∧ d ≠ attempt.myContent := by
  obtain ⟨hnone, front, back, hsplit, hrecord⟩ := outstanding_split h
  let kept (attempts : List Attempt) : List CurrentUserDocument :=
    (attempts.filter fun attempt => attempt.outcome ≠ some false).map Attempt.myContent
  have hgone : s.gone = kept front ++ attempt.myContent :: kept back := by
    simp [gone, kept, hsplit, hnone]
  have hgone' : gone { s with vc, attempts := s.record j attempt false } =
      kept front ++ kept back := by
    simp [gone, kept, hrecord]
  rw [hgone'] at *
  rw [hgone] at hnodup ⊢
  obtain ⟨hnotMem, -⟩ := List.nodup_cons.mp (List.nodup_middle.mp hnodup)
  refine ⟨by simp, (List.sublist_cons_self _ _).append_left _, fun d => ?_⟩
  constructor
  · intro hd
    refine ⟨?_, fun heq => hnotMem (heq ▸ hd)⟩
    exact ((List.sublist_cons_self _ _).append_left _).subset hd
  · rintro ⟨hd, hne⟩
    simpa [hne] using hd

/-- The row of a failed deletion is put back, or is out of bounds. -/
theorem step_failed {j : Nat} (hstep : s.step (.completed j false) = some t) :
    ∃ attempt, s.outstanding j = some attempt ∧
      (attempt.row ≤ s.vc.filteredDocument.length ∧
          t = { s with
            vc := { s.vc with filteredDocument :=
              s.vc.filteredDocument.insertIdx attempt.row attempt.myContent }
            attempts := s.record j attempt false } ∨
        s.vc.filteredDocument.length < attempt.row ∧ t.trapped = true) := by
  obtain ⟨-, hstep⟩ := Option.ite_none_left_eq_some.mp hstep
  obtain ⟨attempt, hattempt, rfl⟩ := Option.map_eq_some_iff.mp hstep
  refine ⟨attempt, hattempt, ?_⟩
  by_cases hle : attempt.row ≤ s.vc.filteredDocument.length
  · rw [SecondTabViewController.deleteFailed, if_pos hle]
    exact .inl ⟨hle, rfl⟩
  · rw [SecondTabViewController.deleteFailed, if_neg hle]
    exact .inr ⟨Nat.lt_of_not_le hle, rfl⟩

/-- A failure leaves the rows intact exactly if the index is right. -/
theorem Inv.failed {j : Nat} (hnodup : original.Nodup) (h : s.Inv original)
    (hstep : s.step (.completed j false) = some t) :
    (t.Intact original ↔ s.RightPlace original (.completed j false)) ∧
      (t.Intact original → t.Inv original) := by
  obtain ⟨attempt, hattempt, hcases⟩ := step_failed hstep
  have hright : s.RightPlace original (.completed j false) ↔ attempt.row =
      Removal.before original s.vc.filteredDocument attempt.myContent := by
    rw [RightPlace, hattempt]
    exact ⟨fun h => h attempt rfl, fun h other hother => by cases hother; exact h⟩
  rw [hright]
  rcases hcases with ⟨hle, rfl⟩ | ⟨hlt, htrapped⟩
  · obtain ⟨hmem, hsub, hiff⟩ := gone_failed h.nodup hattempt
      { s.vc with filteredDocument :=
        s.vc.filteredDocument.insertIdx attempt.row attempt.myContent }
    refine ⟨?_, fun hintact =>
      ⟨hintact, h.nodup.sublist hsub, List.Subset.trans hsub.subset h.subset⟩⟩
    have hrows : original.filter (fun d => decide (d ∉ s.gone) || decide (d = attempt.myContent)) =
        original.filter fun d => d ∉ gone { s with
          vc := { s.vc with filteredDocument :=
            s.vc.filteredDocument.insertIdx attempt.row attempt.myContent }
          attempts := s.record j attempt false } :=
      List.filter_congr fun d _ => by
        rw [← Bool.decide_or]
        exact decide_eq_decide.mpr (by rw [hiff]; tauto)
    have hplace := Removal.insertIdx_filter_eq_iff (p := fun d => d ∉ s.gone) hnodup
      (h.subset hmem) (by simpa using hmem) (h.intact.rows ▸ hle)
    rw [hrows, ← h.intact.rows] at hplace
    refine Iff.trans ?_ hplace
    exact ⟨fun hintact => hintact.rows, fun heq => ⟨h.intact.running, heq⟩⟩
  · have hlong : Removal.before original s.vc.filteredDocument attempt.myContent < attempt.row :=
      List.countP_le_length.trans_lt hlt
    have hnot : ¬t.Intact original := fun hintact => by simpa [htrapped] using hintact.running
    exact ⟨iff_of_false hnot hlong.ne', fun hintact => absurd hintact hnot⟩

/-- A step from intact rows leaves intact rows exactly if no index is wrong. -/
theorem Inv.intact_iff {e : Event} (hnodup : original.Nodup) (h : s.Inv original)
    (hstep : s.step e = some t) : t.Intact original ↔ s.RightPlace original e := by
  rcases e with row | ⟨j, _ | _⟩
  · exact iff_of_true (h.swipe hnodup hstep).intact trivial
  · exact (h.failed hnodup hstep).1
  · exact iff_of_true (h.succeeded hstep).intact trivial

/-- An intact step keeps the invariant. -/
theorem Inv.step {e : Event} (hnodup : original.Nodup) (h : s.Inv original)
    (hintact : t.Intact original) (hstep : s.step e = some t) : t.Inv original := by
  rcases e with row | ⟨j, _ | _⟩
  · exact h.swipe hnodup hstep
  · exact (h.failed hnodup hstep).2 hintact
  · exact h.succeeded hstep

/-- **Failed swipes.**  From rows with distinct identifiers, nothing is out of
bounds and the rows stay intact throughout a run exactly if every failed deletion
puts its row back in the right place; once every deletion has completed, intact
rows are the original ones without those that were deleted. -/
theorem forall_intact_iff {vc : SecondTabViewController} {es : List Event}
    (hids : (vc.filteredDocument.map CurrentUserDocument.id).Nodup)
    (hrun : system.Runs { vc } es s) :
    ((∀ fs u, fs <+: es → system.Runs { vc } fs u → u.Intact vc.filteredDocument) ↔
        system.Steps (RightPlace vc.filteredDocument) { vc } es s) ∧
      (s.Intact vc.filteredDocument → s.Quiescent →
        s.vc.filteredDocument = vc.filteredDocument.filter fun d => d ∉ s.deleted) := by
  have hnodup : vc.filteredDocument.Nodup := hids.of_map _
  have hstart : Inv vc.filteredDocument { vc } :=
    ⟨⟨rfl, by simp [gone]⟩, List.nodup_nil, List.nil_subset _⟩
  refine ⟨?_, fun hintact => hintact.restored⟩
  rw [hrun.forall_prefix_iff, and_iff_right hstart.intact]
  refine hrun.iff_steps (I := Inv vc.filteredDocument)
    (fun hI _ hC hstep => hI.step hnodup (hC _ hstep) hstep) (fun hI _ hstep => ?_) hstart
  exact (EventSystem.forall_next_iff hstep).trans (hI.intact_iff hnodup hstep)

instance (original : List CurrentUserDocument) (s : Swiping) (e : Event) :
    Decidable (s.RightPlace original e) :=
  match e with
  | .completed j false => inferInstanceAs (Decidable (∀ attempt ∈ s.outstanding j,
      attempt.row = Removal.before original s.vc.filteredDocument attempt.myContent))
  | .completed _ true | .swipe _ => inferInstanceAs (Decidable True)

/-- A screen with rows of the given identifiers. -/
def listing (ids : List DocId) : SecondTabViewController :=
  { filteredDocument := ids.map fun id => ⟨id, "", "", 0⟩ }

/-- The first and the last of three rows are swiped; only the first deletion
succeeds. -/
theorem intact_last : ∃ s, system.Runs { vc := listing ["a", "b", "c"] }
    [.swipe 0, .swipe 1, .completed 1 false, .completed 0 true] s ∧
      s.vc.filteredDocument =
        (listing ["a", "b", "c"]).filteredDocument.filter fun d => d ∉ s.deleted := by
  obtain ⟨s, hsteps, hquiescent⟩ := EventSystem.exists_steps_of_exec system
    (RightPlace (listing ["a", "b", "c"]).filteredDocument) { vc := listing ["a", "b", "c"] }
    [.swipe 0, .swipe 1, .completed 1 false, .completed 0 true]
    (fun s => s.attempts.all fun attempt => attempt.outcome.isSome) (by decide)
  obtain ⟨hiff, hrestored⟩ := forall_intact_iff (by decide) hsteps.runs
  have hintact := hiff.mpr hsteps _ s (List.prefix_refl _) hsteps.runs
  exact ⟨s, hsteps.runs, hrestored hintact (List.all_eq_true.mp hquiescent)⟩

/-- Both of two rows are swiped, the last one first; its deletion fails when no row
is left before it. -/
theorem exists_not_intact : ¬∀ {vc : SecondTabViewController} {es : List Event} {s : Swiping},
    (vc.filteredDocument.map CurrentUserDocument.id).Nodup → system.Runs { vc } es s →
      s.trapped = false ∧ (s.Quiescent →
        s.vc.filteredDocument = vc.filteredDocument.filter fun d => d ∉ s.deleted) := by
  intro hall
  obtain ⟨s, hrun, hs⟩ := EventSystem.exists_runs_of_exec system { vc := listing ["a", "b"] }
    [.swipe 1, .swipe 0, .completed 0 false] Swiping.trapped (by decide)
  exact absurd (hall (by decide) hrun).1 (by simp [hs])

end Swiping

end Groute
