import Groute.Lib.EventSystem

/-!
# Tables with sections

A table with sections asks its data source for the number of rows of each section
when it is reloaded, and keeps these numbers until the next reload; in between it
asks for any row that is counted.  A handler that runs may change what the data
source would answer, and may reload the table.

The numbers are up to date in every state of a run exactly if every handler that does
not reload the table leaves the answers of the data source alone.
-/

universe u v

/-- A data source, and the handlers of the events that change it. -/
structure SectionedTable (σ : Type u) (ε : Type v) where
  /-- The number of rows of each section, unless the data source traps. -/
  counts : σ → Option (List Nat)
  /-- What an event makes of the data source and whether its handler reloads the
  table, unless the handler traps. -/
  handle : σ → ε → Option (σ × Bool)

namespace SectionedTable

variable {σ : Type u} {ε : Type v}

/-- A table on display. -/
structure State (σ : Type u) where
  /-- The data source. -/
  vc : σ
  /-- The numbers of rows as of the last reload. -/
  counts : List Nat
  /-- The process has trapped. -/
  trapped : Bool := false

/-- The table after a reload. -/
def reloadData (S : SectionedTable σ ε) (s : State σ) (vc : σ) : State σ :=
  match S.counts vc with
  | some counts => { vc, counts }
  | none => { s with trapped := true }

/-- A table that has been loaded. -/
def display (S : SectionedTable σ ε) (vc : σ) : State σ := S.reloadData { vc, counts := [] } vc

/-- The state after an event, unless the process has trapped. -/
def step (S : SectionedTable σ ε) (s : State σ) (e : ε) : Option (State σ) :=
  if s.trapped then none
  else match S.handle s.vc e with
    | some (vc, true) => some (S.reloadData s vc)
    | some (vc, false) => some { s with vc }
    | none => some { s with trapped := true }

/-- The table on display as an event system. -/
def system (S : SectionedTable σ ε) : EventSystem (State σ) ε := ⟨S.step⟩

/-- Unless the process has trapped, the table holds the numbers that the data source
would give now. -/
def Fresh (S : SectionedTable σ ε) (s : State σ) : Prop :=
  s.trapped = false → S.counts s.vc = some s.counts

/-- The event reloads the table or does not change the numbers. -/
def Paired (S : SectionedTable σ ε) (s : State σ) (e : ε) : Prop :=
  ∀ vc, S.handle s.vc e = some (vc, false) → S.counts vc = S.counts s.vc

variable {S : SectionedTable σ ε} {s t : State σ} {e : ε} {es : List ε} {vc : σ}

/-- A reload makes the numbers fresh. -/
theorem fresh_reloadData (s : State σ) (vc : σ) : S.Fresh (S.reloadData s vc) := by
  unfold reloadData
  split
  · next counts hcounts => exact fun _ => hcounts
  · nofun

/-- A loaded table is up to date. -/
theorem fresh_display (vc : σ) : S.Fresh (S.display vc) := fresh_reloadData _ vc

/-- What a step can be. -/
theorem step_cases (h : S.step s e = some t) : s.trapped = false ∧
    ((∃ vc, S.handle s.vc e = some (vc, true) ∧ t = S.reloadData s vc) ∨
      (∃ vc, S.handle s.vc e = some (vc, false) ∧ t = { s with vc }) ∨
      S.handle s.vc e = none ∧ t = { s with trapped := true }) := by
  obtain ⟨hrunning, h⟩ := Option.ite_none_left_eq_some.mp h
  refine ⟨eq_false_of_ne_true hrunning, ?_⟩
  split at h
  · next vc hhandle => exact .inl ⟨vc, hhandle, (Option.some.inj h).symm⟩
  · next vc hhandle => exact .inr (.inl ⟨vc, hhandle, (Option.some.inj h).symm⟩)
  · next hhandle => exact .inr (.inr ⟨hhandle, (Option.some.inj h).symm⟩)

/-- A step from fresh numbers leaves fresh numbers exactly if the event is paired with
a reload or needs none. -/
theorem fresh_iff (hs : S.Fresh s) (h : S.step s e = some t) : S.Fresh t ↔ S.Paired s e := by
  obtain ⟨hrunning, ⟨vc, hhandle, rfl⟩ | ⟨vc, hhandle, rfl⟩ | ⟨hhandle, rfl⟩⟩ := step_cases h
  · refine iff_of_true (fresh_reloadData s vc) fun vc' hvc' => ?_
    cases hhandle.symm.trans hvc'
  · constructor
    · intro ht vc' hvc'
      cases hhandle.symm.trans hvc'
      exact (ht hrunning).trans (hs hrunning).symm
    · exact fun hpaired _ => (hpaired vc hhandle).trans (hs hrunning)
  · refine iff_of_true nofun fun vc' hvc' => ?_
    cases hhandle.symm.trans hvc'

/-- **Fresh counts.**  Along a run of a loaded table the numbers are up to date in every
state exactly if every event is paired with a reload or needs none. -/
theorem forall_fresh_iff (h : S.system.Runs (S.display vc) es s) :
    (∀ fs u, fs <+: es → S.system.Runs (S.display vc) fs u → S.Fresh u) ↔
      S.system.Steps S.Paired (S.display vc) es s := by
  rw [h.forall_prefix_iff, and_iff_right (fresh_display vc)]
  refine h.iff_steps (I := S.Fresh) (fun _ _ hfresh hstep => hfresh _ hstep)
    (fun hI _ hstep => ?_) (fresh_display vc)
  exact (EventSystem.forall_next_iff hstep).trans (fresh_iff hI hstep)

/-- If all events are paired, the numbers are always up to date. -/
theorem fresh_of_paired (hpaired : ∀ s e, S.Paired s e)
    (h : S.system.Runs (S.display vc) es s) : S.Fresh s :=
  h.invariant (I := S.Fresh) (fun hI _ hstep => (fresh_iff hI hstep).mpr (hpaired _ _))
    (fresh_display vc)

end SectionedTable
