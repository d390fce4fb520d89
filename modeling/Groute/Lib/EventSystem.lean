import Mathlib.Logic.Basic
import Mathlib.Order.WellFounded
import Mathlib.Tactic.TypeStar

/-!
# Event systems and their runs

An event system reacts to one event at a time.  An event carries every choice
the environment makes — which pending call completes, with which outcome, under
which fresh identifier — so the step itself is a partial *function*: `none`
says that the event cannot happen in that state.

`Steps C` is the run whose every step meets `C`.  Runs without a condition are
`Runs`, and the four rules used throughout are

* `Steps.invariant` — what one step preserves, a run preserves, also when it
  speaks of the events so far (`Steps.invariant_history`);
* `Steps.iff_steps` — two conditions that agree step by step, along an
  invariant, select the same runs;
* `steps_iff_exec` — runs are decided by executing their events.
-/

universe u v

/-- A system that reacts to events: `step s e` is the state after `e`, and
`none` when `e` cannot happen in `s`. -/
structure EventSystem (σ : Type u) (ε : Type v) where
  /-- The state after an event, if the event can happen. -/
  step : σ → ε → Option σ

namespace EventSystem

variable {σ : Type u} {ε : Type v} (S : EventSystem σ ε)

/-- Execute events in order, as long as each of them meets `C`. -/
def exec (C : σ → ε → Prop) [∀ s e, Decidable (C s e)] : σ → List ε → Option σ
  | s, [] => some s
  | s, e :: es => if C s e then (S.step s e).bind fun t => exec C t es else none

/-- `S.Steps C s es t` holds when the events `es` lead from `s` to `t` and each
of them meets `C` in the state in which it happens. -/
inductive Steps (C : σ → ε → Prop) : σ → List ε → σ → Prop
  /-- No events lead nowhere else. -/
  | nil (s : σ) : Steps C s [] s
  /-- One step, then the rest. -/
  | cons {s t u : σ} {e : ε} {es : List ε} :
      C s e → S.step s e = some t → Steps C t es u → Steps C s (e :: es) u

/-- A run under no condition. -/
abbrev Runs : σ → List ε → σ → Prop := S.Steps fun _ _ => True

variable {S} {C D : σ → ε → Prop} {s t u : σ} {e : ε} {es fs : List ε}

namespace Steps

/-- A single step is a run. -/
theorem single (hc : C s e) (h : S.step s e = some t) : S.Steps C s [e] t :=
  .cons hc h (.nil t)

/-- Runs compose. -/
theorem append (h : S.Steps C s es t) (h' : S.Steps C t fs u) :
    S.Steps C s (es ++ fs) u := by
  induction h with
  | nil _ => exact h'
  | cons hc hs _ ih => exact .cons hc hs (ih h')

/-- A run followed by one more step. -/
theorem snoc (h : S.Steps C s es t) (hc : C t e) (hs : S.step t e = some u) :
    S.Steps C s (es ++ [e]) u :=
  h.append (single hc hs)

/-- A weaker condition admits every run of a stronger one. -/
theorem mono (hCD : ∀ s e, C s e → D s e) (h : S.Steps C s es t) : S.Steps D s es t := by
  induction h with
  | nil _ => exact .nil _
  | cons hc hs _ ih => exact .cons (hCD _ _ hc) hs ih

/-- A run under a condition is a run. -/
theorem runs (h : S.Steps C s es t) : S.Runs s es t :=
  h.mono fun _ _ _ => trivial

/-- A run meets a condition that all of its events meet in every state. -/
theorem of_forall (h : S.Steps D s es t) (hC : ∀ e ∈ es, ∀ s, C s e) : S.Steps C s es t := by
  induction h with
  | nil _ => exact .nil _
  | cons _ hs _ ih =>
      exact .cons (hC _ List.mem_cons_self _) hs (ih fun e he => hC e (List.mem_cons_of_mem _ he))

/-- **The invariant rule.**  What holds at the start and is preserved by every
step that meets the condition holds at the end. -/
theorem invariant {I : σ → Prop}
    (hstep : ∀ {s e t}, I s → C s e → S.step s e = some t → I t)
    (h : S.Steps C s es t) (h₀ : I s) : I t := by
  induction h with
  | nil _ => exact h₀
  | cons hc hs _ ih => exact ih (hstep h₀ hc hs)

/-- The invariant rule for a property that also follows the events so far, when
some have happened before. -/
theorem invariant_history_from {I : List ε → σ → Prop}
    (hstep : ∀ {es s e t}, I es s → C s e → S.step s e = some t → I (es ++ [e]) t)
    (h : S.Steps C s fs t) (h₀ : I es s) : I (es ++ fs) t := by
  induction h generalizing es with
  | nil _ => rwa [List.append_nil]
  | cons hc hs _ ih =>
      rw [List.append_cons]
      exact ih (hstep h₀ hc hs)

/-- The same from the start. -/
theorem invariant_history {I : List ε → σ → Prop}
    (hstep : ∀ {es s e t}, I es s → C s e → S.step s e = some t → I (es ++ [e]) t)
    (h : S.Steps C s es t) (h₀ : I [] s) : I es t :=
  h.invariant_history_from hstep h₀

/-- A run can be cut after any number of its events. -/
theorem split (h : S.Steps C s (es ++ fs) u) : ∃ t, S.Steps C s es t ∧ S.Steps C t fs u := by
  induction es generalizing s with
  | nil => exact ⟨s, .nil s, h⟩
  | cons e es ih =>
      cases h with
      | cons hc hs hr =>
          obtain ⟨t, h₁, h₂⟩ := ih hr
          exact ⟨t, .cons hc hs h₁, h₂⟩

end Steps

/-- Conditions that agree on every step taken from an invariant state select
the same of the runs that meet a third condition.  The invariant need only
survive the steps that meet the conditions. -/
theorem Steps.iff_steps {B : σ → ε → Prop} {I : σ → Prop}
    (hstep : ∀ {s e t}, I s → B s e → C s e → S.step s e = some t → I t)
    (hiff : ∀ {s e t}, I s → B s e → S.step s e = some t → (C s e ↔ D s e))
    (h : S.Steps B s es t) (h₀ : I s) : S.Steps C s es t ↔ S.Steps D s es t := by
  induction h with
  | nil s => exact ⟨fun _ => .nil _, fun _ => .nil _⟩
  | @cons s t u e es hb hs _ ih =>
      have hagree := hiff h₀ hb hs
      have hrest (hc : C s e) := ih (hstep h₀ hb hc hs)
      constructor
      · rintro (_ | ⟨hc, hs', hr⟩)
        cases hs.symm.trans hs'
        exact .cons (hagree.mp hc) hs ((hrest hc).mp hr)
      · rintro (_ | ⟨hd, hs', hr⟩)
        cases hs.symm.trans hs'
        have hc := hagree.mpr hd
        exact .cons hc hs ((hrest hc).mpr hr)

/-- Runs are decided by executing their events. -/
theorem steps_iff_exec [∀ s e, Decidable (C s e)] :
    S.Steps C s es t ↔ S.exec C s es = some t := by
  constructor
  · intro h
    induction h with
    | nil _ => rfl
    | cons hc hs _ ih => simpa [exec, hc, hs] using ih
  · intro h
    induction es generalizing s with
    | nil => cases h; exact .nil _
    | cons e es ih =>
        obtain ⟨hc, h⟩ := Option.ite_none_right_eq_some.mp h
        obtain ⟨u, hu, hr⟩ := Option.bind_eq_some_iff.mp h
        exact .cons hc hu (ih hr)

/-- The events of a run determine where it ends. -/
theorem Runs.unique (h : S.Runs s es t) (h' : S.Runs s es u) : t = u :=
  Option.some.inj ((steps_iff_exec.mp h).symm.trans (steps_iff_exec.mp h'))

/-- A property of all states along a run is a condition on its steps. -/
theorem Runs.forall_prefix_iff {P : σ → Prop} (h : S.Runs s es t) :
    (∀ fs u, fs <+: es → S.Runs s fs u → P u) ↔
      P s ∧ S.Steps (fun s e => ∀ t, S.step s e = some t → P t) s es t := by
  induction h with
  | nil s =>
      constructor
      · intro hall
        exact ⟨hall [] s (List.prefix_refl _) (.nil s), .nil s⟩
      · rintro ⟨hs, -⟩ fs u hfs hu
        obtain rfl := List.prefix_nil.mp hfs
        cases hu
        exact hs
  | @cons s t u e es _ hs _ ih =>
      constructor
      · intro hall
        obtain ⟨ht, hrest⟩ := ih.mp fun fs v hfs hv =>
          hall (e :: fs) v ((List.prefix_cons_inj e).mpr hfs) (.cons trivial hs hv)
        refine ⟨hall [] s List.nil_prefix (.nil s), .cons (fun t' ht' => ?_) hs hrest⟩
        cases hs.symm.trans ht'
        exact ht
      · rintro ⟨hP, _ | ⟨hc, hs', hr⟩⟩ fs v hfs hv
        cases hs.symm.trans hs'
        cases hv with
        | nil _ => exact hP
        | cons _ ht hv =>
            obtain ⟨rfl, hrest⟩ := List.cons_prefix_cons.mp hfs
            cases hs.symm.trans ht
            exact ih.mpr ⟨hc t hs, hr⟩ _ v hrest hv

/-- The condition holds at the last step, in the state where the events before
it lead. -/
theorem Steps.last (h : S.Steps C s (es ++ [e]) u) (hr : S.Runs s es t) : C t e := by
  obtain ⟨t', h₁, h₂⟩ := h.split
  cases hr.unique h₁.runs
  cases h₂ with
  | cons hc _ _ => exact hc

/-- A condition holds along a run exactly if it holds wherever one of its events
happens. -/
theorem Runs.steps_iff_forall_prefix (h : S.Runs s es t) :
    S.Steps C s es t ↔ ∀ fs e u, fs ++ [e] <+: es → S.Runs s fs u → C u e := by
  constructor
  · rintro hsteps fs e u ⟨gs, rfl⟩ hu
    obtain ⟨v, hv, -⟩ := hsteps.split
    exact hv.last hu
  · intro hall
    induction h with
    | nil s => exact .nil s
    | @cons s t u e es _ hs _ ih =>
        refine .cons (hall [] e s ⟨es, rfl⟩ (.nil s)) hs (ih fun fs e' v hfs hv => ?_)
        exact hall (e :: fs) e' v ((List.prefix_cons_inj e).mpr hfs) (.cons trivial hs hv)

/-- An event leads to one state only. -/
theorem forall_next_iff {P : σ → Prop} (h : S.step s e = some t) :
    (∀ u, S.step s e = some u → P u) ↔ P t := by
  constructor
  · exact fun hall => hall t h
  · intro ht u hu
    cases h.symm.trans hu
    exact ht

/-- A property of all steps along a run is a condition on its events. -/
theorem Runs.forall_steps_iff {P : σ → ε → σ → Prop} (h : S.Runs s es t) :
    (∀ fs e u v, fs ++ [e] <+: es → S.Runs s fs u → S.step u e = some v → P u e v) ↔
      S.Steps (fun u e => ∀ v, S.step u e = some v → P u e v) s es t := by
  rw [h.steps_iff_forall_prefix]
  constructor
  · exact fun hall fs e u hfs hu v hv => hall fs e u v hfs hu hv
  · exact fun hall fs e u v hfs hu hv => hall fs e u hfs hu v hv

/-- What the invariant rule gives for the states along a run. -/
theorem Steps.forall_prefix {I : σ → Prop}
    (hstep : ∀ {s e t}, I s → C s e → S.step s e = some t → I t)
    (h : S.Steps C s es t) (h₀ : I s) {fs : List ε} (hfs : fs <+: es) (hu : S.Runs s fs u) :
    I u := by
  obtain ⟨gs, rfl⟩ := hfs
  obtain ⟨v, hv, -⟩ := h.split
  obtain rfl := hu.unique hv.runs
  exact hv.invariant hstep h₀

/-- What it gives for the steps along a run. -/
theorem Steps.forall_steps {I : σ → Prop} {P : σ → ε → σ → Prop}
    (hstep : ∀ {s e t}, I s → C s e → S.step s e = some t → I t ∧ P s e t)
    (h : S.Steps C s es t) (h₀ : I s) {fs : List ε} {v : σ} (hfs : fs ++ [e] <+: es)
    (hu : S.Runs s fs u) (hv : S.step u e = some v) : P u e v := by
  have hI : I u := h.forall_prefix (fun hI hC hs => (hstep hI hC hs).1) h₀
    ((List.prefix_append fs [e]).trans hfs) hu
  obtain ⟨gs, rfl⟩ := hfs
  obtain ⟨w, hw, -⟩ := h.split
  exact (hstep hI (hw.last hu) hv).2

/-- Events that change nothing can be left out of a run. -/
theorem Steps.filter {p : ε → Bool}
    (hskip : ∀ {s e t}, C s e → p e = false → S.step s e = some t → t = s)
    (h : S.Steps C s es t) : S.Steps C s (es.filter p) t := by
  induction h with
  | nil _ => exact .nil _
  | @cons s t u e es hc hs _ ih =>
      cases hp : p e with
      | false =>
          rw [List.filter_cons_of_neg (by simp [hp])]
          exact hskip hc hp hs ▸ ih
      | true =>
          rw [List.filter_cons_of_pos hp]
          exact .cons hc hs ih

/-- One event that meets `C` leads from `s` to `t`. -/
def Leads (S : EventSystem σ ε) (C : σ → ε → Prop) (t s : σ) : Prop :=
  ∃ e, C s e ∧ S.step s e = some t

/-- **The rule for coming to rest.**  Where an invariant holds, some events make a rank
smaller, and one of them can happen as long as the system does not rest.  Then they cannot
go on for ever, and they lead to rest. -/
theorem comes_to_rest {ρ : Type*} {below : ρ → ρ → Prop} (hwf : WellFounded below)
    {rank : σ → ρ} {I Q : σ → Prop}
    (hstep : ∀ {s e t}, I s → C s e → S.step s e = some t → I t ∧ below (rank t) (rank s))
    (hnext : ∀ {s}, I s → ¬Q s → ∃ t, S.Leads C t s) (h₀ : I s) :
    (∀ ss : Nat → σ, ss 0 = s → ¬∀ n, S.Leads C (ss (n + 1)) (ss n)) ∧
      ∃ es t, S.Steps C s es t ∧ Q t ∧ I t := by
  constructor
  · rintro ss rfl hall
    have hinv : ∀ n, I (ss n) := by
      intro n
      induction n with
      | zero => exact h₀
      | succ n ih =>
          obtain ⟨e, hc, hs⟩ := hall n
          exact (hstep ih hc hs).1
    have : IsWellFounded σ (InvImage below rank) := ⟨InvImage.wf rank hwf⟩
    obtain ⟨n, hn⟩ := WellFounded.not_rel_apply_succ (r := InvImage below rank) ss
    obtain ⟨e, hc, hs⟩ := hall n
    exact hn (hstep (hinv n) hc hs).2
  · induction s using (InvImage.wf rank hwf).induction with
    | _ s ih =>
      by_cases hrest : Q s
      · exact ⟨[], s, .nil s, hrest, h₀⟩
      · obtain ⟨t, e, hc, hs⟩ := hnext h₀ hrest
        obtain ⟨hI, hbelow⟩ := hstep h₀ hc hs
        obtain ⟨es, u, hrun, hu⟩ := ih t hbelow hI
        exact ⟨e :: es, u, .cons hc hs hrun, hu⟩

/-- A run to a state that passes a test is found by executing events. -/
theorem exists_steps_of_exec (S : EventSystem σ ε) (C : σ → ε → Prop)
    [∀ s e, Decidable (C s e)] (s : σ) (es : List ε) (p : σ → Bool)
    (h : (S.exec C s es).any p = true) : ∃ t, S.Steps C s es t ∧ p t = true := by
  obtain ⟨t, ht, hp⟩ := (Option.any_eq_true _ _).mp h
  exact ⟨t, steps_iff_exec.mpr ht, hp⟩

/-- The same for a run under no condition. -/
theorem exists_runs_of_exec (S : EventSystem σ ε) (s : σ) (es : List ε) (p : σ → Bool)
    (h : (S.exec (fun _ _ => True) s es).any p = true) : ∃ t, S.Runs s es t ∧ p t = true :=
  exists_steps_of_exec S _ s es p h

end EventSystem
