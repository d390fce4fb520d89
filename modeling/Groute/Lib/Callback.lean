import Groute.Lib.EventSystem

/-!
# Completion handlers

A completion handler gets two optional arguments, a result and an error, and is meant to
look at the error first.  If it does, a call with an error does nothing; if it does not,
what happens depends on how it unwraps the result: `!` stops the program, `?` skips the
rest.

`Silent` says that a call with an error and without a result neither stops the program
nor changes anything.  `Handlers` are the completion handlers of one program.  Its runs
consist of their calls and of anything else that changes the state.
-/

universe u v w x

/-- What a completion handler makes of a state, when it is called with a result or `nil`
and an error or `nil`; `none` if it stops the program. -/
def Callback (α : Type u) (ε : Type v) (σ : Type w) : Type (max u v w) :=
  Option α → Option ε → σ → Option σ

namespace Callback

variable {α : Type u} {ε : Type v} {σ : Type w}

/-- The handler returns if there is an error. -/
def guarded (body : Option α → σ → Option σ) : Callback α ε σ
  | _, some _, s => some s
  | result, none, s => body result s

/-- The handler does not look at the error. -/
def unguarded (body : Option α → σ → Option σ) : Callback α ε σ := fun result _ s => body result s

/-- The result is unwrapped by `!`. -/
def forced (body : α → σ → Option σ) : Option α → σ → Option σ
  | some result, s => body result s
  | none, _ => none

/-- The result is unwrapped by `?`. -/
def chained (body : α → σ → σ) : Option α → σ → Option σ
  | some result, s => some (body result s)
  | none, s => some s

/-- Called with an error and without a result, the handler does nothing. -/
def Silent (callback : Callback α ε σ) : Prop := ∀ err s, callback none (some err) s = some s

theorem silent_guarded (body : Option α → σ → Option σ) :
    Silent (guarded body : Callback α ε σ) := fun _ _ => rfl

theorem silent_unguarded_chained (body : α → σ → σ) :
    Silent (unguarded (chained body) : Callback α ε σ) := fun _ _ => rfl

end Callback

/-- The completion handlers of a program; a read has a result of some type. -/
structure Handlers (Read : Type u → Type v) (ε : Type w) (σ : Type x) where
  /-- The handler of a read. -/
  call : {α : Type u} → Read α → Callback α ε σ

namespace Handlers

variable {Read : Type u → Type v} {ε : Type w} {σ : Type x}

/-- A program that may have stopped. -/
structure State (σ : Type x) where
  state : σ
  /-- The process has trapped. -/
  trapped : Bool := false

/-- What can happen. -/
inductive Event (Read : Type u → Type v) (ε : Type w) (σ : Type x) where
  /-- The handler of a read is called. -/
  | called {α : Type u} (read : Read α) (result : Option α) (err : Option ε)
  /-- Anything else changes the state. -/
  | elsewhere (state : σ)

/-- A read has failed. -/
def Event.failed : Event Read ε σ → Bool
  | .called _ none (some _) => true
  | .called _ (some _) _ | .called _ none none | .elsewhere _ => false

/-- The state after an event, unless the process has trapped. -/
def step (S : Handlers Read ε σ) (s : State σ) (e : Event Read ε σ) : Option (State σ) :=
  if s.trapped then none
  else match e with
    | .called read result err =>
        match S.call read result err s.state with
        | some state => some { state }
        | none => some { s with trapped := true }
    | .elsewhere state => some { state }

/-- The program as an event system. -/
def system (S : Handlers Read ε σ) : EventSystem (State σ) (Event Read ε σ) := ⟨S.step⟩

/-- The handlers of reads that fail are silent. -/
def SilentAt (S : Handlers Read ε σ) : Event Read ε σ → Prop
  | .called read none (some _) => (S.call read).Silent
  | .called _ (some _) _ | .called _ none none | .elsewhere _ => True

variable {S : Handlers Read ε σ} {s t : State σ} {e : Event Read ε σ}
  {es : List (Event Read ε σ)}

/-- A silent handler changes nothing. -/
theorem eq_of_silentAt (hsilent : S.SilentAt e) (hfailed : e.failed = true)
    (h : S.step s e = some t) : t = s := by
  obtain ⟨hrunning, h⟩ := Option.ite_none_left_eq_some.mp h
  match e with
  | .called read none (some err) =>
      obtain ⟨state, trapped⟩ := s
      obtain rfl : trapped = false := eq_false_of_ne_true hrunning
      simp only [hsilent err state, Option.some.injEq] at h
      exact h.symm
  | .called _ (some _) _ | .called _ none none | .elsewhere _ => cases hfailed

/-- Reads that fail silently might as well not have happened. -/
theorem steps_filter (h : S.system.Steps (fun _ e => S.SilentAt e) s es t) :
    S.system.Steps (fun _ e => S.SilentAt e) s (es.filter fun e => !e.failed) t :=
  h.filter fun hsilent hfailed hstep =>
    eq_of_silentAt hsilent (by simpa using hfailed) hstep

/-- **Failed reads.**  If a handler that is not silent changes something whenever its
read fails, then the failed reads of a run change nothing exactly if their handlers are
silent. -/
theorem forall_failed_iff
    (hdecided : ∀ {α : Type u} (read : Read α), (S.call read).Silent ∨
      ∀ err state, S.call read none (some err) state ≠ some state)
    (h : S.system.Runs s es t) :
    (∀ fs e u v, fs ++ [e] <+: es → S.system.Runs s fs u → S.system.step u e = some v →
        e.failed = true → v = u) ↔
      S.system.Steps (fun _ e => S.SilentAt e) s es t := by
  refine (h.forall_steps_iff (P := fun u e v => e.failed = true → v = u)).trans
    (h.iff_steps (I := fun _ => True) (fun _ _ _ _ => trivial) ?_ trivial)
  intro u e v _ _ hstep
  refine (EventSystem.forall_next_iff (P := fun v => e.failed = true → v = u) hstep).trans ?_
  refine ⟨?_, fun hsilent hfailed => eq_of_silentAt hsilent hfailed hstep⟩
  intro hsame
  match e with
  | .called read none (some err) =>
      refine (hdecided read).resolve_right fun hloud => ?_
      obtain rfl := hsame rfl
      obtain ⟨hrunning, hstep⟩ := Option.ite_none_left_eq_some.mp hstep
      split at hstep
      · next state hcall =>
        have hstate := congrArg State.state (Option.some.inj hstep)
        exact hloud err v.state (hcall.trans (congrArg some hstate))
      · exact hrunning (congrArg State.trapped (Option.some.inj hstep)).symm
  | .called _ (some _) _ | .called _ none none | .elsewhere _ => trivial

end Handlers
