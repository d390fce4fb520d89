import Mathlib.Data.List.Forall2
import Mathlib.Data.List.ReduceOption
import Groute.Lib.EventSystem

/-!
# Simulation

A system can leave out what another one has, and still do all that concerns it.  `T`
simulates `S` along a relation between their states if every step of `S` is matched by a
step of `T`, or by none where `T` has nothing to do; `M` says which events match.

Then a run of `S` is a run of `T` with other events in between (`Simulates.run`), also under
conditions that the events of the one pass on to those of the other
(`Simulates.strengthen`).
-/

universe u v w x

namespace EventSystem

variable {σ : Type u} {ε : Type v} {τ : Type w} {φ : Type x} {S : EventSystem σ ε}
  {T : EventSystem τ φ} {C : σ → ε → Prop} {D : τ → φ → Prop} {M : ε → Option φ → Prop}
  {R : σ → τ → Prop} {s s' : σ} {t : τ} {es : List ε}

/-- `T` can do what `S` does, as far as it concerns `T`. -/
structure Simulates (S : EventSystem σ ε) (T : EventSystem τ φ) (C : σ → ε → Prop)
    (D : τ → φ → Prop) (M : ε → Option φ → Prop) (R : σ → τ → Prop) : Prop where
  step : ∀ {s s' e t}, R s t → C s e → S.step s e = some s' →
    (M e none ∧ R s' t) ∨ ∃ f t', M e (some f) ∧ D t f ∧ T.step t f = some t' ∧ R s' t'

/-- **A run is simulated** by a run whose events match. -/
theorem Simulates.run (h : Simulates S T C D M R) (hrun : S.Steps C s es s') (hR : R s t) :
    ∃ fs t', List.Forall₂ M es fs ∧ T.Steps D t fs.reduceOption t' ∧ R s' t' := by
  induction hrun generalizing t with
  | nil s => exact ⟨[], t, .nil, .nil t, hR⟩
  | @cons s s₁ s' e es hc hs _ ih =>
      rcases h.step hR hc hs with ⟨hm, hR₁⟩ | ⟨f, t₁, hm, hd, ht, hR₁⟩
      · obtain ⟨fs, t', hfs, hrun, hR'⟩ := ih hR₁
        exact ⟨none :: fs, t', .cons hm hfs, hrun, hR'⟩
      · obtain ⟨fs, t', hfs, hrun, hR'⟩ := ih hR₁
        exact ⟨some f :: fs, t', .cons hm hfs, .cons hd ht hrun, hR'⟩

/-- A simulation under more conditions, which give the conditions of the other side. -/
theorem Simulates.strengthen {C' : σ → ε → Prop} {D' : τ → φ → Prop}
    (h : Simulates S T C D M R) (hC : ∀ {s e}, C' s e → C s e)
    (hD : ∀ {s e t f}, R s t → C' s e → M e (some f) → D t f → D' t f) :
    Simulates S T C' D' M R := by
  constructor
  intro s s' e t hR hc hs
  rcases h.step hR (hC hc) hs with hskip | ⟨f, t', hm, hd, ht, hR'⟩
  · exact .inl hskip
  · exact .inr ⟨f, t', hm, hD hR hc hm hd, ht, hR'⟩

/-! ## Events that match -/

variable {fs : List (Option φ)} {f : φ}

/-- An event of the simulating run matches one of the run. -/
theorem exists_of_matching (h : List.Forall₂ M es fs) (hf : f ∈ fs.reduceOption) :
    ∃ e ∈ es, M e (some f) := by
  induction h with
  | nil => cases hf
  | @cons e g es fs hm _ ih =>
      cases g with
      | none =>
          obtain ⟨e', he', hm'⟩ := ih hf
          exact ⟨e', List.mem_cons_of_mem e he', hm'⟩
      | some g =>
          rcases List.mem_cons.mp hf with rfl | hf
          · exact ⟨e, List.mem_cons_self, hm⟩
          · obtain ⟨e', he', hm'⟩ := ih hf
            exact ⟨e', List.mem_cons_of_mem e he', hm'⟩

/-- There are as many events of a kind that matching preserves. -/
theorem countP_of_matching {p : ε → Bool} {q : φ → Bool} (h : List.Forall₂ M es fs)
    (hnone : ∀ {e}, M e none → p e = false) (hsome : ∀ {e f}, M e (some f) → p e = q f) :
    es.countP p = fs.reduceOption.countP q := by
  induction h with
  | nil => rfl
  | @cons e g es fs hm _ ih =>
      cases g with
      | none => rw [List.countP_cons, hnone hm, ih, List.reduceOption_cons_of_none]; rfl
      | some f =>
          rw [List.reduceOption_cons_of_some, List.countP_cons, List.countP_cons, hsome hm, ih]

end EventSystem
