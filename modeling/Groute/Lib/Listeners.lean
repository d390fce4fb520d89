import Groute.Lib.Removal

/-!
# Snapshot listeners

A snapshot listener receives the current result of its query when it is
registered, and again after every change.  What it has not received yet waits
in a queue of its own, so listeners that were registered at different times may
lag behind each other, but none of them misses a snapshot or sees two of them in
the wrong order.
-/

universe u

/-- The snapshots that each listener has still to receive, oldest first. -/
abbrev Listeners (α : Type u) := List (List α)

namespace Listeners

variable {α : Type u} {ls ls' : Listeners α} {a b : α} {k : Nat}

/-- A new listener will receive the current result. -/
def register (ls : Listeners α) (a : α) : Listeners α := ls ++ [[a]]

/-- After a change every listener will receive the new result. -/
def notify (ls : Listeners α) (a : α) : Listeners α := ls.map (· ++ [a])

/-- Listener `k` receives its oldest snapshot, if it waits for any. -/
def deliver (ls : Listeners α) (k : Nat) : Option (α × Listeners α) :=
  match ls[k]? with
  | some (a :: queue) => some (a, ls.set k queue)
  | some [] | none => none

/-- The snapshots that wait. -/
def pending (ls : Listeners α) : List α := ls.flatten

@[simp] theorem pending_nil : pending ([] : Listeners α) = [] := rfl

theorem mem_pending_register : b ∈ pending (ls.register a) ↔ b ∈ pending ls ∨ b = a := by
  simp [pending, register]

theorem mem_pending_notify : b ∈ pending (ls.notify a) ↔ b ∈ pending ls ∨ ls ≠ [] ∧ b = a := by
  induction ls with
  | nil => simp [pending, notify]
  | cons queue ls ih =>
      change b ∈ (queue ++ [a]) ++ pending (notify ls a) ↔ b ∈ queue ++ pending ls ∨ _
      rw [List.mem_append, List.mem_append, List.mem_append, ih, List.mem_singleton]
      simp only [ne_eq, reduceCtorEq, not_false_eq_true, true_and]
      tauto

/-- What a delivery leaves: the snapshot was waiting, and the others still are. -/
theorem deliver_eq_some (h : ls.deliver k = some (a, ls')) :
    ∃ before queue after, ls = before ++ (a :: queue) :: after ∧
      ls' = before ++ queue :: after ∧ before.length = k := by
  unfold deliver at h
  split at h
  · next queue hk =>
    cases h
    obtain ⟨before, after, hsplit, hlength, hset⟩ := Removal.set_split hk
    exact ⟨before, queue, after, hsplit, hset _, hlength⟩
  · cases h
  · cases h

/-- A delivered snapshot waits no longer. -/
theorem mem_pending_deliver (h : ls.deliver k = some (a, ls')) :
    b ∈ pending ls ↔ b = a ∨ b ∈ pending ls' := by
  obtain ⟨before, queue, after, rfl, rfl, -⟩ := deliver_eq_some h
  simp only [pending, List.flatten_append, List.flatten_cons, List.mem_append, List.mem_cons]
  tauto

/-- A delivery removes no listener. -/
theorem deliver_ne_nil (h : ls.deliver k = some (a, ls')) : ls ≠ [] ∧ ls' ≠ [] := by
  obtain ⟨before, queue, after, rfl, rfl, -⟩ := deliver_eq_some h
  simp

/-! ## A part of each snapshot -/

variable {β : Type*} {f : α → β}

/-- What the listeners wait for, if a part of each snapshot is all that matters. -/
def mapSnapshots (f : α → β) (ls : Listeners α) : Listeners β := List.map (List.map f) ls

theorem mapSnapshots_register (f : α → β) (ls : Listeners α) (a : α) :
    (ls.register a).mapSnapshots f = (ls.mapSnapshots f).register (f a) := by
  simp [mapSnapshots, register]

theorem mapSnapshots_notify (f : α → β) (ls : Listeners α) (a : α) :
    (ls.notify a).mapSnapshots f = (ls.mapSnapshots f).notify (f a) := by
  simp [mapSnapshots, notify]

/-- Who receives a part of a snapshot receives the snapshot. -/
theorem exists_deliver_of_mapSnapshots {ls' : Listeners β} {b : β}
    (h : (ls.mapSnapshots f).deliver k = some (b, ls')) :
    ∃ a ls'', ls.deliver k = some (a, ls'') ∧ f a = b ∧ ls''.mapSnapshots f = ls' := by
  obtain ⟨before, queue, after, hls, rfl, rfl⟩ := deliver_eq_some h
  obtain ⟨before', rest, rfl, rfl, hrest⟩ := List.map_eq_append_iff.mp hls
  obtain ⟨queue', after', rfl, hqueue, rfl⟩ := List.map_eq_cons_iff.mp hrest
  obtain ⟨a, queue'', rfl, rfl, rfl⟩ := List.map_eq_cons_iff.mp hqueue
  refine ⟨a, before' ++ queue'' :: after', ?_, rfl, ?_⟩
  · simp [deliver]
  · simp [mapSnapshots]

end Listeners
