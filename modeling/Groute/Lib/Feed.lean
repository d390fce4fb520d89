import Mathlib.Data.List.Perm.Basic
import Groute.Lib.Collection
import Groute.Lib.Listeners

/-!
# Values that answers fill

A value is filled with the answers to a query, which wait in one queue or in several, as
the snapshots for several listeners do.  An answer from a queue that lags behind puts an old
result back, so the value can be wrong while answers wait.  It cannot stay wrong if the last
answer in each queue is right: whichever queue becomes empty last leaves its answer there.

`Feeds` says this of a value; a new queue, a new answer for all queues, a delivery and the
loss of a queue keep it.
-/

universe u v

namespace Listeners

variable {α : Type u} {κ : Type v} {ls ls' : Listeners α} {a : α} {k : Nat}
  {right right' : α → Prop} {shown shown' : Prop}

/-- The listeners of a query whose documents are only added and deleted: the keys tell
whether its result has changed. -/
def observe [DecidableEq κ] (ls : Listeners (List (κ × α))) (before after : List (κ × α)) :
    Listeners (List (κ × α)) :=
  if after.map Prod.fst = before.map Prod.fst then ls else ls.notify after

/-- The last answer in each queue is right. -/
def UpToDate (right : α → Prop) (ls : Listeners α) : Prop :=
  ∀ queue ∈ ls, ∀ a, queue.getLast? = some a → right a

theorem upToDate_nil : UpToDate right [] := by
  intro queue hqueue
  cases hqueue

theorem UpToDate.register (h : UpToDate right ls) (ha : right a) :
    UpToDate right (ls.register a) := by
  intro queue hqueue b hb
  rcases List.mem_append.mp hqueue with hqueue | hqueue
  · exact h queue hqueue b hb
  · rw [List.mem_singleton.mp hqueue] at hb
    exact Option.some.inj hb ▸ ha

theorem upToDate_notify (ha : right a) : UpToDate right (ls.notify a) := by
  intro queue hqueue b hb
  obtain ⟨queue, -, rfl⟩ := List.mem_map.mp hqueue
  rw [List.getLast?_concat] at hb
  exact Option.some.inj hb ▸ ha

theorem UpToDate.deliver (h : UpToDate right ls) (hk : ls.deliver k = some (a, ls')) :
    UpToDate right ls' := by
  obtain ⟨before, queue, after, rfl, rfl, -⟩ := deliver_eq_some hk
  intro queue' hqueue' b hb
  rcases List.mem_append.mp hqueue' with hbefore | hrest
  · exact h queue' (List.mem_append_left _ hbefore) b hb
  rcases List.mem_cons.mp hrest with rfl | hafter
  · refine h (a :: queue') (List.mem_append_right _ List.mem_cons_self) b ?_
    rw [List.getLast?_cons, hb]
    rfl
  · exact h queue' (List.mem_append_right _ (List.mem_cons_of_mem _ hafter)) b hb

/-- What empties the last queue is right. -/
theorem UpToDate.of_deliver (h : UpToDate right ls) (hk : ls.deliver k = some (a, ls'))
    (hnil : ls'.pending = []) : right a := by
  obtain ⟨before, queue, after, rfl, rfl, -⟩ := deliver_eq_some hk
  have hqueue : queue = [] :=
    List.flatten_eq_nil_iff.mp hnil queue (List.mem_append_right _ List.mem_cons_self)
  subst hqueue
  exact h [a] (List.mem_append_right _ List.mem_cons_self) a rfl

/-! ## What waits -/

theorem pending_register (a : α) : (ls.register a).pending = ls.pending ++ [a] := by
  simp [pending, register]

theorem pending_register_ne_nil (a : α) : (ls.register a).pending ≠ [] := by
  rw [pending_register]
  exact List.concat_ne_nil a ls.pending

theorem pending_notify_ne_nil (h : ls ≠ []) (a : α) : (ls.notify a).pending ≠ [] :=
  List.ne_nil_of_mem (mem_pending_notify.mpr (.inr ⟨h, rfl⟩))

/-- A delivery takes one answer. -/
theorem pending_deliver (hk : ls.deliver k = some (a, ls')) :
    ls.pending.Perm (a :: ls'.pending) := by
  obtain ⟨before, queue, after, rfl, rfl, -⟩ := deliver_eq_some hk
  simp only [pending, List.flatten_append, List.flatten_cons, List.cons_append]
  exact List.perm_middle

/-- Answers that fail a test do not count. -/
theorem countP_pending_notify {p : α → Bool} (ha : p a = false) :
    (ls.notify a).pending.countP p = ls.pending.countP p := by
  induction ls with
  | nil => rfl
  | cons queue ls ih =>
      change List.countP p (queue ++ [a] ++ (notify ls a).pending) =
        List.countP p (queue ++ pending ls)
      rw [List.countP_append, List.countP_append, List.countP_append, ih,
        List.countP_singleton, ha]
      rfl

/-- Nor do they if the query finds something whenever it found something before. -/
theorem countP_pending_observe [DecidableEq κ] {ls : Listeners (List (κ × α))}
    {before after : List (κ × α)} (h : after = [] → before = []) :
    (ls.observe before after).pending.countP List.isEmpty =
      ls.pending.countP List.isEmpty := by
  rw [observe]
  split
  · rfl
  · next hkeys =>
    refine countP_pending_notify ?_
    cases after with
    | nil =>
        rw [h rfl] at hkeys
        exact absurd rfl hkeys
    | cons a after => rfl

/-- An answer that waits can be delivered. -/
theorem exists_deliver (h : ls.pending ≠ []) : ∃ k a ls', ls.deliver k = some (a, ls') := by
  obtain ⟨a, ha⟩ := List.exists_mem_of_ne_nil _ h
  obtain ⟨queue, hqueue, ha⟩ := List.mem_flatten.mp ha
  obtain ⟨k, hk⟩ := List.mem_iff_getElem?.mp hqueue
  obtain ⟨first, rest, rfl⟩ := List.exists_cons_of_ne_nil (List.ne_nil_of_mem ha)
  refine ⟨k, first, ls.set k rest, ?_⟩
  rw [deliver, hk]

/-! ## Feeds -/

/-- The value will be right: once nothing waits, `shown` holds. -/
structure Feeds (right : α → Prop) (shown : Prop) (ls : Listeners α) : Prop where
  upToDate : UpToDate right ls
  shown : ls.pending = [] → shown

/-- Whatever the value was, a new listener will put it right. -/
theorem UpToDate.feeds_register (h : UpToDate right ls) (ha : right a) :
    Feeds right shown (ls.register a) where
  upToDate := h.register ha
  shown hnil := absurd hnil (pending_register_ne_nil a)

/-- So will the next answer in any queue. -/
theorem feeds_notify (h : ls ≠ []) (ha : right a) : Feeds right shown (ls.notify a) where
  upToDate := upToDate_notify ha
  shown hnil := absurd hnil (pending_notify_ne_nil h a)

/-- An answer fills the value. -/
theorem Feeds.deliver (h : Feeds right shown ls) (hk : ls.deliver k = some (a, ls'))
    (hshown : right a → shown') : Feeds right shown' ls' where
  upToDate := h.upToDate.deliver hk
  shown hnil := hshown (h.upToDate.of_deliver hk hnil)

/-- The value stays right. -/
theorem Feeds.mono (h : Feeds right shown ls) (hright : ∀ a, right a → right' a)
    (hshown : shown → shown') : Feeds right' shown' ls where
  upToDate queue hqueue a ha := hright a (h.upToDate queue hqueue a ha)
  shown hnil := hshown (h.shown hnil)

/-- The query may have changed; the listeners are told so, if there are any. -/
theorem Feeds.observe [DecidableEq κ] {ls : Listeners (List (κ × α))} {cur cur' : List (κ × α)}
    {shows : List (κ × α) → Prop} (h : Feeds (· = cur) (shows cur) ls)
    (hkeys : cur'.map Prod.fst = cur.map Prod.fst → cur' = cur)
    (hnil : ls = [] → shows cur → shows cur') :
    Feeds (· = cur') (shows cur') (ls.observe cur cur') := by
  by_cases hsame : cur' = cur
  · subst hsame
    rw [Listeners.observe, if_pos rfl]
    exact h
  · rw [Listeners.observe, if_neg fun heq => hsame (hkeys heq)]
    by_cases hls : ls = []
    · subst hls
      exact ⟨upToDate_notify rfl, fun _ => hnil rfl (h.shown rfl)⟩
    · exact feeds_notify hls rfl

end Listeners
