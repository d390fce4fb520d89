import Mathlib.Data.List.Dedup
import Mathlib.Data.List.Sort

/-!
# Listings of a set and sorting by a comparator

Two library operations leave part of their result open.

* Turning a list into a set and back drops repetitions and forgets the order:
  the result is *some* duplicate-free listing of the elements.  `SetOrder` is a
  choice of such a listing for every list.
* Sorting by a comparator is specified only when the comparator is a strict
  weak order on the elements at hand; equal elements may end up in any order.
  `Sorter` is a choice of a permutation for every comparator and list, sorted
  whenever the specification promises it.

A development that quantifies over all `SetOrder`s and all `Sorter`s holds for
every implementation of the two operations.  `SetOrder.dedup` and
`Sorter.insertion` are the choices used to execute the model.
-/

universe u

variable {α : Type u}

/-- A choice of a duplicate-free listing for every list of elements. -/
structure SetOrder (α : Type u) where
  /-- The chosen listing. -/
  list : List α → List α
  /-- Nothing is listed twice. -/
  nodup_list : ∀ xs, (list xs).Nodup
  /-- Exactly the given elements are listed. -/
  mem_list : ∀ {xs a}, a ∈ list xs ↔ a ∈ xs

namespace SetOrder

/-- The listing that keeps the last occurrence of each element. -/
def dedup [DecidableEq α] : SetOrder α := ⟨List.dedup, List.nodup_dedup, List.mem_dedup⟩

instance [DecidableEq α] : Inhabited (SetOrder α) := ⟨dedup⟩

/-- A listing is empty exactly when there is nothing to list. -/
theorem list_eq_nil_iff {o : SetOrder α} {xs : List α} : o.list xs = [] ↔ xs = [] := by
  simp only [List.eq_nil_iff_forall_not_mem, o.mem_list]

end SetOrder

/-- A permutation that keeps the keys in place is the identity, if no key is
repeated. -/
theorem eq_of_perm_of_map {β : Type*} {key : α → β} {xs ys : List α} (hperm : xs.Perm ys)
    (hkey : xs.map key = ys.map key) (hnodup : (ys.map key).Nodup) : xs = ys := by
  induction xs generalizing ys with
  | nil => exact hperm.nil_eq
  | cons x xs ih =>
      cases ys with
      | nil => exact hperm.eq_nil
      | cons y ys =>
          obtain ⟨hxy, hrest⟩ := List.cons.inj hkey
          obtain ⟨hnotMem, hnodup'⟩ := List.nodup_cons.mp hnodup
          rcases List.mem_cons.mp (hperm.mem_iff.mp List.mem_cons_self) with rfl | hmem
          · rw [ih ((List.perm_cons x).mp hperm) hrest hnodup']
          · exact absurd (hxy ▸ List.mem_map_of_mem hmem) hnotMem

/-- A descending list starts with given elements exactly if these are descending
and exceed the others. -/
theorem eq_append_drop_iff [LinearOrder α] {ks xs ys : List α} (hks : ks.Pairwise (· ≥ ·))
    (hperm : ks.Perm (xs ++ ys)) :
    ks = xs ++ ks.drop xs.length ↔ xs.Pairwise (· ≥ ·) ∧ ∀ x ∈ xs, ∀ y ∈ ys, y ≤ x := by
  constructor
  · intro h
    have hrest : (ks.drop xs.length).Perm ys := by
      rw [h] at hperm
      exact (List.perm_append_left_iff xs).mp hperm
    rw [h] at hks
    obtain ⟨hxs, -, hcross⟩ := List.pairwise_append.mp hks
    exact ⟨hxs, fun x hx y hy => hcross x hx y (hrest.mem_iff.mpr hy)⟩
  · rintro ⟨hxs, hcross⟩
    have hsort := List.perm_insertionSort (· ≥ ·) ys
    have hsorted : (xs ++ ys.insertionSort (· ≥ ·)).Pairwise (· ≥ ·) :=
      List.pairwise_append.mpr ⟨hxs, List.pairwise_insertionSort _ _,
        fun x hx y hy => hcross x hx y (hsort.mem_iff.mp hy)⟩
    have heq : ks = xs ++ ys.insertionSort (· ≥ ·) :=
      (hperm.trans (hsort.symm.append_left xs)).eq_of_pairwise' hks hsorted
    rw [heq, List.drop_left]

/-- `lt` is a strict weak order on the elements of `xs`. -/
structure StrictWeakOn (lt : α → α → Bool) (xs : List α) : Prop where
  /-- No element precedes itself. -/
  irrefl : ∀ a ∈ xs, lt a a = false
  /-- Precedence is transitive. -/
  trans : ∀ a ∈ xs, ∀ b ∈ xs, ∀ c ∈ xs, lt a b = true → lt b c = true → lt a c = true
  /-- So is its failure. -/
  ntrans : ∀ a ∈ xs, ∀ b ∈ xs, ∀ c ∈ xs, lt a b = false → lt b c = false → lt a c = false

namespace StrictWeakOn

variable {lt : α → α → Bool} {xs ys : List α}

/-- Comparing by the value of a key in decreasing order is a strict weak order. -/
theorem of_key {β : Type*} [LinearOrder β] (key : α → β)
    (h : ∀ a ∈ xs, ∀ b ∈ xs, lt a b = decide (key b < key a)) : StrictWeakOn lt xs where
  irrefl a ha := by simp [h a ha a ha]
  trans a ha b hb c hc hab hbc := by
    rw [h a ha b hb, decide_eq_true_eq] at hab
    rw [h b hb c hc, decide_eq_true_eq] at hbc
    rw [h a ha c hc, decide_eq_true_eq]
    exact lt_trans hbc hab
  ntrans a ha b hb c hc hab hbc := by
    rw [h a ha b hb, decide_eq_false_iff_not, not_lt] at hab
    rw [h b hb c hc, decide_eq_false_iff_not, not_lt] at hbc
    rw [h a ha c hc, decide_eq_false_iff_not, not_lt]
    exact le_trans hab hbc

theorem mono (h : StrictWeakOn lt ys) (hsub : ∀ a ∈ xs, a ∈ ys) : StrictWeakOn lt xs where
  irrefl a ha := h.irrefl a (hsub a ha)
  trans a ha b hb c hc := h.trans a (hsub a ha) b (hsub b hb) c (hsub c hc)
  ntrans a ha b hb c hc := h.ntrans a (hsub a ha) b (hsub b hb) c (hsub c hc)

/-- Of two elements, one does not come after the other. -/
theorem total (h : StrictWeakOn lt xs) {a b : α} (ha : a ∈ xs) (hb : b ∈ xs) :
    lt b a = false ∨ lt a b = false := by
  by_contra hcon
  rw [not_or, Bool.not_eq_false, Bool.not_eq_false] at hcon
  have hloop := h.trans a ha b hb a ha hcon.2 hcon.1
  exact Bool.noConfusion ((h.irrefl a ha).symm.trans hloop)

end StrictWeakOn

/-- A choice of what sorting by a comparator returns. -/
structure Sorter (α : Type u) where
  /-- The sorted list. -/
  sort : (α → α → Bool) → List α → List α
  /-- Sorting permutes. -/
  perm_sort : ∀ lt xs, (sort lt xs).Perm xs
  /-- Under a strict weak order no element comes before one that precedes it. -/
  pairwise_sort : ∀ {lt xs}, StrictWeakOn lt xs → (sort lt xs).Pairwise fun a b => lt b a = false

namespace Sorter

theorem mem_sort {o : Sorter α} {lt : α → α → Bool} {xs : List α} {a : α} :
    a ∈ o.sort lt xs ↔ a ∈ xs := (o.perm_sort lt xs).mem_iff

/-- Insertion keeps a list sorted. -/
theorem pairwise_orderedInsert {lt : α → α → Bool} {a : α} {xs : List α}
    (h : StrictWeakOn lt (a :: xs)) (hs : xs.Pairwise fun a b => lt b a = false) :
    (xs.orderedInsert (fun a b => lt b a = false) a).Pairwise fun a b => lt b a = false := by
  induction xs with
  | nil => exact List.pairwise_singleton _ _
  | cons b xs ih =>
      obtain ⟨hb, hxs⟩ := List.pairwise_cons.mp hs
      have hmem : ∀ c ∈ a :: xs, c ∈ a :: b :: xs := fun c hc =>
        (List.mem_cons.mp hc).elim (fun h => h ▸ List.mem_cons_self)
          fun h => List.mem_cons_of_mem a (List.mem_cons_of_mem b h)
      by_cases hab : lt b a = false
      · rw [List.orderedInsert_cons, if_pos hab, List.pairwise_cons]
        refine ⟨fun c hc => ?_, hs⟩
        rcases List.mem_cons.mp hc with rfl | hc'
        · exact hab
        · exact h.ntrans c (hmem c (List.mem_cons_of_mem a hc')) b (by simp) a (by simp)
            (hb c hc') hab
      · rw [List.orderedInsert_cons, if_neg hab, List.pairwise_cons]
        refine ⟨fun c hc => ?_, ih (h.mono hmem) hxs⟩
        rcases (List.mem_orderedInsert _).mp hc with rfl | hc'
        · exact (h.total (by simp) (by simp)).resolve_left hab
        · exact hb c hc'

/-- Insertion sort, the stable choice. -/
def insertion : Sorter α where
  sort lt xs := xs.insertionSort fun a b => lt b a = false
  perm_sort _ xs := List.perm_insertionSort _ xs
  pairwise_sort {lt xs} h := by
    induction xs with
    | nil => exact List.Pairwise.nil
    | cons a xs ih =>
        have htail := ih (h.mono fun b hb => List.mem_cons_of_mem a hb)
        refine pairwise_orderedInsert (h.mono fun b hb => ?_) htail
        exact ((List.perm_insertionSort _ xs).cons a).mem_iff.mp hb

instance : Inhabited (Sorter α) := ⟨insertion⟩

end Sorter
