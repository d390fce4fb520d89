import Mathlib.Data.List.Lemmas
import Mathlib.Data.List.Nodup

/-!
# Removing entries of a list and putting them back

What is left of a list without repetitions, after some of its elements were
removed, is a filter of it.  Removing one more by its position removes it from
the filter.  Putting one back at a position restores the filter exactly if the
position is the number of the remaining elements that stand before it in the
original list.

An element that stays can be followed by its position (`Removal.moved`).
-/

universe u

namespace Removal

variable {α : Type u} [DecidableEq α] {xs : List α} {p : α → Bool} {a : α} {i : Nat}

omit [DecidableEq α] in
/-- Around a position a list falls into two parts, which `set` leaves alone. -/
theorem set_split (h : xs[i]? = some a) : ∃ front back, xs = front ++ a :: back ∧
    front.length = i ∧ ∀ b, xs.set i b = front ++ b :: back := by
  obtain ⟨hi, rfl⟩ := List.getElem?_eq_some_iff.mp h
  refine ⟨xs.take i, xs.drop (i + 1), ?_, List.length_take_of_le (Nat.le_of_lt hi), fun b => ?_⟩
  · rw [List.getElem_cons_drop, List.take_append_drop]
  · exact List.set_eq_take_append_cons_drop.trans (if_pos hi)

/-- Where the element at position `i` stands when the one at position `j` has been
removed. -/
def moved (i j : Nat) : Nat := if j < i then i - 1 else i

omit [DecidableEq α] in
theorem getElem?_eraseIdx_moved {j : Nat} (h : j ≠ i) :
    (xs.eraseIdx j)[moved i j]? = xs[i]? := by
  rw [moved, List.getElem?_eraseIdx]
  split
  · next hlt => rw [if_neg (by omega), Nat.sub_add_cancel (Nat.one_le_of_lt hlt)]
  · next hlt => rw [if_pos (by omega)]

omit [DecidableEq α] in
/-- Elements that are appended move none. -/
theorem getElem?_of_prefix {ys : List α} (h : xs <+: ys) (hi : xs[i]? = some a) :
    ys[i]? = some a := by
  obtain ⟨zs, rfl⟩ := h
  rw [List.getElem?_append_left (List.getElem?_eq_some_iff.mp hi).1, hi]

/-- The element at a position is removed, and no other. -/
theorem eraseIdx_filter (hxs : xs.Nodup) (h : (xs.filter p)[i]? = some a) :
    (xs.filter p).eraseIdx i = xs.filter fun x => p x && x ≠ a := by
  obtain ⟨hi, rfl⟩ := List.getElem?_eq_some_iff.mp h
  have hnodup := hxs.filter p
  rw [← hnodup.erase_getElem i hi, hnodup.erase_eq_filter, List.filter_filter]
  exact List.filter_congr fun x _ =>
    (Bool.and_comm _ _).trans (congrArg (p x && ·) decide_not.symm)

/-- The remaining elements that stand before an element. -/
def before (xs : List α) (rows : List α) (a : α) : Nat := rows.countP (· ∈ xs.takeWhile (· ≠ a))

/-- Around an element that was removed, the filter falls into two parts. -/
theorem filter_split (hxs : xs.Nodup) (ha : a ∈ xs) (hp : p a = false) :
    ∃ front back, xs.filter p = front ++ back ∧
      xs.filter (fun x => p x || x = a) = front ++ a :: back ∧
      before xs (xs.filter p) a = front.length := by
  obtain ⟨pre, post, rfl⟩ := List.append_of_mem ha
  obtain ⟨-, hpost, hdisjoint⟩ := List.nodup_append.mp hxs
  have hpre : ∀ x ∈ pre, x ≠ a := fun x hx => hdisjoint x hx a List.mem_cons_self
  have hpost' : ∀ x ∈ post, x ≠ a := fun x hx h => (List.nodup_cons.mp hpost).1 (h ▸ hx)
  have hcongr (ys : List α) (hys : ∀ x ∈ ys, x ≠ a) :
      ys.filter (fun x => p x || x = a) = ys.filter p :=
    List.filter_congr fun x hx => by simp [hys x hx]
  have htake : (pre ++ a :: post).takeWhile (· ≠ a) = pre := by
    rw [List.takeWhile_append_of_pos (by simpa using hpre)]
    simp
  refine ⟨pre.filter p, post.filter p, ?_, ?_, ?_⟩
  · rw [List.filter_append, List.filter_cons_of_neg (by simp [hp])]
  · rw [List.filter_append, List.filter_cons_of_pos (by simp), hcongr pre hpre, hcongr post hpost']
  · rw [before, htake, List.filter_append, List.filter_cons_of_neg (by simp [hp]),
      List.countP_append]
    have hall : (pre.filter p).countP (· ∈ pre) = (pre.filter p).length :=
      List.countP_eq_length.mpr fun x hx => by simpa using List.mem_of_mem_filter hx
    have hnone : (post.filter p).countP (· ∈ pre) = 0 :=
      List.countP_eq_zero.mpr fun x hx => by
        have hx := List.mem_of_mem_filter hx
        simpa using fun hmem => hdisjoint x hmem x (List.mem_cons_of_mem a hx) rfl
    rw [hall, hnone, Nat.add_zero]

omit [DecidableEq α] in
/-- Between two parts an element is put at the length of the first. -/
theorem insertIdx_append (front back : List α) (a : α) :
    (front ++ back).insertIdx front.length a = front ++ a :: back := by
  induction front with
  | nil => rfl
  | cons x front ih => rw [List.cons_append, List.length_cons, List.insertIdx_succ_cons, ih]; rfl

/-- Putting an element back restores the order exactly at the right position. -/
theorem insertIdx_filter_eq_iff (hxs : xs.Nodup) (ha : a ∈ xs) (hp : p a = false)
    (hi : i ≤ (xs.filter p).length) :
    (xs.filter p).insertIdx i a = xs.filter (fun x => p x || x = a) ↔
      i = before xs (xs.filter p) a := by
  obtain ⟨front, back, hfilter, hback, hbefore⟩ := filter_split hxs ha hp
  have hnotMem : a ∉ xs.filter p := by simp [hp]
  have hlength : front.length ≤ (xs.filter p).length := by simp [hfilter]
  rw [hbefore, hback, ← insertIdx_append, ← hfilter]
  constructor
  · exact fun h => List.injOn_insertIdx_index_of_notMem _ _ hnotMem hi hlength h
  · exact fun h => congrArg ((xs.filter p).insertIdx · a) h

end Removal
