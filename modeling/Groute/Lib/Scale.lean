import Mathlib.Algebra.Order.Floor.Ring
import Mathlib.Tactic.Linarith

/-!
# Rounding down on a scale of units

An amount is often told as a whole number of the longest unit that fits into it: so many
hours, or so many kilometres.  A `Scale` is a list of units with their lengths, the
longest one first; `unitOf` picks the unit, `count` the number, and `round` is the amount
that is told.

* The number is at least one, and the next one is too many (`one_le_count`,
  `lt_count_add_one_mul`).
* A longer unit would not have fitted (`lt_length_of_unitOf`).
* Rounding is monotone (`round_mono`), although the unit changes on the way: where a
  longer unit starts to fit, it is longer than everything told before.
-/

universe u v

/-- Units of different lengths, the longest first. -/
structure Scale (ι : Type u) (K : Type v) [Zero K] [LT K] where
  /-- The units. -/
  units : List ι
  /-- The length of a unit. -/
  length : ι → K
  /-- No unit is empty. -/
  length_pos : ∀ i, 0 < length i
  /-- Each unit is shorter than those before it. -/
  decreasing : units.Pairwise fun i j => length j < length i

namespace Scale

variable {ι : Type u} {K : Type v} [Field K] [LinearOrder K]
variable {s : Scale ι K} {i j : ι} {t t' : K}

/-- The longest unit that fits, if any does. -/
def unitOf (s : Scale ι K) (t : K) : Option ι := s.units.find? fun i => decide (s.length i ≤ t)

/-- A unit that has been picked fits. -/
theorem length_le_of_unitOf (h : s.unitOf t = some i) : s.length i ≤ t := by
  have hfits := List.find?_some h
  exact of_decide_eq_true hfits

/-- No unit is picked if none fits. -/
theorem unitOf_eq_none_iff : s.unitOf t = none ↔ ∀ i ∈ s.units, t < s.length i := by
  rw [unitOf, List.find?_eq_none]
  simp only [decide_eq_true_eq, not_le]

/-- A longer unit does not fit. -/
theorem lt_length_of_unitOf (h : s.unitOf t = some i) (hj : j ∈ s.units)
    (hij : s.length i < s.length j) : t < s.length j := by
  obtain ⟨-, before, after, heq, hbefore⟩ := List.find?_eq_some_iff_append.mp h
  have hdecreasing := s.decreasing
  rw [heq, List.pairwise_append, List.pairwise_cons] at hdecreasing
  obtain ⟨-, ⟨hafter, -⟩, -⟩ := hdecreasing
  rw [heq, List.mem_append, List.mem_cons] at hj
  rcases hj with hj | rfl | hj
  · simpa using hbefore j hj
  · exact absurd hij (lt_irrefl _)
  · exact absurd hij (hafter j hj).not_gt

/-- A unit that fits is not longer than the one that is picked. -/
theorem exists_unitOf_of_le (hi : i ∈ s.units) (h : s.length i ≤ t) :
    ∃ j, s.unitOf t = some j ∧ s.length i ≤ s.length j := by
  rcases hunit : s.unitOf t with - | j
  · exact absurd h (unitOf_eq_none_iff.mp hunit i hi).not_ge
  · refine ⟨j, rfl, ?_⟩
    by_contra hlt
    exact absurd h (lt_length_of_unitOf hunit hi (not_le.mp hlt)).not_ge

/-- A unit that fits is picked if the longer ones do not. -/
theorem unitOf_eq_some (hi : i ∈ s.units) (h : s.length i ≤ t)
    (hlonger : ∀ j ∈ s.units, s.length i < s.length j → t < s.length j)
    (hinj : ∀ j ∈ s.units, s.length j = s.length i → j = i) : s.unitOf t = some i := by
  obtain ⟨j, hj, hij⟩ := exists_unitOf_of_le hi h
  have hmem := List.mem_of_find?_eq_some hj
  rcases hij.lt_or_eq with hlt | heq
  · exact absurd (length_le_of_unitOf hj) (hlonger j hmem hlt).not_ge
  · rw [hj, hinj j hmem heq.symm]

/-! ## Counting the unit -/

section Count

variable [FloorRing K]

/-- How often a unit fits. -/
def count (s : Scale ι K) (i : ι) (t : K) : ℤ := ⌊t / s.length i⌋

/-- The amount that is told. -/
def round (s : Scale ι K) (t : K) : K :=
  match s.unitOf t with
  | none => 0
  | some i => s.count i t * s.length i

variable [IsStrictOrderedRing K]

/-- So many units fit. -/
theorem count_mul_le (s : Scale ι K) (i : ι) (t : K) : s.count i t * s.length i ≤ t :=
  sub_nonneg.mp (Int.sub_floor_div_mul_nonneg t (s.length_pos i))

/-- One more does not. -/
theorem lt_count_add_one_mul (s : Scale ι K) (i : ι) (t : K) :
    t < (s.count i t + 1) * s.length i := by
  have hrest : t - s.count i t * s.length i < s.length i :=
    Int.sub_floor_div_mul_lt t (s.length_pos i)
  rw [add_one_mul]
  linarith

/-- These two bounds leave one number only. -/
theorem count_eq {n : ℤ} (hle : n * s.length i ≤ t) (hlt : t < (n + 1) * s.length i) :
    s.count i t = n := by
  rw [count, Int.floor_eq_iff, le_div_iff₀ (s.length_pos i), div_lt_iff₀ (s.length_pos i)]
  exact ⟨hle, hlt⟩

/-- A unit that fits does so at least once. -/
theorem one_le_count (h : s.length i ≤ t) : 1 ≤ s.count i t := by
  rw [count, Int.le_floor, Int.cast_one]
  exact (one_le_div (s.length_pos i)).mpr h

/-- What is told of a unit that fits is not shorter than the unit. -/
theorem length_le_count_mul (h : s.length i ≤ t) : s.length i ≤ s.count i t * s.length i := by
  have hone : (1 : K) ≤ s.count i t := by exact_mod_cast one_le_count h
  exact le_mul_of_one_le_left (s.length_pos i).le hone

/-- Of one unit, more fit into more. -/
theorem count_mul_mono (i : ι) (h : t ≤ t') :
    s.count i t * s.length i ≤ s.count i t' * s.length i := by
  have hcount : s.count i t ≤ s.count i t' :=
    Int.floor_mono (div_le_div_of_nonneg_right h (s.length_pos i).le)
  exact mul_le_mul_of_nonneg_right (by exact_mod_cast hcount) (s.length_pos i).le

/-- What is told is not negative. -/
theorem round_nonneg (s : Scale ι K) (t : K) : 0 ≤ s.round t := by
  rcases hunit : s.unitOf t with - | i
  · simp only [round, hunit, le_refl]
  · have hle := length_le_count_mul (length_le_of_unitOf hunit)
    simp only [round, hunit]
    exact (s.length_pos i).le.trans hle

/-- Of more, not less is told. -/
theorem round_mono (s : Scale ι K) : Monotone s.round := by
  intro t t' h
  rcases hunit : s.unitOf t with - | i
  · calc s.round t = 0 := by simp only [round, hunit]
      _ ≤ s.round t' := s.round_nonneg t'
  · have hmem := List.mem_of_find?_eq_some hunit
    obtain ⟨j, hunit', hij⟩ := exists_unitOf_of_le hmem ((length_le_of_unitOf hunit).trans h)
    simp only [round, hunit, hunit']
    rcases hij.lt_or_eq with hlt | heq
    · -- the longer unit does not fit into `t`, so all that is told of `t` is shorter
      calc s.count i t * s.length i ≤ t := s.count_mul_le i t
        _ ≤ s.length j :=
            (lt_length_of_unitOf hunit (List.mem_of_find?_eq_some hunit') hlt).le
        _ ≤ s.count j t' * s.length j := length_le_count_mul (length_le_of_unitOf hunit')
    · have hcount : s.count i t = s.count j t := by rw [count, count, heq]
      rw [hcount, heq]
      exact count_mul_mono j h

end Count

end Scale
