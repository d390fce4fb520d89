import Groute.Planner.Dates

/-!
# Is the number of days the length of the trip?

`calTime` divides the time between the two dates by 86399 seconds, one second less than a
day, and adds one.  The days of the calendar from the first date to the last one,
inclusively, are one more than the difference of their day numbers.

With `n` calendar days between the two dates the quotient has drifted by `n` seconds: it
is right exactly if the last date is at most `n` seconds earlier in the day than the
first one, and less than `86399 - n` seconds later.
-/

namespace Groute

namespace DatePlanner

variable {s : DatePlanner} {first last : Date} {offset : ℚ}

/-- The number of the calendar day of an instant, in a time zone with a fixed offset from
the reference time, in seconds. -/
def dayIndex (offset : ℚ) (t : Date) : Int := ⌊(t + offset) / 86400⌋

/-- The seconds since midnight. -/
def timeOfDay (offset : ℚ) (t : Date) : ℚ := t + offset - dayIndex offset t * 86400

/-- How many calendar days lie between two dates. -/
def daysBetween (offset : ℚ) (first last : Date) : Int :=
  dayIndex offset last - dayIndex offset first

/-- The times of day are close enough for the drift over the days between. -/
structure InStep (offset : ℚ) (first last : Date) : Prop where
  earlier : timeOfDay offset first - timeOfDay offset last ≤ daysBetween offset first last
  later : timeOfDay offset last - timeOfDay offset first <
    86399 - daysBetween offset first last

/-- The time between two dates. -/
theorem sub_eq (offset : ℚ) (first last : Date) : last - first =
    daysBetween offset first last * 86400 +
      (timeOfDay offset last - timeOfDay offset first) := by
  rw [timeOfDay, timeOfDay, daysBetween]
  push_cast
  ring

/-- Towards zero is downwards above zero. -/
theorem truncate_of_nonneg {x : ℚ} (h : 0 ≤ x) : truncate x = ⌊x⌋ := if_pos h

/-- The number of days is right exactly if the dates are in step. -/
theorem dayCount_eq_iff (h : first ≤ last) :
    dayCount first last = daysBetween offset first last + 1 ↔ InStep offset first last := by
  have hnonneg : 0 ≤ (last - first) / 86399 := div_nonneg (sub_nonneg.mpr h) (by norm_num)
  rw [dayCount, truncate_of_nonneg hnonneg, add_left_inj, Int.floor_eq_iff,
    le_div_iff₀ (by norm_num), div_lt_iff₀ (by norm_num), sub_eq offset first last]
  constructor
  · rintro ⟨hlow, hhigh⟩
    constructor <;> linarith
  · rintro ⟨hearlier, hlater⟩
    constructor <;> linarith

/-- **The length of the trip.**  When the dates in the user defaults are in order, a tap on
the confirm bar stores the number of calendar days from the first to the last one,
inclusively, exactly if their times of day are in step. -/
theorem calTime_days_iff (hfirst : s.defaults.firstDate = some first)
    (hlast : s.defaults.lastDate = some last) (h : first ≤ last) (offset : ℚ) :
    s.calTime.defaults.days = some (dayIndex offset last - dayIndex offset first + 1) ↔
      InStep offset first last := by
  rw [calTime_of_some hfirst hlast, ← dayCount_eq_iff h]
  exact Option.some_inj

/-- A planner with both dates chosen. -/
def chosen (first last : Date) : DatePlanner :=
  loaded { firstDate := some first, lastDate := some last }

/-- From noon of one day to noon of the third day after it. -/
theorem days_noon :
    (chosen 43200 302400).calTime.defaults.days = some (dayIndex 0 302400 - dayIndex 0 43200 + 1) :=
  (calTime_days_iff rfl rfl (by norm_num) 0).mpr ⟨by decide +kernel, by decide +kernel⟩

/-- From an hour before midnight to an hour after it. -/
theorem exists_other_length : ¬∀ {s : DatePlanner} {first last : Date},
    s.defaults.firstDate = some first → s.defaults.lastDate = some last → first ≤ last →
      ∀ offset, s.calTime.defaults.days =
        some (dayIndex offset last - dayIndex offset first + 1) := by
  intro hall
  have hdays := hall (s := chosen 82800 90000) rfl rfl (by norm_num) 0
  exact absurd hdays (by decide +kernel)

end DatePlanner

end Groute
