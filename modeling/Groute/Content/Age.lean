import Mathlib
import Groute.Content.RouteScreen
import Groute.Lib.Scale

/-!
# How old is a review?

Both screens of a trip label a review with its age, each with a copy of `calTime` of its
own: seven ranges of the time passed, one after the other, and in five of them a number of
units.  An `Age` is what a label means; the units are those of a `Scale`, and inside the
ranges the label is that of the time rounded down on it.

The ranges begin after zero and end with the twelfth month.  At zero and from the year on
the text of the last branch is shown, which is no age.
-/

namespace Groute

/-- The units in which an age is told. -/
inductive AgeUnit where
  | minute
  | hour
  | day
  | week
  | month
deriving DecidableEq

namespace AgeUnit

/-- The length of a unit, in seconds; a month has four weeks. -/
def seconds : AgeUnit → ℚ
  | minute => 60
  | hour => 3600
  | day => 86400
  | week => 604800
  | month => 2419200

/-- The seconds of a year of twelve months. -/
def year : ℚ := 29030400

/-- The length of the next larger unit. -/
def next : AgeUnit → ℚ
  | minute => hour.seconds
  | hour => day.seconds
  | day => week.seconds
  | week => month.seconds
  | month => year

/-- What follows the number. -/
def suffix : AgeUnit → String
  | minute => "분전"
  | hour => "시간전"
  | day => "일전"
  | week => "주전"
  | month => "달전"

/-- The scale of the units. -/
def scale : Scale AgeUnit ℚ where
  units := [month, week, day, hour, minute]
  length := seconds
  length_pos i := by cases i <;> norm_num [seconds]
  decreasing := by norm_num [seconds]

end AgeUnit

/-- What a label means. -/
inductive Age where
  | justNow
  | ago (n : ℤ) (unit : AgeUnit)
deriving DecidableEq

namespace Age

/-- The label of an age. -/
def label : Age → String
  | justNow => "방금전"
  | ago n unit => toString n ++ unit.suffix

/-- The least time passed that an age tells of. -/
def seconds : Age → ℚ
  | justNow => 0
  | ago n unit => n * unit.seconds

/-- An age is that of a time: it is just now in the first minute, and otherwise the number
of whole units, at least one and less than the next larger unit. -/
def Of (time : ℚ) : Age → Prop
  | justNow => time < 60
  | ago n unit => 60 ≤ time ∧ 1 ≤ n ∧ n * unit.seconds ≤ time ∧
      time < (n + 1) * unit.seconds ∧ n * unit.seconds < unit.next

/-- The age of a time, on the scale. -/
def ofTime (time : ℚ) : Age :=
  match AgeUnit.scale.unitOf time with
  | none => justNow
  | some unit => ago (AgeUnit.scale.count unit time) unit

end Age

/-- The text of the last branch of `calTime`. -/
def unknownAge : String := "몰라 ㅅㅂ"

variable {time time₁ time₂ : ℚ}

/-! ## Reading a label -/

/-- The last two characters of a text. -/
def lastTwo (label : String) : List Char := label.toList.reverse.take 2

theorem lastTwo_append (number : String) (unit : AgeUnit) :
    lastTwo (number ++ unit.suffix) = lastTwo unit.suffix := by
  cases unit <;> simp [lastTwo, AgeUnit.suffix]

/-- The units have different endings. -/
theorem lastTwo_suffix_injective :
    Function.Injective fun unit : AgeUnit => lastTwo unit.suffix := by
  intro unit unit' h
  cases unit <;> cases unit' <;> first | rfl | simp [lastTwo, AgeUnit.suffix] at h

/-- A label means one age only. -/
theorem Age.label_injective : Function.Injective Age.label := by
  have hjust : ∀ n unit, Age.justNow.label ≠ (Age.ago n unit).label := by
    intro n unit h
    have hlast := congrArg lastTwo h
    simp only [Age.label, lastTwo_append] at hlast
    cases unit <;> simp [lastTwo, AgeUnit.suffix] at hlast
  intro age age' h
  cases age with
  | justNow =>
      cases age' with
      | justNow => rfl
      | ago n' unit' => exact absurd h (hjust n' unit')
  | ago n unit =>
      cases age' with
      | justNow => exact absurd h.symm (hjust n unit)
      | ago n' unit' =>
          have hlast := congrArg lastTwo h
          simp only [Age.label, lastTwo_append] at hlast
          obtain rfl := lastTwo_suffix_injective hlast
          have hnumber : toString n = toString n' := (String.append_left_inj _).mp h
          rw [Int.repr_inj.mp hnumber]

/-- The last text is not the label of an age. -/
theorem Age.label_ne_unknownAge (age : Age) : age.label ≠ unknownAge := by
  intro h
  have hlast := congrArg lastTwo h
  cases age with
  | justNow => simp [Age.label, lastTwo, unknownAge] at hlast
  | ago n unit =>
      simp only [Age.label, lastTwo_append] at hlast
      cases unit <;> simp [lastTwo, AgeUnit.suffix, unknownAge] at hlast

/-! ## The units as a scale -/

namespace AgeUnit

variable {unit unit' : AgeUnit}

theorem mem_units (unit : AgeUnit) : unit ∈ scale.units := by
  cases unit <;> simp [scale]

theorem minute_le (unit : AgeUnit) : 60 ≤ unit.seconds := by
  cases unit <;> norm_num [seconds]

theorem seconds_injective : Function.Injective seconds := by
  intro unit unit' h
  cases unit <;> cases unit' <;> first | rfl | norm_num [seconds] at h

/-- There is no unit between one and the next larger one. -/
theorem next_le_of_lt (h : unit.seconds < unit'.seconds) : unit.next ≤ unit'.seconds := by
  revert h
  cases unit <;> cases unit' <;> norm_num [seconds, next]

/-- A unit is picked from its own length up to that of the next larger one. -/
theorem unitOf_eq_some (hlow : unit.seconds ≤ time) (hhigh : time < unit.next) :
    scale.unitOf time = some unit :=
  Scale.unitOf_eq_some (mem_units unit) hlow
    (fun _ _ hlonger => hhigh.trans_le (next_le_of_lt hlonger))
    (fun _ _ heq => seconds_injective heq)

/-- The next larger unit is so many units. -/
theorem exists_next_eq (unit : AgeUnit) : ∃ k : ℤ, unit.next = k * unit.seconds := by
  cases unit with
  | minute => exact ⟨60, by norm_num [next, seconds]⟩
  | hour => exact ⟨24, by norm_num [next, seconds]⟩
  | day => exact ⟨7, by norm_num [next, seconds]⟩
  | week => exact ⟨4, by norm_num [next, seconds]⟩
  | month => exact ⟨12, by norm_num [next, seconds, year]⟩

/-- So a number of units that is less is so by a unit at least. -/
theorem add_one_mul_le_next {n : ℤ} (h : n * unit.seconds < unit.next) :
    (n + 1) * unit.seconds ≤ unit.next := by
  have hpos : 0 < unit.seconds := scale.length_pos unit
  obtain ⟨k, hk⟩ := exists_next_eq unit
  rw [hk] at h ⊢
  have hlt : n < k := by exact_mod_cast lt_of_mul_lt_mul_right h hpos.le
  exact mul_le_mul_of_nonneg_right (by exact_mod_cast hlt) hpos.le

/-- Within a year, the next larger unit does not fit. -/
theorem lt_next (h : scale.unitOf time = some unit) (hyear : time < year) : time < unit.next := by
  have hlonger : ∀ unit' : AgeUnit, unit.seconds < unit'.seconds → time < unit'.seconds :=
    fun unit' hlt => Scale.lt_length_of_unitOf h (mem_units unit') hlt
  cases unit with
  | minute => exact hlonger hour (by norm_num [seconds])
  | hour => exact hlonger day (by norm_num [seconds])
  | day => exact hlonger week (by norm_num [seconds])
  | week => exact hlonger month (by norm_num [seconds])
  | month => exact hyear

end AgeUnit

open AgeUnit

namespace Age

/-- An age tells the time rounded down on the scale. -/
theorem seconds_ofTime (time : ℚ) : (ofTime time).seconds = scale.round time := by
  rw [ofTime, Scale.round]
  cases scale.unitOf time <;> rfl

/-- Within a year, the age on the scale is that of the time. -/
theorem ofTime_of (hyear : time < year) : (ofTime time).Of time := by
  rw [ofTime]
  rcases hunit : scale.unitOf time with - | unit
  · exact Scale.unitOf_eq_none_iff.mp hunit minute (mem_units minute)
  · have hfits : unit.seconds ≤ time := Scale.length_le_of_unitOf hunit
    have hcount := Scale.count_mul_le scale unit time
    exact ⟨(minute_le unit).trans hfits, Scale.one_le_count hfits, hcount,
      Scale.lt_count_add_one_mul scale unit time, hcount.trans_lt (lt_next hunit hyear)⟩

/-- No other age is that of the time. -/
theorem Of.eq_ofTime {age : Age} (h : age.Of time) : age = ofTime time := by
  cases age with
  | justNow =>
      have hnone : scale.unitOf time = none :=
        Scale.unitOf_eq_none_iff.mpr fun unit _ => h.trans_le (minute_le unit)
      rw [ofTime, hnone]
  | ago n unit =>
      obtain ⟨-, hone, hle, hlt, hnext⟩ := h
      have hfits : unit.seconds ≤ time := by
        have hcast : (1 : ℚ) ≤ n := by exact_mod_cast hone
        exact (le_mul_of_one_le_left (scale.length_pos unit).le hcast).trans hle
      have hunit := unitOf_eq_some hfits (hlt.trans_le (add_one_mul_le_next hnext))
      have hcount : scale.count unit time = n := Scale.count_eq hle hlt
      rw [ofTime, hunit]
      exact congrArg (ago · unit) hcount.symm

/-- Within a year, a time has just the age on the scale. -/
theorem of_iff {age : Age} (hyear : time < year) : age.Of time ↔ age = ofTime time := by
  constructor
  · exact Of.eq_ofTime
  · rintro rfl
    exact ofTime_of hyear

end Age

/-! ## The ranges -/

namespace ContentViewController

/-- The first range. -/
theorem calTime_justNow (hpos : 0 < time) (h : time < 60) :
    calTime time = Age.justNow.label := if_pos ⟨hpos, h⟩

/-- The range of a unit. -/
theorem calTime_unit {unit : AgeUnit} (hlow : unit.seconds ≤ time) (hhigh : time < unit.next) :
    calTime time = (Age.ago (scale.count unit time) unit).label := by
  have hfrom : ∀ {low high : ℚ}, high ≤ unit.seconds → ¬(low ≤ time ∧ time < high) :=
    fun hle h => absurd (hle.trans hlow) h.2.not_ge
  have hjust : ¬(0 < time ∧ time < 60) :=
    fun h => absurd ((minute_le unit).trans hlow) h.2.not_ge
  rw [calTime, if_neg hjust]
  cases unit with
  | minute => exact if_pos ⟨hlow, hhigh⟩
  | hour =>
      rw [if_neg (hfrom (by norm_num [seconds]))]
      exact if_pos ⟨hlow, hhigh⟩
  | day =>
      rw [if_neg (hfrom (by norm_num [seconds])), if_neg (hfrom (by norm_num [seconds]))]
      exact if_pos ⟨hlow, hhigh⟩
  | week =>
      rw [if_neg (hfrom (by norm_num [seconds])), if_neg (hfrom (by norm_num [seconds])),
        if_neg (hfrom (by norm_num [seconds]))]
      exact if_pos ⟨hlow, hhigh⟩
  | month =>
      rw [if_neg (hfrom (by norm_num [seconds])), if_neg (hfrom (by norm_num [seconds])),
        if_neg (hfrom (by norm_num [seconds])), if_neg (hfrom (by norm_num [seconds]))]
      exact if_pos ⟨hlow, hhigh⟩

/-- Between zero and a year, the label is that of the age. -/
theorem calTime_eq_label (hpos : 0 < time) (hyear : time < year) :
    calTime time = (Age.ofTime time).label := by
  rw [Age.ofTime]
  rcases hunit : scale.unitOf time with - | unit
  · exact calTime_justNow hpos (Scale.unitOf_eq_none_iff.mp hunit minute (mem_units minute))
  · exact calTime_unit (Scale.length_le_of_unitOf hunit) (lt_next hunit hyear)

/-- Elsewhere it is the last text. -/
theorem calTime_outside (h : time ≤ 0 ∨ year ≤ time) : calTime time = unknownAge := by
  have houtside : ∀ {low high : ℚ}, 0 < low → high ≤ year → ¬(low ≤ time ∧ time < high) := by
    rintro low high hlow hhigh ⟨hge, hlt⟩
    rcases h with h | h
    · exact absurd (hlow.trans_le hge) h.not_gt
    · exact absurd (hhigh.trans h) hlt.not_ge
  have hjust : ¬(0 < time ∧ time < 60) := by
    rintro ⟨hpos, hlt⟩
    rcases h with h | h
    · exact absurd hpos h.not_gt
    · exact absurd ((by norm_num [year] : (60 : ℚ) ≤ year).trans h) hlt.not_ge
  rw [calTime, if_neg hjust, if_neg, if_neg, if_neg, if_neg, if_neg, unknownAge]
  all_goals exact houtside (by norm_num) (by norm_num [year])

end ContentViewController

/-- The two copies agree. -/
theorem ContentRouteViewController.calTime_eq (time : ℚ) :
    ContentRouteViewController.calTime time = ContentViewController.calTime time := rfl

/-! ## Sound ages -/

/-- Both screens label a time alike, and with the age that it has. -/
structure Labelled (time : ℚ) : Prop where
  same : ContentViewController.calTime time = ContentRouteViewController.calTime time
  proper : ContentViewController.calTime time ≠ unknownAge
  age : ∃ age : Age, age.label = ContentViewController.calTime time ∧ age.Of time

/-- Two times are labelled with their ages, and the second age is not less than the
first. -/
structure SoundAges (time₁ time₂ : ℚ) : Prop where
  first : Labelled time₁
  second : Labelled time₂
  mono : ∀ age₁ age₂ : Age, age₁.label = ContentViewController.calTime time₁ →
    age₂.label = ContentViewController.calTime time₂ → age₁.seconds ≤ age₂.seconds

/-- What the label of a time within the ranges means. -/
theorem eq_ofTime_of_label {age : Age} (hpos : 0 < time) (hyear : time < year)
    (h : age.label = ContentViewController.calTime time) : age = Age.ofTime time :=
  Age.label_injective (h.trans (ContentViewController.calTime_eq_label hpos hyear))

/-- A time is labelled with its age exactly within the ranges. -/
theorem labelled_iff : Labelled time ↔ 0 < time ∧ time < year := by
  constructor
  · intro h
    by_contra hout
    rw [not_and_or, not_lt, not_lt] at hout
    exact h.proper (ContentViewController.calTime_outside hout)
  · rintro ⟨hpos, hyear⟩
    have hlabel := ContentViewController.calTime_eq_label hpos hyear
    constructor
    · exact (ContentRouteViewController.calTime_eq time).symm
    · rw [hlabel]
      exact (Age.ofTime time).label_ne_unknownAge
    · exact ⟨Age.ofTime time, hlabel.symm, Age.ofTime_of hyear⟩

/-- **The ages of reviews.**  For two times passed, one not less than the other, both
screens show the same labels, these are the ages of the times, and the age does not
decrease, exactly if the first time is not zero and the second one is less than a year. -/
theorem soundAges_iff (hle : time₁ ≤ time₂) :
    SoundAges time₁ time₂ ↔ 0 < time₁ ∧ time₂ < year := by
  constructor
  · intro h
    exact ⟨(labelled_iff.mp h.first).1, (labelled_iff.mp h.second).2⟩
  · rintro ⟨hpos, hyear⟩
    have hpos₂ : 0 < time₂ := hpos.trans_le hle
    have hyear₁ : time₁ < year := hle.trans_lt hyear
    refine ⟨labelled_iff.mpr ⟨hpos, hyear₁⟩, labelled_iff.mpr ⟨hpos₂, hyear⟩, ?_⟩
    intro age₁ age₂ hage₁ hage₂
    obtain rfl := eq_ofTime_of_label hpos hyear₁ hage₁
    obtain rfl := eq_ofTime_of_label hpos₂ hyear hage₂
    calc (Age.ofTime time₁).seconds = scale.round time₁ := Age.seconds_ofTime time₁
      _ ≤ scale.round time₂ := scale.round_mono hle
      _ = (Age.ofTime time₂).seconds := (Age.seconds_ofTime time₂).symm

/-- Half a minute, and a day and a half. -/
theorem soundAges_dayAndHalf : SoundAges 30 129600 :=
  (soundAges_iff (by norm_num)).mpr ⟨by norm_num, by norm_num [year]⟩

/-- A year. -/
theorem exists_not_soundAges :
    ¬∀ time₁ time₂ : ℚ, 0 ≤ time₁ → time₁ ≤ time₂ → SoundAges time₁ time₂ := by
  intro hall
  have hproper := (hall 29030400 29030400 (by norm_num) le_rfl).first.proper
  exact hproper (ContentViewController.calTime_outside (.inr le_rfl))

/-! ## The list of reviews -/

namespace ContentRouteViewController

variable {vc vc' : ContentRouteViewController} {document : DocId × Document}
variable {documents : List (DocId × Document)} {sorter : Sorter Comment} {now : DocId → Date}
variable {clock : Date} {review : Comment}

/-- A review that the first screen reads is read alike by the second one. -/
theorem getReview_of_getReview (h : ContentViewController.getReview clock document = some review) :
    getReview clock document = some review := by
  obtain ⟨timestamp, htimestamp, h⟩ := Option.bind_eq_some_iff.mp h
  obtain ⟨email, hemail, h⟩ := Option.bind_eq_some_iff.mp h
  obtain ⟨content, hcontent, rfl⟩ := Option.map_eq_some_iff.mp h
  rw [getReview, htimestamp, hemail, hcontent]
  rfl

/-- The label of a review is that of the time since its timestamp. -/
theorem calcTime_of_getReview (h : getReview clock document = some review) :
    review.calcTime = ContentViewController.calTime (clock - review.timestamp) := by
  obtain ⟨timestamp, -, rfl⟩ := Option.map_eq_some_iff.mp h
  rfl

/-- The list of reviews is sorted from what the documents hold. -/
theorem getReviewDone_mapM (sorter : Sorter Comment) (now : DocId → Date)
    (vc : ContentRouteViewController) (documents : List (DocId × Document)) :
    vc.getReviewDone sorter now documents =
      (documents.mapM fun document => getReview (now document.1) document).map fun reviews =>
        { vc with
          review := sorter.sort newer reviews
          reviewCount := "(" ++ toString (sorter.sort newer reviews).length ++ ")" } := by
  have hfold := TableView.foldlM_concat review (fun vc review => { vc with review })
    (fun _ _ => rfl) (fun _ _ _ => rfl) (fun _ => rfl)
    (fun document => getReview (now document.1) document) documents { vc with review := [] }
  rw [getReviewDone, hfold, Option.map_map]
  rfl

/-- The reviews are listed from the newest to the oldest. -/
theorem pairwise_review (h : vc.getReviewDone sorter now documents = some vc') :
    vc'.review.Pairwise fun review review' => review'.timestamp ≤ review.timestamp := by
  rw [getReviewDone_mapM] at h
  obtain ⟨reviews, -, rfl⟩ := Option.map_eq_some_iff.mp h
  have hweak : StrictWeakOn newer reviews := .of_key Comment.timestamp fun _ _ _ _ => rfl
  exact (sorter.pairwise_sort hweak).imp fun hnewer => not_lt.mp (of_decide_eq_false hnewer)

/-- Every review of the list has been read from a document. -/
theorem exists_getReview (h : vc.getReviewDone sorter now documents = some vc')
    (hmem : review ∈ vc'.review) :
    ∃ document ∈ documents, getReview (now document.1) document = some review := by
  rw [getReviewDone_mapM] at h
  obtain ⟨reviews, hreviews, rfl⟩ := Option.map_eq_some_iff.mp h
  rw [Sorter.mem_sort, ← TableView.filterMap_of_mapM hreviews] at hmem
  exact List.mem_filterMap.mp hmem

/-- If the clock does not move while they are read, reviews written within the last year
have their ages on their labels, and the ages do not decrease down the list. -/
theorem ages_of_getReviewDone (h : vc.getReviewDone sorter (fun _ => clock) documents = some vc')
    (hrecent : ∀ review ∈ vc'.review,
      review.timestamp < clock ∧ clock < review.timestamp + year) :
    ∃ ages : List Age, vc'.review.map Comment.calcTime = ages.map Age.label ∧
      ages.Pairwise fun age age' => age.seconds ≤ age'.seconds := by
  refine ⟨vc'.review.map fun review => .ofTime (clock - review.timestamp), ?_, ?_⟩
  · rw [List.map_map]
    refine List.map_congr_left fun review hmem => ?_
    obtain ⟨document, -, hread⟩ := exists_getReview h hmem
    obtain ⟨hpast, hrecent⟩ := hrecent review hmem
    rw [calcTime_of_getReview hread, Function.comp_apply]
    exact ContentViewController.calTime_eq_label (by linarith) (by linarith)
  · rw [List.pairwise_map]
    refine (pairwise_review h).imp fun hnewer => ?_
    rw [Age.seconds_ofTime, Age.seconds_ofTime]
    exact scale.round_mono (sub_le_sub_left hnewer clock)

end ContentRouteViewController

end Groute
