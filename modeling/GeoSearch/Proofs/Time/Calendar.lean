import GeoSearch.Time.Date
import Mathlib.Algebra.Order.Ring.Int
import Mathlib.Tactic.IntervalCases
/-!
Days and dates. Every day number has a date of the calendar, and is the number of that date. Years of
a cycle are found by leaving leap days out of the count of days; years and months start in March, so
that a leap day is the last of its year.
-/
namespace GeoSearch.Time

/-! ### Years of a cycle -/

/-- The day of a cycle on which a year of the cycle starts, in March. -/
def yearStart (year : Int) : Int := 365 * year + year / 4 - year / 100

/-- The days of a cycle before this one, its leap days left out. -/
def commonDays (day : Int) : Int := day - day / 1460 + day / 36524 - day / 146096

theorem commonDays_mono {day later : Int} (before : day ≤ later) :
    commonDays day ≤ commonDays later := by
  induction later, before using Int.leInduction with
  | base => exact le_rfl
  | succ later _ ih =>
    refine ih.trans ?_
    unfold commonDays
    omega

/-- Counted in common days, years start and end where years of 365 days do. -/
theorem commonDays_yearStart : ∀ year : Fin 400,
    365 * (year : Int) ≤ commonDays (yearStart year) ∧
      commonDays (yearStart (year + 1) - 1) < 365 * ((year : Int) + 1) := by
  decide +kernel

/-- A day lies in the year that its common days say. -/
theorem day_in_year {day year : Int} (first : 0 ≤ day) (last : day < 146097)
    (found : year = commonDays day / 365) :
    0 ≤ year ∧ year < 400 ∧ yearStart year ≤ day ∧ (year < 399 → day < yearStart (year + 1)) := by
  have inside : 0 ≤ commonDays day ∧ commonDays day < 365 * 400 := by
    unfold commonDays
    omega
  have lower : 0 ≤ year := by omega
  have upper : year < 400 := by omega
  have start (y : Int) (low : 0 ≤ y) (high : y < 400) :
      365 * y ≤ commonDays (yearStart y) ∧ commonDays (yearStart (y + 1) - 1) < 365 * (y + 1) := by
    obtain ⟨n, rfl⟩ := Int.eq_ofNat_of_zero_le low
    exact commonDays_yearStart ⟨n, by omega⟩
  refine ⟨lower, upper, ?_, ?_⟩
  · by_contra early
    have zero : year ≠ 0 := by
      rintro rfl
      exact early first
    have before := commonDays_mono (show day ≤ yearStart (year - 1 + 1) - 1 by
      rw [sub_add_cancel]
      omega)
    have short := (start (year - 1) (by omega) (by omega)).2
    omega
  · intro inner
    by_contra late
    have after := commonDays_mono (not_lt.mp late)
    have long := (start (year + 1) (by omega) (by omega)).1
    omega

/-- The last day of a long year is in a leap year. -/
theorem long_year {year : Int} (cycle : Int)
    (long : yearStart year + 365 < yearStart (year + 1) ∨ year = 399) :
    isLeap (year + cycle * 400 + 1) = true := by
  unfold yearStart at long
  unfold isLeap
  simp only [decide_eq_true_eq]
  omega

/-! ### Months of a year -/

/-- The month and the day of a day of the year, both counted from March. -/
theorem month_of_day : ∀ day : Fin 366,
    let month := (5 * (day : Int) + 2) / 153
    0 ≤ month ∧ month < 12 ∧ (153 * month + 2) / 5 ≤ day ∧
      (day : Int) - (153 * month + 2) / 5 <
        (if month = 11 then 29 else if month = 1 ∨ month = 3 ∨ month = 6 ∨ month = 8 then 30 else 31) ∧
      (month = 11 → (day : Int) - (153 * month + 2) / 5 = 28 → (day : Int) = 365) := by
  decide +kernel

/-! ### Dates of days -/

namespace Date

/-- The days of a date: which cycle of 400 years, which year and month in it, both from March, and
which day of the month. -/
structure Parts (n : Int) (d : Date) (cycle year month day : Int) : Prop where
  number : n = cycle * 146097 + yearStart year + (153 * month + 2) / 5 + day - 719468
  year_nonneg : 0 ≤ year
  year_lt : year < 400
  month_nonneg : 0 ≤ month
  month_lt : month < 12
  day_nonneg : 0 ≤ day
  day_lt : day <
    (if month = 11 then 29 else if month = 1 ∨ month = 3 ∨ month = 6 ∨ month = 8 then 30 else 31)
  leap : month = 11 → day = 28 → isLeap (year + cycle * 400 + 1) = true
  fields : d = if month < 10 then ⟨year + cycle * 400, (month + 3).toNat, (day + 1).toNat⟩
    else ⟨year + cycle * 400 + 1, (month - 9).toNat, (day + 1).toNat⟩

theorem parts_ofDayNumber (n : Int) :
    ∃ cycle year month day, Parts n (ofDayNumber n) cycle year month day := by
  obtain ⟨cycle, cycles⟩ : ∃ cycle, cycle = (n + 719468) / 146097 := ⟨_, rfl⟩
  obtain ⟨dayOfCycle, days⟩ : ∃ day, day = n + 719468 - cycle * 146097 := ⟨_, rfl⟩
  obtain ⟨year, years⟩ : ∃ year, year = commonDays dayOfCycle / 365 := ⟨_, rfl⟩
  obtain ⟨lower, upper, start, stop⟩ := day_in_year (by omega) (by omega) years
  obtain ⟨dayOfYear, number⟩ := Int.eq_ofNat_of_zero_le (sub_nonneg.mpr start)
  have short : dayOfYear < 366 := by
    by_cases inner : year < 399
    · have next := stop inner
      unfold yearStart at next number
      omega
    · obtain rfl : year = 399 := by omega
      have start : yearStart 399 = 145731 := by decide
      omega
  obtain ⟨low, high, begun, ended, leap⟩ := month_of_day ⟨dayOfYear, short⟩
  obtain ⟨month, months⟩ : ∃ month, month = (5 * (dayOfYear : Int) + 2) / 153 := ⟨_, rfl⟩
  rw [← months] at low high begun ended leap
  refine ⟨cycle, year, month, dayOfYear - (153 * month + 2) / 5, ?_, lower, upper, low, high,
    sub_nonneg.mpr begun, ended, ?_, ?_⟩
  · omega
  · intro last leapDay
    have end' := leap last leapDay
    apply long_year
    by_cases inner : year < 399
    · have next := stop inner
      omega
    · omega
  · have cycles' : (n + 719468).fdiv 146097 = cycle := by
      rw [Int.fdiv_eq_ediv_of_nonneg _ (by decide), cycles]
    have common : (dayOfCycle - dayOfCycle / 1460 + dayOfCycle / 36524 - dayOfCycle / 146096) / 365 =
        year := years.symm
    have rest : dayOfCycle - (365 * year + year / 4 - year / 100) = dayOfYear := number
    simp only [ofDayNumber, cycles', ← days, common, rest, ← months]
    by_cases early : month < 10
    · have late : ¬ month + 3 ≤ 2 := by omega
      simp [early, late]
    · have soon : month - 9 ≤ 2 := by omega
      simp [early, soon]

variable {n : Int} {d : Date} {cycle year month day : Int}

/-- The number of a date that has these parts. -/
theorem Parts.dayNumber (parts : Parts n d cycle year month day) : d.dayNumber = n := by
  obtain ⟨number, lower, upper, low, high, first, -, -, rfl⟩ := parts
  have cycles : (year + cycle * 400).fdiv 400 = cycle := by
    rw [Int.fdiv_eq_ediv_of_nonneg _ (by decide)]
    omega
  unfold yearStart at number
  split
  · next early =>
    have march : ¬ (month + 3).toNat ≤ 2 := by omega
    simp only [Date.dayNumber, march, if_false, cycles]
    omega
  · next late =>
    have january : (month - 9).toNat ≤ 2 := by omega
    simp only [Date.dayNumber, january, if_true, add_sub_cancel_right, cycles]
    omega

/-- The day of a date that has these parts is one of its month. -/
theorem Parts.valid (parts : Parts n d cycle year month day) :
    1 ≤ d.month ∧ d.month ≤ 12 ∧ 1 ≤ d.day ∧ d.day ≤ monthLength d.year d.month := by
  obtain ⟨-, -, -, low, high, first, last, leap, rfl⟩ := parts
  split
  · next early =>
    refine ⟨by dsimp only; omega, by dsimp only; omega, by dsimp only; omega, ?_⟩
    interval_cases month <;> simp [monthLength] at last ⊢ <;> omega
  · next late =>
    refine ⟨by dsimp only; omega, by dsimp only; omega, by dsimp only; omega, ?_⟩
    rcases (show month = 10 ∨ month = 11 by omega) with rfl | rfl
    · have inside : day < 31 := last
      have length : monthLength (year + cycle * 400 + 1) ((10 : Int) - 9).toNat = 31 := rfl
      dsimp only
      omega
    · have inside : day < 29 := last
      have length : monthLength (year + cycle * 400 + 1) ((11 : Int) - 9).toNat =
          if isLeap (year + cycle * 400 + 1) then 29 else 28 := rfl
      dsimp only
      rw [length]
      by_cases leapDay : day = 28
      · rw [leap rfl leapDay, leapDay]
        decide
      · split <;> omega

theorem dayNumber_ofDayNumber (n : Int) : (ofDayNumber n).dayNumber = n := by
  obtain ⟨cycle, year, month, day, parts⟩ := parts_ofDayNumber n
  exact parts.dayNumber

theorem ofDayNumber_valid (n : Int) :
    1 ≤ (ofDayNumber n).month ∧ (ofDayNumber n).month ≤ 12 ∧ 1 ≤ (ofDayNumber n).day ∧
      (ofDayNumber n).day ≤ monthLength (ofDayNumber n).year (ofDayNumber n).month := by
  obtain ⟨cycle, year, month, day, parts⟩ := parts_ofDayNumber n
  exact parts.valid

/-- The date of a day is one of the calendar. -/
theorem of?_ofDayNumber (inside : (ofDayNumber n).inRange) :
    of? (ofDayNumber n).year (ofDayNumber n).month (ofDayNumber n).day = some (ofDayNumber n) := by
  simp only [inRange, decide_eq_true_eq] at inside
  exact if_pos ⟨inside.1, inside.2, ofDayNumber_valid n⟩

theorem monthLength_le (year : Int) (month : Nat) : monthLength year month ≤ 31 := by
  unfold monthLength
  split
  · split <;> decide
  · decide
  · decide
  · decide
  · decide
  · decide

end Date

end GeoSearch.Time
