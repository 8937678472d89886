import DataGateway.Calendar.Date
import Mathlib.Tactic.ByContra

/-!
# Dates and counts of days

A count of days becomes a date that exists, and the date gives the count back.

* `yearOf_between` — the year in an era of 400 years is found by the days before it;
* `toDays_ofDays` — a count of days is read back from its date;
* `isValid_ofDays` — within the years 1 to 9999 the date exists.
-/

namespace DataGateway.Calendar.Date

/-! ## Years of an era -/

/-- The days of an era before a year of it, the era and its years beginning in March. -/
def yearStart (year : Int) : Int := 365 * year + year / 4 - year / 100 + year / 400

/-- The year of a day of an era. -/
def yearOf (day : Int) : Int := (day - day / 1460 + day / 36524 - day / 146096) / 365

theorem yearOf_mono {a b : Int} (h : a ≤ b) : yearOf a ≤ yearOf b := by
  -- the corrections are taken in two pairs, each of which grows with the day
  have days : a - a / 1460 ≤ b - b / 1460 := by omega
  have centuries : a / 36524 - a / 146096 ≤ b / 36524 - b / 146096 := by
    have split (d : Int) : d / 146096 = d / 36524 / 4 := by omega
    have ordered : a / 36524 ≤ b / 36524 := by omega
    rw [split a, split b]
    omega
  unfold yearOf
  omega

/-- The first and the last day of every year are in it. -/
theorem yearOf_ends : ∀ year < 400,
    yearOf (yearStart (year : Nat)) = year ∧
      yearOf (yearStart (year + 1 : Nat) - 1) = year := by
  decide +kernel

theorem yearOf_between {day : Int} (lower : 0 ≤ day) (upper : day < 146097) :
    0 ≤ yearOf day ∧ yearOf day < 400 ∧ yearStart (yearOf day) ≤ day ∧
      day < yearStart (yearOf day + 1) := by
  have positive : 0 ≤ yearOf day := by
    unfold yearOf
    omega
  have bounded : yearOf day < 400 := by
    unfold yearOf
    omega
  -- years grow with the days, and are right at both ends of every year, so they are right between
  rcases Int.eq_ofNat_of_zero_le positive with ⟨year, same⟩
  rw [same] at bounded ⊢
  refine ⟨by omega, by omega, ?_, ?_⟩
  · by_contra early
    cases year with
    | zero => exact early lower
    | succ year =>
        have before : day ≤ yearStart (year + 1 : Nat) - 1 := by omega
        have last := (yearOf_ends year (by omega)).2
        have order := yearOf_mono before
        omega
  · by_contra late
    by_cases final : year + 1 < 400
    · have behind : yearStart (year + 1 : Nat) ≤ day := Int.not_lt.1 late
      have first := (yearOf_ends (year + 1) final).1
      have order := yearOf_mono behind
      omega
    · have ending : year = 399 := by omega
      subst ending
      simp [yearStart] at late
      omega

/-! ## Days of a year -/

/-- The day of the year, the year beginning in March. -/
def dayOfYear (day : Int) : Int := day - yearStart (yearOf day)

theorem isLeap_iff {year : Int} :
    isLeap year = true ↔ year % 4 = 0 ∧ (year % 100 ≠ 0 ∨ year % 400 = 0) := by
  simp [isLeap]

theorem yearStart_succ (year : Int) :
    yearStart (year + 1) = yearStart year + if isLeap (year + 1) then 366 else 365 := by
  have fours : (year + 1) / 4 = year / 4 + if (year + 1) % 4 = 0 then 1 else 0 := by
    split <;> omega
  have hundreds : (year + 1) / 100 = year / 100 + if (year + 1) % 100 = 0 then 1 else 0 := by
    split <;> omega
  have eras : (year + 1) / 400 = year / 400 + if (year + 1) % 400 = 0 then 1 else 0 := by
    split <;> omega
  simp only [yearStart, isLeap_iff, fours, hundreds, eras]
  split <;> split <;> split <;> split <;> omega

/-- The last day of a long year is the leap day. -/
theorem dayOfYear_bounds {day : Int} (lower : 0 ≤ day) (upper : day < 146097) :
    0 ≤ dayOfYear day ∧ dayOfYear day ≤ 365 ∧
      (dayOfYear day = 365 → isLeap (yearOf day + 1) = true) := by
  rcases yearOf_between lower upper with ⟨_, _, first, last⟩
  rw [yearStart_succ] at last
  unfold dayOfYear
  cases leap : isLeap (yearOf day + 1) with
  | true =>
      simp only [leap, if_true] at last
      exact ⟨by omega, by omega, fun _ => rfl⟩
  | false =>
      simp only [leap, Bool.false_eq_true, if_false] at last
      exact ⟨by omega, by omega, fun long => by omega⟩

/-! ## Months of a year -/

/-- The date of a day of a year, the year beginning in March. -/
def civil (year dayOfYear : Int) : Date :=
  let month := (5 * dayOfYear + 2) / 153
  let day := dayOfYear - (153 * month + 2) / 5 + 1
  if month < 10 then ⟨year, (month + 3).toNat, day.toNat⟩
  else ⟨year + 1, (month - 9).toNat, day.toNat⟩

theorem toDays_civil {era year dayOfYear : Int} (early : 0 ≤ year) (late : year < 400)
    (first : 0 ≤ dayOfYear) (last : dayOfYear ≤ 365) :
    (civil (year + era * 400) dayOfYear).toDays =
      era * 146097 + yearStart year + dayOfYear - 719468 := by
  have start : yearStart year = year * 365 + year / 4 - year / 100 := by
    unfold yearStart
    omega
  rw [start]
  unfold civil
  dsimp only
  split
  · rename_i spring
    have months : ¬((5 * dayOfYear + 2) / 153 + 3).toNat ≤ 2 := by omega
    -- March to December lie in the year that began in March
    have eras : (year + era * 400).fdiv 400 = era := by
      rw [Int.fdiv_eq_ediv_of_nonneg _ (by decide)]
      omega
    simp only [toDays, months, if_false, eras]
    omega
  · rename_i winter
    have months : ((5 * dayOfYear + 2) / 153 - 9).toNat ≤ 2 := by omega
    -- January and February belong to the next year of the calendar
    have eras : (year + era * 400 + 1 - 1).fdiv 400 = era := by
      rw [Int.fdiv_eq_ediv_of_nonneg _ (by decide)]
      omega
    simp only [toDays, months, if_true, eras]
    omega

theorem isValid_civil {year dayOfYear : Int} (first : 0 ≤ dayOfYear) (last : dayOfYear ≤ 365)
    (leap : dayOfYear = 365 → isLeap (year + 1) = true)
    (early : 0 < year ∨ 0 = year ∧ 306 ≤ dayOfYear)
    (late : year < 9999 ∨ year = 9999 ∧ dayOfYear < 306) :
    (civil year dayOfYear).isValid = true := by
  have months : let month := (5 * dayOfYear + 2) / 153
      month = 0 ∨ month = 1 ∨ month = 2 ∨ month = 3 ∨ month = 4 ∨ month = 5 ∨ month = 6 ∨
        month = 7 ∨ month = 8 ∨ month = 9 ∨ month = 10 ∨ month = 11 := by
    dsimp only
    omega
  unfold civil
  dsimp only at months ⊢
  rcases months with h | h | h | h | h | h | h | h | h | h | h | h
  case inr.inr.inr.inr.inr.inr.inr.inr.inr.inr.inr =>
      -- February: the last day of a long year needs a leap year
      rw [h]
      simp only [isValid, monthLength]
      cases long : isLeap (year + 1) with
      | true =>
          simp [long]
          omega
      | false =>
          have short : dayOfYear ≠ 365 := fun last => by simp [leap last] at long
          simp [long]
          omega
  all_goals
      rw [h]
      simp [isValid, monthLength]
      omega

/-! ## Counts of days -/

theorem toDays_first : toDays ⟨1, 1, 1⟩ = -719162 := by decide

theorem toDays_last : toDays ⟨9999, 12, 31⟩ = 2932896 := by decide

theorem monthLength_le (year : Int) (month : Nat) : monthLength year month ≤ 31 := by
  unfold monthLength
  repeat' split
  all_goals decide

/-- The era, the year in it and the day in the year that a count of days says. -/
theorem exists_parts (days : Int) :
    ∃ era year dayOfYear : Int, (0 ≤ year ∧ year < 400) ∧ (0 ≤ dayOfYear ∧ dayOfYear ≤ 365) ∧
      (dayOfYear = 365 → isLeap (year + 1) = true) ∧
      days + 719468 = era * 146097 + yearStart year + dayOfYear ∧
      ofDays days = civil (year + era * 400) dayOfYear := by
  have eras : (days + 719468).fdiv 146097 = (days + 719468) / 146097 :=
    Int.fdiv_eq_ediv_of_nonneg _ (by decide)
  have inEra : days + 719468 - (days + 719468) / 146097 * 146097 = (days + 719468) % 146097 := by
    omega
  have lower : 0 ≤ (days + 719468) % 146097 := by omega
  have upper : (days + 719468) % 146097 < 146097 := by omega
  rcases yearOf_between lower upper with ⟨early, late, _, _⟩
  rcases dayOfYear_bounds lower upper with ⟨first, last, leap⟩
  refine ⟨(days + 719468) / 146097, yearOf ((days + 719468) % 146097),
    dayOfYear ((days + 719468) % 146097), ⟨early, late⟩, ⟨first, last⟩, leap, ?_, ?_⟩
  · unfold dayOfYear
    omega
  · generalize (days + 719468) / 146097 = era at *
    generalize (days + 719468) % 146097 = day at *
    have found : (day - day / 1460 + day / 36524 - day / 146096) / 365 = yearOf day := rfl
    have start : day - (365 * yearOf day + yearOf day / 4 - yearOf day / 100) = dayOfYear day := by
      unfold dayOfYear yearStart
      omega
    simp only [ofDays, eras, inEra, found, start, civil]
    generalize dayOfYear day = inYear at *
    by_cases spring : (5 * inYear + 2) / 153 < 10
    · have later : ¬(5 * inYear + 2) / 153 + 3 ≤ 2 := by omega
      simp [spring, later]
    · have earlier : (5 * inYear + 2) / 153 - 9 ≤ 2 := by omega
      simp [spring, earlier]

/-- A count of days is read back from its date. -/
theorem toDays_ofDays (days : Int) : (ofDays days).toDays = days := by
  rcases exists_parts days with ⟨era, year, dayOfYear, years, inYear, _, sum, same⟩
  rw [same, toDays_civil years.1 years.2 inYear.1 inYear.2]
  omega

/-- Within the years 1 to 9999 the date exists. -/
theorem isValid_ofDays {days : Int} (first : toDays ⟨1, 1, 1⟩ ≤ days)
    (last : days ≤ toDays ⟨9999, 12, 31⟩) : (ofDays days).isValid = true := by
  rw [toDays_first] at first
  rw [toDays_last] at last
  rcases exists_parts days with ⟨era, year, dayOfYear, years, inYear, leap, sum, same⟩
  rw [same]
  -- leap years come back after an era
  have cycle : isLeap (year + era * 400 + 1) = isLeap (year + 1) := by
    rw [Bool.eq_iff_iff, isLeap_iff, isLeap_iff]
    omega
  simp only [yearStart] at sum
  refine isValid_civil inYear.1 inYear.2 (fun long => by rw [cycle]; exact leap long) ?_ ?_
  · omega
  · omega

/-- A date that exists lies between the first and the last one. -/
theorem toDays_of_isValid {d : Date} (valid : d.isValid = true) :
    toDays ⟨1, 1, 1⟩ ≤ d.toDays ∧ d.toDays ≤ toDays ⟨9999, 12, 31⟩ := by
  rcases d with ⟨year, month, dayOfMonth⟩
  have longest := monthLength_le year month
  simp only [isValid, Bool.and_eq_true, decide_eq_true_eq] at valid
  rw [toDays_first, toDays_last]
  simp only [toDays, Int.fdiv_eq_ediv_of_nonneg _ (by decide : (0 : Int) ≤ 400)]
  split <;> omega

end DataGateway.Calendar.Date
