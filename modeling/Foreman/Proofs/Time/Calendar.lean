import Foreman.Time.Calendar
import Mathlib.Tactic.IntervalCases

set_option autoImplicit false

namespace Foreman.Date

-- A day of an era of 400 years, as centuries, groups of four years, years and days. The last day
-- of a group is the leap day, which the last group of a century lacks unless it ends the era.
structure Parts (day century group year rest : Int) : Prop where
  total : day = 36524 * century + 1461 * group + 365 * year + rest
  centuries : 0 ≤ century ∧ century ≤ 3
  groups : 0 ≤ group ∧ group ≤ 24
  years : 0 ≤ year ∧ year ≤ 3
  days : 0 ≤ rest
  last : rest ≤ 364 ∨ year = 3 ∧ rest = 365 ∧ (group ≤ 23 ∨ century = 3)

theorem parts_exist (day : Int) (low : 0 ≤ day) (high : day < 146097) :
    ∃ century group year rest, Parts day century group year rest := by
  obtain ⟨century, ofCentury, total, range⟩ : ∃ century ofCentury : Int,
      day = 36524 * century + ofCentury ∧ 0 ≤ century ∧ century ≤ 3 ∧ 0 ≤ ofCentury ∧
        (ofCentury < 36524 ∨ century = 3 ∧ ofCentury = 36524) :=
    ⟨min (day / 36524) 3, day - 36524 * min (day / 36524) 3, by omega, by omega⟩
  obtain ⟨group, ofGroup, within, bounds⟩ : ∃ group ofGroup : Int,
      ofCentury = 1461 * group + ofGroup ∧ 0 ≤ group ∧ group ≤ 24 ∧ 0 ≤ ofGroup ∧
        ofGroup < 1461 :=
    ⟨ofCentury / 1461, ofCentury % 1461, by omega, by omega⟩
  exact ⟨century, group, min (ofGroup / 365) 3, ofGroup - 365 * min (ofGroup / 365) 3,
    by omega, by omega, by omega, by omega, by omega, by omega⟩

def yearOfEra (day : Int) : Int :=
  (day - day / 1460 + day / 36524 - day / 146096) / 365

def dayOfYear (day : Int) : Int :=
  day - (365 * yearOfEra day + yearOfEra day / 4 - yearOfEra day / 100)

theorem parts_year (day century group year rest : Int)
    (parts : Parts day century group year rest) :
    yearOfEra day = 100 * century + 4 * group + year := by
  obtain ⟨total, ⟨_, _⟩, ⟨_, _⟩, ⟨_, _⟩, _, last⟩ := parts
  have centuries : day / 36524 - day / 146096 = century := by
    by_cases final : day < 146096
    · have era : day / 146096 = 0 := by omega
      have within : 0 ≤ day - 36524 * century ∧ day - 36524 * century < 36524 := by omega
      omega
    · have ends : day = 146096 := by omega
      subst ends
      omega
  have groups : day / 1460 =
      25 * century + group + (24 * century + group + 365 * year + rest) / 1460 := by omega
  rw [yearOfEra]
  omega

theorem parts_day (day century group year rest : Int)
    (parts : Parts day century group year rest) : dayOfYear day = rest := by
  rw [dayOfYear, parts_year day century group year rest parts]
  obtain ⟨total, ⟨_, _⟩, ⟨_, _⟩, ⟨_, _⟩, _, _⟩ := parts
  have fours : (100 * century + 4 * group + year) / 4 = 25 * century + group := by omega
  have hundreds : (100 * century + 4 * group + year) / 100 = century := by omega
  omega

def yearStart (year : Int) : Int :=
  365 * year + year / 4 - year / 100 + year / 400 - 719468

def fromMarch (year month day : Int) : Date :=
  if month < 10 then ⟨year, (month + 3).toNat, day.toNat⟩
  else ⟨year + 1, (month - 9).toNat, day.toNat⟩

def monthStart (month : Int) : Int := (153 * month + 2) / 5

def inYear (year day : Int) : Date :=
  fromMarch year ((5 * day + 2) / 153) (day - monthStart ((5 * day + 2) / 153) + 1)

theorem from_march_eq (year month day : Int) (low : 0 ≤ month) (high : month ≤ 11) :
    fromMarch year month day =
      { year := year + (if (if month < 10 then month + 3 else month - 9) ≤ 2 then 1 else 0)
        month := (if month < 10 then month + 3 else month - 9).toNat
        day := day.toNat } := by
  by_cases early : month < 10
  · have late : ¬ month + 3 ≤ 2 := by omega
    rw [fromMarch, if_pos early, if_pos early, if_neg late, Int.add_zero]
  · have next : month - 9 ≤ 2 := by omega
    rw [fromMarch, if_neg early, if_neg early, if_pos next]

theorem year_start_eras (year : Int) :
    year / 400 * 146097 + (year % 400 * 365 + year % 400 / 4 - year % 400 / 100) - 719468 =
      yearStart year := by
  have fours : year / 4 = 100 * (year / 400) + year % 400 / 4 := by omega
  have hundreds : year / 100 = 4 * (year / 400) + year % 400 / 100 := by omega
  rw [yearStart]
  omega

theorem from_march_number (year month day : Int) (low : 0 ≤ month) (high : month ≤ 11)
    (positive : 0 ≤ day) :
    (fromMarch year month day).toDayNumber = yearStart year + monthStart month + day - 1 := by
  have start := year_start_eras year
  have days : (day.toNat : Int) = day := Int.toNat_of_nonneg positive
  by_cases early : month < 10
  · have late : ¬ (month + 3).toNat ≤ 2 := by omega
    have index : (((month + 3).toNat : Int) + 9) % 12 = month := by omega
    rw [fromMarch, if_pos early, monthStart]
    simp only [toDayNumber, if_neg late, index, days]
    omega
  · have next : (month - 9).toNat ≤ 2 := by omega
    have index : (((month - 9).toNat : Int) + 9) % 12 = month := by omega
    rw [fromMarch, if_neg early, monthStart]
    simp only [toDayNumber, if_pos next, Int.add_sub_cancel, index, days]
    omega

theorem month_range (day : Int) (low : 0 ≤ day) (high : day ≤ 365) :
    0 ≤ (5 * day + 2) / 153 ∧ (5 * day + 2) / 153 ≤ 11 := by
  omega

theorem month_start_le (day : Int) :
    monthStart ((5 * day + 2) / 153) ≤ day := by
  rw [monthStart]
  omega

theorem in_year_number (year day : Int) (low : 0 ≤ day) (high : day ≤ 365) :
    (inYear year day).toDayNumber = yearStart year + day := by
  obtain ⟨first, final⟩ := month_range day low high
  have reached := month_start_le day
  rw [inYear, from_march_number year _ _ first final (by omega)]
  omega

theorem is_valid_iff (date : Date) :
    date.isValid = true ↔
      (1 ≤ date.month ∧ date.month ≤ 12) ∧ 1 ≤ date.day ∧
        date.day ≤ monthLength date.year date.month := by
  simp only [isValid, Bool.and_eq_true, decide_eq_true_eq, and_assoc]

theorem month_length_le (year : Int) (month : Nat) : monthLength year month ≤ 31 := by
  rw [monthLength]
  split
  · split <;> decide
  · split <;> decide

theorem from_march_month (year month day : Int) (low : 0 ≤ month) (high : month ≤ 11) :
    1 ≤ (fromMarch year month day).month ∧ (fromMarch year month day).month ≤ 12 := by
  by_cases early : month < 10
  · rw [fromMarch, if_pos early]
    change 1 ≤ (month + 3).toNat ∧ (month + 3).toNat ≤ 12
    omega
  · rw [fromMarch, if_neg early]
    change 1 ≤ (month - 9).toNat ∧ (month - 9).toNat ≤ 12
    omega

theorem from_march_day (year month day : Int) : (fromMarch year month day).day = day.toNat := by
  rw [fromMarch]
  split <;> rfl

-- All months but the last, February, have a length of their own.
theorem from_march_length (year month day : Int) (low : 0 ≤ month) (high : month ≤ 10) :
    (monthLength (fromMarch year month day).year (fromMarch year month day).month : Int) =
      monthStart (month + 1) - monthStart month := by
  interval_cases month <;> rfl

theorem february_length (year day : Int) :
    monthLength (fromMarch year 11 day).year (fromMarch year 11 day).month =
      if isLeap (year + 1) then 29 else 28 := by
  rfl

theorem month_end (day : Int) : day < monthStart ((5 * day + 2) / 153 + 1) := by
  rw [monthStart]
  omega

theorem in_year_valid (year day : Int) (low : 0 ≤ day)
    (high : day ≤ 364 ∨ day = 365 ∧ isLeap (year + 1) = true) : (inYear year day).isValid = true := by
  obtain ⟨first, final⟩ := month_range day low (by omega)
  have reached := month_start_le day
  have ahead := month_end day
  rw [inYear]
  generalize index : (5 * day + 2) / 153 = month at first final reached ahead
  rw [is_valid_iff, from_march_day]
  refine ⟨from_march_month year month _ first final, by omega, ?_⟩
  by_cases february : month = 11
  · subst february
    have start : monthStart 11 = 337 := rfl
    rw [february_length]
    cases high with
    | inl common => split <;> omega
    | inr leap =>
        rw [if_pos leap.2]
        omega
  · have length := from_march_length year month (day - monthStart month + 1) first (by omega)
    omega

theorem year_start_parts (era century group year : Int) (centuries : 0 ≤ century ∧ century ≤ 3)
    (groups : 0 ≤ group ∧ group ≤ 24) (years : 0 ≤ year ∧ year ≤ 3) :
    yearStart (100 * century + 4 * group + year + era * 400) =
      146097 * era + 36524 * century + 1461 * group + 365 * year - 719468 := by
  have fours : (100 * century + 4 * group + year + era * 400) / 4 =
      25 * century + group + 100 * era := by omega
  have hundreds : (100 * century + 4 * group + year + era * 400) / 100 = century + 4 * era := by
    omega
  have eras : (100 * century + 4 * group + year + era * 400) / 400 = era := by omega
  rw [yearStart, fours, hundreds, eras]
  omega

theorem leap_after (era century group : Int) (groups : 0 ≤ group)
    (last : group ≤ 23 ∨ century = 3 ∧ group = 24) :
    isLeap (100 * century + 4 * group + 3 + era * 400 + 1) = true := by
  have fours : (100 * century + 4 * group + 3 + era * 400 + 1) % 4 = 0 := by omega
  rw [isLeap, fours]
  cases last with
  | inl common =>
      have hundreds : (100 * century + 4 * group + 3 + era * 400 + 1) % 100 ≠ 0 := by omega
      simp [hundreds]
  | inr final =>
      have eras : (100 * century + 4 * group + 3 + era * 400 + 1) % 400 = 0 := by omega
      simp [eras]

theorem of_day_number_in_year (number : Int) :
    ∃ year day, ofDayNumber number = inYear year day ∧ number = yearStart year + day ∧
      0 ≤ day ∧ (day ≤ 364 ∨ day = 365 ∧ isLeap (year + 1) = true) := by
  obtain ⟨century, group, year, rest, parts⟩ := parts_exist ((number + 719468) % 146097)
    (by omega) (by omega)
  have ofEra := parts_year _ _ _ _ _ parts
  have ofYear := parts_day _ _ _ _ _ parts
  obtain ⟨total, centuries, groups, years, low, last⟩ := parts
  obtain ⟨first, final⟩ := month_range rest low (by omega)
  refine ⟨100 * century + 4 * group + year + (number + 719468) / 146097 * 400, rest, ?_, ?_, low,
    ?_⟩
  · rw [inYear, from_march_eq _ _ _ first final, ← ofEra, ← ofYear]
    rfl
  · rw [year_start_parts _ century group year centuries groups years]
    omega
  · cases last with
    | inl common => exact .inl common
    | inr leap =>
        obtain ⟨third, ends, place⟩ := leap
        subst third
        exact .inr ⟨ends, leap_after _ century group (by omega) (by omega)⟩

theorem day_number_date (number : Int) : (ofDayNumber number).toDayNumber = number := by
  obtain ⟨year, day, date, total, low, high⟩ := of_day_number_in_year number
  rw [date, in_year_number year day low (by omega), ← total]

theorem day_number_valid (number : Int) : (ofDayNumber number).isValid = true := by
  obtain ⟨year, day, date, _, low, high⟩ := of_day_number_in_year number
  rw [date]
  exact in_year_valid year day low high

end Foreman.Date
