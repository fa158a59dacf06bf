import Foreman.Proofs.Time.Years

set_option autoImplicit false

namespace Foreman

namespace Date

theorem year_start_next (year : Int) :
    yearStart (year + 1) = yearStart year + 365 + (if isLeap (year + 1) then 1 else 0) := by
  rw [yearStart, yearStart]
  by_cases fours : (year + 1) % 4 = 0
  · by_cases hundreds : (year + 1) % 100 = 0
    · by_cases eras : (year + 1) % 400 = 0
      · have leap : isLeap (year + 1) = true := by simp [isLeap, fours, eras]
        rw [if_pos leap]
        omega
      · have common : ¬ isLeap (year + 1) = true := by simp [isLeap, hundreds, eras]
        rw [if_neg common]
        omega
    · have leap : isLeap (year + 1) = true := by simp [isLeap, fours, hundreds]
      rw [if_pos leap]
      omega
  · have common : ¬ isLeap (year + 1) = true := by simp [isLeap, fours]
    rw [if_neg common]
    omega

structure OfYear (year day : Int) : Prop where
  low : 0 ≤ day
  high : day ≤ 364 ∨ day = 365 ∧ isLeap (year + 1) = true

theorem of_year_le (year day : Int) (own : OfYear year day) : day ≤ 365 := by
  cases own.high with
  | inl common => omega
  | inr leap => omega

theorem before_next_year (year later day : Int) (own : OfYear year day) (order : year < later) :
    yearStart year + day < yearStart later := by
  have next := year_start_next year
  have reached : yearStart (year + 1) ≤ yearStart later := by
    by_cases same : later = year + 1
    · rw [same]
    · have beyond := year_start_later (year + 1) later (by omega)
      omega
  cases own.high with
  | inl common =>
      split at next <;> omega
  | inr leap =>
      rw [if_pos leap.2] at next
      omega

theorem year_unique (first second one other : Int) (left : OfYear first one)
    (right : OfYear second other) (same : yearStart first + one = yearStart second + other) :
    first = second ∧ one = other := by
  have low := left.low
  have least := right.low
  rcases Int.lt_trichotomy first second with before | equal | after
  · have ahead := before_next_year first second one left before
    omega
  · subst equal
    omega
  · have ahead := before_next_year second first other right after
    omega

theorem month_unique (month day : Int) (reached : monthStart month ≤ day)
    (ahead : day < monthStart (month + 1)) : (5 * day + 2) / 153 = month := by
  rw [monthStart] at reached ahead
  omega

-- Every month but the last ends where the next one begins, and the last ends with the year.
theorem month_days (year month day : Int) (low : 0 ≤ month) (high : month ≤ 11) (first : 1 ≤ day)
    (last : day ≤ monthLength (fromMarch year month day).year (fromMarch year month day).month) :
    OfYear year (monthStart month + day - 1) ∧
      monthStart month + day - 1 < monthStart (month + 1) := by
  by_cases february : month = 11
  · subst february
    have start : monthStart 11 = 337 := rfl
    have finish : monthStart (11 + 1) = 367 := rfl
    rw [february_length] at last
    by_cases leap : isLeap (year + 1) = true
    · rw [if_pos leap] at last
      refine ⟨⟨by omega, ?_⟩, by omega⟩
      by_cases final : day = 29
      · exact .inr ⟨by omega, leap⟩
      · exact .inl (by omega)
    · rw [if_neg leap] at last
      exact ⟨⟨by omega, .inl (by omega)⟩, by omega⟩
  · have length := from_march_length year month day low (by omega)
    have within : monthStart month + day - 1 < monthStart (month + 1) := by omega
    have start : 0 ≤ monthStart month := by
      rw [monthStart]
      omega
    have finish : monthStart (month + 1) ≤ 337 := by
      rw [monthStart]
      omega
    exact ⟨⟨by omega, .inl (by omega)⟩, within⟩

theorem date_from_march (date : Date) (low : 1 ≤ date.month) (high : date.month ≤ 12) :
    ∃ year month, 0 ≤ month ∧ month ≤ 11 ∧ fromMarch year month date.day = date := by
  by_cases early : date.month ≤ 2
  · refine ⟨date.year - 1, date.month + 9, by omega, by omega, ?_⟩
    rw [fromMarch, if_neg (by omega)]
    cases date
    simp
  · refine ⟨date.year, date.month - 3, by omega, by omega, ?_⟩
    rw [fromMarch, if_pos (by omega)]
    cases date
    simp

theorem valid_in_year (date : Date) (valid : date.isValid = true) :
    ∃ year day, inYear year day = date ∧ OfYear year day := by
  obtain ⟨⟨firstMonth, lastMonth⟩, firstDay, lastDay⟩ := (is_valid_iff date).mp valid
  obtain ⟨year, month, low, high, read⟩ := date_from_march date firstMonth lastMonth
  obtain ⟨own, ahead⟩ := month_days year month date.day low high (by omega) (by
    rw [read]
    exact_mod_cast lastDay)
  refine ⟨year, monthStart month + date.day - 1, ?_, own⟩
  have index := month_unique month (monthStart month + date.day - 1) (by omega) ahead
  have day : monthStart month + date.day - 1 - monthStart month + 1 = date.day := by omega
  rw [inYear, index, day, read]

theorem date_day_number (date : Date) (valid : date.isValid = true) :
    ofDayNumber date.toDayNumber = date := by
  obtain ⟨year, day, same, own⟩ := valid_in_year date valid
  have total := in_year_number year day own.low (of_year_le year day own)
  obtain ⟨other, rest, read, number, low, high⟩ := of_day_number_in_year (yearStart year + day)
  obtain ⟨years, days⟩ := year_unique year other day rest own ⟨low, high⟩ number
  rw [← same, total, read, years, days]

end Date

structure Reading where
  date : Date
  hour : Nat
  minute : Nat
  second : Nat
  dated : date.isValid = true
  hours : hour < 24
  minutes : minute < 60
  seconds : second < 60

namespace Reading

variable (reading : Reading)

def clock : Nat := reading.hour * 3600 + reading.minute * 60 + reading.second

def unix : Int := reading.date.toDayNumber * 86400 + reading.clock

def weekday : Nat := Date.weekday reading.date.toDayNumber

theorem clock_in_day : reading.clock < 86400 := by
  have hours := reading.hours
  have minutes := reading.minutes
  have seconds := reading.seconds
  rw [clock]
  omega

theorem unix_day : reading.unix / 86400 = reading.date.toDayNumber := by
  have inDay := reading.clock_in_day
  rw [unix]
  omega

theorem unix_clock : (reading.unix % 86400).toNat = reading.clock := by
  have inDay := reading.clock_in_day
  rw [unix]
  omega

theorem unix_date : Date.ofDayNumber (reading.unix / 86400) = reading.date := by
  rw [unix_day]
  exact Date.date_day_number reading.date reading.dated

theorem clock_parts :
    reading.clock / 3600 = reading.hour ∧ reading.clock / 60 % 60 = reading.minute ∧
      reading.clock % 60 = reading.second := by
  have minutes := reading.minutes
  have seconds := reading.seconds
  rw [clock]
  omega

theorem reading_exists (second : Int) : ∃ reading : Reading, reading.unix = second := by
  refine ⟨⟨Date.ofDayNumber (second / 86400), (second % 86400).toNat / 3600,
    (second % 86400).toNat / 60 % 60, (second % 86400).toNat % 60,
    Date.day_number_valid (second / 86400), by omega, by omega, by omega⟩, ?_⟩
  simp only [unix, clock, Date.day_number_date]
  omega

end Reading

end Foreman
