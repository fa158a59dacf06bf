import Foreman.Proofs.Time.Calendar

set_option autoImplicit false

namespace Foreman.Date

def newYear (year : Int) : Int := yearStart (year - 1) + 306

theorem year_start_later (first second : Int) (order : first < second) :
    yearStart first + 365 ≤ yearStart second := by
  rw [yearStart, yearStart]
  omega

-- January and February end the year that began in March, and belong to the next one.
theorem in_year_year (year day : Int) (low : 0 ≤ day) (high : day ≤ 365) :
    (inYear year day).year = if day < 306 then year else year + 1 := by
  rw [inYear, fromMarch]
  by_cases early : day < 306
  · have month : (5 * day + 2) / 153 < 10 := by omega
    rw [if_pos month, if_pos early]
  · have month : ¬ (5 * day + 2) / 153 < 10 := by omega
    rw [if_neg month, if_neg early]

theorem year_reached_iff (year number : Int) :
    year ≤ (ofDayNumber number).year ↔ newYear year ≤ number := by
  obtain ⟨start, day, date, total, low, high⟩ := of_day_number_in_year number
  rw [date, in_year_year start day low (by omega), newYear, total]
  rcases Int.lt_trichotomy start (year - 1) with before | same | after
  · have later := year_start_later start (year - 1) before
    split <;> omega
  · subst same
    split <;> omega
  · have later := year_start_later (year - 1) start after
    split <;> omega

end Foreman.Date
