import Foreman.Proofs.Text.Words
import Foreman.Proofs.Time.Reading
import Foreman.Proofs.Trigger.Series

set_option autoImplicit false

namespace Foreman

namespace Columns

-- The columns name a second by what is read there; day and weekday both have to be named.
structure Fits (columns : Columns) (reading : Reading) : Prop where
  second : reading.second ∈ columns.seconds
  minute : reading.minute ∈ columns.minutes
  hour : reading.hour ∈ columns.hours
  day : reading.date.day ∈ columns.days
  weekday : reading.weekday ∈ columns.weekdays
  month : reading.date.month ∈ columns.months
  year : ∃ year ∈ columns.years, reading.date.year = (year : Int)

-- The seconds that are named, of a year up to 2100 and later than a time without its fraction.
def due (columns : Columns) (now : Instant) : Set Int :=
  {second | ∃ reading : Reading, reading.unix = second ∧ reading.date.year ≤ 2100 ∧
    now.seconds < second ∧ columns.Fits reading}

variable (columns : Columns) (sorted : columns.Sorted)

include sorted

theorem year_named (year : Int) :
    year.toNat ∈ columns.years ↔ ∃ own ∈ columns.years, year = (own : Int) := by
  constructor
  · intro named
    have bound := (sorted.years.range _ named).1
    change 1970 ≤ year.toNat at bound
    exact ⟨year.toNat, named, by omega⟩
  · intro own
    obtain ⟨number, named, same⟩ := own
    rw [same, Int.toNat_natCast]
    exact named

theorem fits_iff (reading : Reading) :
    columns.matchesTime reading.unix = true ↔ columns.Fits reading := by
  obtain ⟨hour, minute, second⟩ := reading.clock_parts
  rw [matches_time_iff, reading.unix_clock, matchesDay, matchesClock, reading.unix_date,
    reading.unix_day, hour, minute, second]
  simp only [Bool.and_eq_true, List.contains_iff_mem, year_named columns sorted]
  constructor
  · rintro ⟨⟨⟨⟨month, day⟩, weekday⟩, year⟩, ⟨hours, minutes⟩, seconds⟩
    exact ⟨seconds, minutes, hours, day, weekday, month, year⟩
  · rintro ⟨seconds, minutes, hours, day, weekday, month, year⟩
    exact ⟨⟨⟨⟨month, day⟩, weekday⟩, year⟩, ⟨hours, minutes⟩, seconds⟩

theorem fits_years (reading : Reading) (fits : columns.Fits reading) :
    reading.date.year ≤ 2100 ∧ 0 ≤ reading.unix := by
  obtain ⟨year, named, same⟩ := fits.year
  obtain ⟨low, high⟩ := sorted.years.range year named
  change 1970 ≤ year at low
  change year ≤ 2100 at high
  have reached : 1970 ≤ (Date.ofDayNumber (reading.unix / 86400)).year := by
    rw [reading.unix_date]
    omega
  have begins : Date.newYear 1970 = 0 := by decide
  rw [Date.year_reached_iff, begins] at reached
  exact ⟨by omega, by omega⟩

theorem due_candidates (now : Instant) :
    columns.due now = columns.candidates (now.seconds + 1) := by
  ext second
  constructor
  · rintro ⟨reading, rfl, _, later, fits⟩
    have positive := (fits_years columns sorted reading fits).2
    exact ⟨(fits_iff columns sorted reading).mpr fits, by omega⟩
  · rintro ⟨matching, late⟩
    obtain ⟨reading, rfl⟩ := Reading.reading_exists second
    have fits := (fits_iff columns sorted reading).mp matching
    exact ⟨reading, rfl, (fits_years columns sorted reading fits).1, by omega, fits⟩

end Columns

namespace CronSchedule

section Next

variable (schedule : CronSchedule) (now : Instant) (era : now.InEra)

include era

theorem next_due (time : Instant) :
    schedule.next now = some time ↔
      ∃ second, IsLeast (schedule.columns.due now) second ∧ time.nanos = second * 1000000000 := by
  have sorted := Columns.text_sorted _ _ schedule.parsed
  rw [schedule.next_searched now era, Option.bind_eq_some_iff, Columns.due_candidates _ sorted]
  apply exists_congr
  intro second
  rw [Columns.earliest_iff _ _ sorted, Instant.ofUnix?, Instant.of_nanos_iff, Nat.cast_zero, add_zero]

theorem next_none_iff : schedule.next now = none ↔ schedule.columns.due now = ∅ := by
  have sorted := Columns.text_sorted _ _ schedule.parsed
  rw [Columns.due_candidates _ sorted]
  constructor
  · intro silent
    rw [schedule.next_searched now era] at silent
    cases found : schedule.columns.earliest (now.seconds + 1) with
    | none => exact Columns.earliest_none _ _ sorted found
    | some second =>
        obtain ⟨⟨matching, late⟩, _⟩ := Columns.earliest_least _ _ sorted second found
        obtain ⟨time, total⟩ := schedule.matching_instant second matching (by omega)
        have made : Instant.ofUnix? second 0 = some time := by
          rw [Instant.ofUnix?, Instant.of_nanos_iff, Nat.cast_zero, add_zero]
          exact total
        rw [found, Option.bind_some, made] at silent
        cases silent
  · intro empty
    rw [Option.eq_none_iff_forall_ne_some]
    intro time answered
    obtain ⟨second, least, _⟩ := (schedule.next_due now era time).mp answered
    rw [Columns.due_candidates _ sorted, empty] at least
    exact least.1

end Next

def columnsOf (expression : String) : Option Columns :=
  (parse expression).map columns

theorem columns_of_eq (expression : String) :
    columnsOf expression = Columns.ofText (Text.trimmed expression.toList) := by
  have own : (Text.trim expression).toList = Text.trimmed expression.toList := by
    rw [Text.trim, String.toList_ofList]
  rw [← own, columnsOf]
  delta parse
  dsimp only
  split
  · rename_i columns parsed
    exact parsed.symm
  · rename_i absent
    exact absent.symm

theorem parse_surrounded (before text after : String) (left : Text.allBlank before = true)
    (right : Text.allBlank after = true) : parse (before ++ text ++ after) = parse text := by
  have same : Text.trim (before ++ text ++ after) = Text.trim text := by
    rw [Text.trim, Text.trim, String.toList_append, String.toList_append,
      Text.trimmed_surrounded _ _ _ (List.all_eq_true.mp left) (List.all_eq_true.mp right)]
  delta parse
  rw [same]

theorem completed_five (text : List Char) (five : (Text.words text).length = 5) :
    Columns.completed (Text.trimmed text) = '0' :: ' ' :: Text.trimmed text := by
  rw [Columns.completed, Text.word_count_words, Text.words_trimmed, if_pos five]

theorem completed_six (text : List Char) (five : (Text.words text).length = 5) :
    Columns.completed ('0' :: ' ' :: Text.trimmed text) = '0' :: ' ' :: Text.trimmed text := by
  have gap : Text.isBlank ' ' = true := by decide
  have zero : Text.words ['0'] = [['0']] := by decide
  have six : Text.wordCount ('0' :: ' ' :: Text.trimmed text) = 6 := by
    have apart := Text.words_apart ' ' gap ['0'] (Text.trimmed text)
    rw [zero, List.singleton_append] at apart
    rw [Text.word_count_words, apart, Text.words_trimmed, List.singleton_append, List.length_cons,
      five]
  rw [Columns.completed, six]
  exact if_neg (by decide)

theorem columns_five (text : String) (five : (Text.words text.toList).length = 5) :
    columnsOf text = columnsOf ("0 " ++ Text.trim text) := by
  have shown := Text.words_shown text.toList (by omega)
  have chars : ("0 " ++ Text.trim text).toList = '0' :: [' '] ++ Text.trimmed text.toList := by
    have zero : "0 ".toList = ['0', ' '] := rfl
    rw [String.toList_append, zero, Text.trim, String.toList_ofList, List.cons_append]
  rw [columns_of_eq, columns_of_eq, chars,
    Text.trimmed_headed '0' [' '] text.toList (by decide) shown, Columns.ofText, Columns.ofText,
    completed_five text.toList five]
  have six := completed_six text.toList five
  simp only [List.cons_append, List.nil_append, six]

end CronSchedule

namespace Trigger

open CronSchedule (columnsOf)

theorem cron_accepted_iff (expression : String) (trigger : Trigger) :
    ofCron expression = .ok trigger ↔
      ∃ schedule, CronSchedule.parse expression = some schedule ∧ trigger = .cron schedule := by
  delta ofCron
  cases CronSchedule.parse expression with
  | none => simp
  | some schedule => simp [eq_comm]

theorem cron_fires_earliest :
    (∀ expression trigger, ofCron expression = .ok trigger →
      ∃ columns, columnsOf expression = some columns ∧ ∀ previous now, now.InEra →
        (∀ time, trigger.next previous now = some time ↔
          ∃ second, IsLeast (columns.due now) second ∧ time.nanos = second * 1000000000) ∧
        (trigger.next previous now = none ↔ columns.due now = ∅)) ∧
    (∀ text, (Text.words text.toList).length = 5 →
      columnsOf text = columnsOf ("0 " ++ Text.trim text)) ∧
    ∀ before text after, Text.allBlank before = true → Text.allBlank after = true →
      CronSchedule.parse (before ++ text ++ after) = CronSchedule.parse text := by
  refine ⟨?_, CronSchedule.columns_five, CronSchedule.parse_surrounded⟩
  intro expression trigger accepted
  obtain ⟨schedule, parsed, rfl⟩ := (cron_accepted_iff expression trigger).mp accepted
  refine ⟨schedule.columns, by rw [columnsOf, parsed]; rfl, fun previous now era => ?_⟩
  rw [next]
  exact ⟨schedule.next_due now era, schedule.next_none_iff now era⟩

def leapSunday : String := "0 12 29 2 Sun"

theorem leap_sunday_fires :
    ∃ trigger columns, ofCron leapSunday = .ok trigger ∧ columnsOf leapSunday = some columns ∧
      (atSecond 189302400).InEra ∧
      trigger.next none (atSecond 189302400) = some (atSecond 194443200) ∧
      IsLeast (columns.due (atSecond 189302400)) 194443200 ∧
      (Text.words leapSunday.toList).length = 5 ∧ columnsOf ("0 " ++ leapSunday) = some columns ∧
      CronSchedule.parse ("\u3000" ++ leapSunday ++ "\n") = CronSchedule.parse leapSunday := by
  obtain ⟨fires, completed, surrounded⟩ := cron_fires_earliest
  have era : (atSecond 189302400).InEra := by
    unfold Instant.InEra
    decide +kernel
  have asked : ((CronSchedule.parse leapSunday).bind fun schedule =>
      (Trigger.cron schedule).next none (atSecond 189302400)) = some (atSecond 194443200) := by
    decide +kernel
  obtain ⟨schedule, parsed, fired⟩ := Option.bind_eq_some_iff.mp asked
  have accepted := (cron_accepted_iff leapSunday _).mpr ⟨schedule, parsed, rfl⟩
  obtain ⟨columns, own, answers⟩ := fires leapSunday _ accepted
  obtain ⟨second, least, total⟩ := ((answers none _ era).1 _).mp fired
  have whole : second = 194443200 := by
    have nanos : (194443200000000000 : Int) = second * 1000000000 := total
    omega
  have five : (Text.words leapSunday.toList).length = 5 := by decide +kernel
  have tidy : Text.trim leapSunday = leapSunday := by decide +kernel
  have six : columnsOf ("0 " ++ Text.trim leapSunday) = some columns :=
    (completed leapSunday five).symm.trans own
  exact ⟨.cron schedule, columns, accepted, own, era, fired, whole ▸ least, five, tidy ▸ six,
    surrounded "\u3000" leapSunday "\n" (by decide +kernel) (by decide +kernel)⟩

end Trigger

end Foreman
