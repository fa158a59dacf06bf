import Foreman.Text.Blank
import Foreman.Time.Instant
import Foreman.Trigger.Field

set_option autoImplicit false

namespace Foreman

structure Columns where
  seconds : List Nat
  minutes : List Nat
  hours : List Nat
  days : List Nat
  months : List Nat
  weekdays : List Nat
  years : List Nat
deriving DecidableEq, Repr

namespace Columns

open Cron (Field readColumn skipGap)

def hourly : Columns :=
  ⟨[0], [0], Field.hour.all, Field.day.all, Field.month.all, Field.weekday.all, Field.year.all⟩

def daily : Columns := { hourly with hours := [0] }

def weekly : Columns := { daily with weekdays := [1] }

def monthly : Columns := { daily with days := [1] }

def yearly : Columns := { monthly with months := [1] }

def shorthands : List (String × Columns) :=
  [("@yearly", yearly), ("@monthly", monthly), ("@weekly", weekly), ("@daily", daily),
   ("@hourly", hourly)]

def ofShorthand (text : List Char) : Option Columns :=
  let word := (skipGap (skipGap text).reverse).reverse
  (shorthands.find? fun entry => entry.1.toList == word).map Prod.snd

def ofFields (text : List Char) : Option Columns := do
  let (seconds, rest) ← readColumn Field.second text
  let (minutes, rest) ← readColumn Field.minute rest
  let (hours, rest) ← readColumn Field.hour rest
  let (days, rest) ← readColumn Field.day rest
  let (months, rest) ← readColumn Field.month rest
  let (weekdays, rest) ← readColumn Field.weekday rest
  let (years, rest) := (readColumn Field.year rest).getD (Field.year.all, rest)
  if rest.isEmpty then some ⟨seconds, minutes, hours, days, months, weekdays, years⟩ else none

def completed (text : List Char) : List Char :=
  if Text.wordCount text = 5 then '0' :: ' ' :: text else text

def ofText (text : List Char) : Option Columns :=
  let full := completed text
  ofShorthand full <|> ofFields full

def matchesDay (columns : Columns) (day : Int) : Bool :=
  let date := Date.ofDayNumber day
  columns.months.contains date.month && columns.days.contains date.day &&
    columns.weekdays.contains (Date.weekday day) && columns.years.contains date.year.toNat

def matchesClock (columns : Columns) (second : Nat) : Bool :=
  columns.hours.contains (second / 3600) && columns.minutes.contains (second / 60 % 60) &&
    columns.seconds.contains (second % 60)

def matchesTime (columns : Columns) (second : Int) : Bool :=
  columns.matchesDay (second / 86400) && columns.matchesClock (second % 86400).toNat

def firstClock (columns : Columns) (start : Nat) : Option Nat :=
  columns.hours.findSome? fun hour =>
    if hour < start / 3600 then none
    else columns.minutes.findSome? fun minute =>
      columns.seconds.findSome? fun second =>
        let clock := hour * 3600 + minute * 60 + second
        if start ≤ clock then some clock else none

def firstDay (columns : Columns) : Nat → Int → Option Int
  | 0, _ => none
  | count + 1, day => if columns.matchesDay day then some day else firstDay columns count (day + 1)

def lastDay : Int := Date.toDayNumber ⟨2100, 12, 31⟩

def earliest (columns : Columns) (second : Int) : Option Int :=
  let start := max second 0
  let today := start / 86400
  let rest := if columns.matchesDay today then columns.firstClock (start % 86400).toNat else none
  match rest with
  | some clock => some (today * 86400 + clock)
  | none => do
      let day ← columns.firstDay (lastDay - today).toNat (today + 1)
      let clock ← columns.firstClock 0
      some (day * 86400 + clock)

end Columns

structure CronSchedule where
  expression : String
  columns : Columns
  parsed : Columns.ofText expression.toList = some columns

namespace CronSchedule

def parse (expression : String) : Option CronSchedule :=
  let trimmed := Text.trim expression
  match parsed : Columns.ofText trimmed.toList with
  | some columns => some ⟨trimmed, columns, parsed⟩
  | none => none

def next (schedule : CronSchedule) (now : Instant) : Option Instant :=
  let second := now.seconds + 1
  if (Date.ofDayNumber (second / 86400)).year < 0 then none
  else (schedule.columns.earliest second).bind fun second => Instant.ofUnix? second 0

end CronSchedule

end Foreman
