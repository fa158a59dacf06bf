import Foreman.Proofs.Time.Years
import Foreman.Trigger.Cron
import Mathlib.Data.List.Pairwise
import Mathlib.Order.Bounds.Basic

set_option autoImplicit false

namespace Foreman

namespace Cron

theorem all_ascending (field : Field) : field.all.Pairwise (· < ·) := by
  rw [Field.all, List.pairwise_map]
  exact List.pairwise_lt_range.imp fun order => Nat.add_lt_add_right order field.low

theorem all_range (field : Field) (value : Nat) (member : value ∈ field.all) :
    field.low ≤ value ∧ value ≤ field.high := by
  rw [Field.all, List.mem_map] at member
  obtain ⟨offset, inside, total⟩ := member
  rw [List.mem_range] at inside
  omega

structure Field.Sorted (field : Field) (values : List Nat) : Prop where
  ascending : values.Pairwise (· < ·)
  range : ∀ value ∈ values, field.low ≤ value ∧ value ≤ field.high

theorem all_sorted (field : Field) : field.Sorted field.all :=
  ⟨all_ascending field, all_range field⟩

theorem filter_sorted (field : Field) (keep : Nat → Bool) : field.Sorted (field.all.filter keep) :=
  ⟨(all_ascending field).filter keep,
    fun value member => all_range field value (List.mem_filter.mp member).1⟩

theorem column_sorted (field : Field) (text rest : List Char) (values : List Nat)
    (read : readColumn field text = some (values, rest)) : field.Sorted values := by
  simp only [readColumn, Option.bind_eq_bind, Option.bind_eq_some_iff] at read
  obtain ⟨_, _, given, made, same⟩ := read
  obtain ⟨lists, _, filtered⟩ := Option.map_eq_some_iff.mp made
  cases same
  exact filtered ▸ filter_sorted field _

end Cron

namespace Columns

open Cron (Field)

structure Sorted (columns : Columns) : Prop where
  seconds : Field.second.Sorted columns.seconds
  minutes : Field.minute.Sorted columns.minutes
  hours : Field.hour.Sorted columns.hours
  years : Field.year.Sorted columns.years

theorem shorthand_sorted (entry : String × Columns) (member : entry ∈ shorthands) :
    entry.2.Sorted := by
  have zero (field : Field) (least : field.low = 0) : field.Sorted [0] :=
    ⟨List.pairwise_singleton _ _, by simp [least]⟩
  simp only [shorthands, List.mem_cons, List.not_mem_nil, or_false] at member
  rcases member with rfl | rfl | rfl | rfl | rfl
  all_goals
    refine ⟨zero _ rfl, zero _ rfl, ?_, Cron.all_sorted _⟩
    first
    | exact zero _ rfl
    | exact Cron.all_sorted _

theorem fields_sorted (text : List Char) (columns : Columns)
    (read : ofFields text = some columns) : columns.Sorted := by
  simp only [ofFields, Option.bind_eq_bind, Option.bind_eq_some_iff] at read
  obtain ⟨⟨seconds, _⟩, first, ⟨minutes, _⟩, second, ⟨hours, _⟩, third, ⟨days, _⟩, fourth,
    ⟨months, _⟩, fifth, ⟨weekdays, rest⟩, sixth, last⟩ := read
  split at last
  · cases last
    refine ⟨Cron.column_sorted _ _ _ _ first, Cron.column_sorted _ _ _ _ second,
      Cron.column_sorted _ _ _ _ third, ?_⟩
    cases years : Cron.readColumn Field.year rest with
    | none => exact Cron.all_sorted _
    | some column => exact Cron.column_sorted _ _ _ _ years
  · cases last

theorem text_sorted (text : List Char) (columns : Columns) (read : ofText text = some columns) :
    columns.Sorted := by
  unfold ofText at read
  dsimp only at read
  cases named : ofShorthand (completed text) with
  | none =>
      rw [named] at read
      exact fields_sorted _ columns read
  | some given =>
      rw [named] at read
      cases read
      obtain ⟨entry, found, rfl⟩ := Option.map_eq_some_iff.mp named
      exact shorthand_sorted entry (List.mem_of_find?_eq_some found)

def clocks (columns : Columns) : List Nat :=
  columns.hours.flatMap fun hour => columns.minutes.flatMap fun minute =>
    columns.seconds.map fun second => hour * 3600 + minute * 60 + second

theorem reached_find (times : List Nat) (start : Nat) :
    (times.findSome? fun time => if start ≤ time then some time else none) =
      times.find? fun time => decide (start ≤ time) := by
  induction times with
  | nil => rfl
  | cons time rest ih =>
      by_cases reached : start ≤ time
      · simp [reached]
      · simpa [reached] using ih

theorem find_least (times : List Nat) (ascending : times.Pairwise (· < ·)) (start time : Nat)
    (found : times.find? (fun time => decide (start ≤ time)) = some time) :
    IsLeast {other | other ∈ times ∧ start ≤ other} time := by
  obtain ⟨reached, before, after, split, early⟩ := List.find?_eq_some_iff_append.mp found
  refine ⟨⟨List.mem_of_find?_eq_some found, of_decide_eq_true reached⟩, ?_⟩
  rintro other ⟨member, late⟩
  rw [split, List.mem_append, List.mem_cons] at member
  rcases member with first | rfl | last
  · have refused := early other first
    simp [late] at refused
  · exact Nat.le_refl other
  · rw [split, List.pairwise_append] at ascending
    exact Nat.le_of_lt ((List.pairwise_cons.mp ascending.2.1).1 other last)

section Sorted

variable (columns : Columns) (sorted : columns.Sorted)

include sorted

theorem first_clock_find (start : Nat) :
    columns.firstClock start = columns.clocks.find? fun clock => decide (start ≤ clock) := by
  have inHour (hour : Nat) :
      (columns.minutes.findSome? fun minute => columns.seconds.findSome? fun second =>
        if start ≤ hour * 3600 + minute * 60 + second then
          some (hour * 3600 + minute * 60 + second) else none) =
      (columns.minutes.flatMap fun minute => columns.seconds.map fun second =>
        hour * 3600 + minute * 60 + second).find? fun clock => decide (start ≤ clock) := by
    rw [List.find?_flatMap]
    congr 1
    funext minute
    rw [← reached_find, List.findSome?_map]
    rfl
  rw [firstClock, clocks, List.find?_flatMap]
  dsimp only
  induction columns.hours with
  | nil => rfl
  | cons hour rest ih =>
      rw [List.findSome?_cons, List.findSome?_cons, ih, inHour hour]
      by_cases past : hour < start / 3600
      · have spent : (columns.minutes.flatMap fun minute => columns.seconds.map fun second =>
            hour * 3600 + minute * 60 + second).find? (fun clock => decide (start ≤ clock)) =
              none := by
          rw [List.find?_eq_none]
          intro clock member
          simp only [List.mem_flatMap, List.mem_map] at member
          obtain ⟨minute, inMinutes, second, inSeconds, rfl⟩ := member
          have minutes := (sorted.minutes.range minute inMinutes).2
          have seconds := (sorted.seconds.range second inSeconds).2
          change minute ≤ 59 at minutes
          change second ≤ 59 at seconds
          simp only [decide_eq_true_eq]
          omega
        rw [if_pos past, spent]
      · rw [if_neg past]

theorem clocks_ascending : columns.clocks.Pairwise (· < ·) := by
  rw [clocks, List.pairwise_flatMap]
  refine ⟨fun hour _ => ?_, sorted.hours.ascending.imp ?_⟩
  · rw [List.pairwise_flatMap]
    refine ⟨fun minute _ => ?_, sorted.minutes.ascending.imp ?_⟩
    · rw [List.pairwise_map]
      exact sorted.seconds.ascending.imp fun order => by omega
    · intro first second order clock inFirst other inSecond
      rw [List.mem_map] at inFirst inSecond
      obtain ⟨early, member, rfl⟩ := inFirst
      obtain ⟨late, _, rfl⟩ := inSecond
      have bound := (sorted.seconds.range early member).2
      change early ≤ 59 at bound
      omega
  · intro first second order clock inFirst other inSecond
    simp only [List.mem_flatMap, List.mem_map] at inFirst inSecond
    obtain ⟨minute, inMinutes, early, inSeconds, rfl⟩ := inFirst
    obtain ⟨_, _, late, _, rfl⟩ := inSecond
    have minutes := (sorted.minutes.range minute inMinutes).2
    have seconds := (sorted.seconds.range early inSeconds).2
    change minute ≤ 59 at minutes
    change early ≤ 59 at seconds
    omega

theorem clocks_iff (clock : Nat) : clock ∈ columns.clocks ↔ columns.matchesClock clock = true := by
  simp only [clocks, List.mem_flatMap, List.mem_map, matchesClock, Bool.and_eq_true,
    List.contains_iff_mem]
  constructor
  · rintro ⟨hour, inHours, minute, inMinutes, second, inSeconds, rfl⟩
    have minutes := (sorted.minutes.range minute inMinutes).2
    have seconds := (sorted.seconds.range second inSeconds).2
    change minute ≤ 59 at minutes
    change second ≤ 59 at seconds
    have ofHour : (hour * 3600 + minute * 60 + second) / 3600 = hour := by omega
    have ofMinute : (hour * 3600 + minute * 60 + second) / 60 % 60 = minute := by omega
    have ofSecond : (hour * 3600 + minute * 60 + second) % 60 = second := by omega
    rw [ofHour, ofMinute, ofSecond]
    exact ⟨⟨inHours, inMinutes⟩, inSeconds⟩
  · rintro ⟨⟨inHours, inMinutes⟩, inSeconds⟩
    exact ⟨_, inHours, _, inMinutes, _, inSeconds, by omega⟩

theorem clock_in_day (clock : Nat) (matching : columns.matchesClock clock = true) :
    clock < 86400 := by
  simp only [matchesClock, Bool.and_eq_true, List.contains_iff_mem] at matching
  have bound := (sorted.hours.range _ matching.1.1).2
  change clock / 3600 ≤ 23 at bound
  omega

theorem first_clock_least (start clock : Nat) (found : columns.firstClock start = some clock) :
    IsLeast {other | columns.matchesClock other = true ∧ start ≤ other} clock := by
  rw [first_clock_find columns sorted] at found
  have least := find_least _ (clocks_ascending columns sorted) start clock found
  simpa only [clocks_iff columns sorted] using least

theorem first_clock_none (start : Nat) (absent : columns.firstClock start = none) (clock : Nat)
    (matching : columns.matchesClock clock = true) : clock < start := by
  rw [first_clock_find columns sorted, List.find?_eq_none] at absent
  have refused := absent clock ((clocks_iff columns sorted clock).mpr matching)
  simpa using refused

end Sorted

section Days

variable (columns : Columns)

theorem first_day_least (count : Nat) (day later : Int)
    (found : columns.firstDay count day = some later) :
    IsLeast {other | columns.matchesDay other = true ∧ day ≤ other} later := by
  induction count generalizing day with
  | zero => cases found
  | succ count ih =>
      rw [firstDay] at found
      by_cases today : columns.matchesDay day = true
      · rw [if_pos today, Option.some.injEq] at found
        exact ⟨⟨found ▸ today, by omega⟩, fun other member => found ▸ member.2⟩
      · rw [if_neg today] at found
        obtain ⟨⟨matching, reached⟩, least⟩ := ih (day + 1) found
        refine ⟨⟨matching, by omega⟩, fun other ⟨fits, late⟩ => least ⟨fits, ?_⟩⟩
        have apart : other ≠ day := fun same => today (same ▸ fits)
        omega

theorem first_day_none (count : Nat) (day : Int) (absent : columns.firstDay count day = none)
    (other : Int) (late : day ≤ other) (within : other < day + count) :
    columns.matchesDay other = false := by
  induction count generalizing day with
  | zero => omega
  | succ count ih =>
      rw [firstDay] at absent
      by_cases today : columns.matchesDay day = true
      · rw [if_pos today] at absent
        cases absent
      · rw [if_neg today] at absent
        by_cases same : other = day
        · exact same ▸ Bool.eq_false_iff.mpr today
        · exact ih (day + 1) absent (by omega) (by omega)

theorem matching_day_le (sorted : columns.Sorted) (day : Int)
    (matching : columns.matchesDay day = true) : day ≤ lastDay := by
  simp only [matchesDay, Bool.and_eq_true, List.contains_iff_mem] at matching
  have bound := (sorted.years.range _ matching.2).2
  change (Date.ofDayNumber day).year.toNat ≤ 2100 at bound
  by_contra late
  have reached : (2101 : Int) ≤ (Date.ofDayNumber day).year :=
    (Date.year_reached_iff 2101 day).mpr (by
      have start : Date.newYear 2101 = lastDay + 1 := by decide
      omega)
  omega

end Days

section Earliest

variable (columns : Columns) (second : Int)

-- The times that are looked for: none of them lies before the year 1970.
def candidates : Set Int := {time | columns.matchesTime time = true ∧ max second 0 ≤ time}

theorem matches_time_iff (time : Int) :
    columns.matchesTime time = true ↔
      columns.matchesDay (time / 86400) = true ∧
        columns.matchesClock (time % 86400).toNat = true := by
  rw [matchesTime, Bool.and_eq_true]

theorem time_of_day (day : Int) (clock : Nat) (inDay : clock < 86400) :
    (day * 86400 + clock) / 86400 = day ∧ ((day * 86400 + clock) % 86400).toNat = clock := by
  omega

def restOfDay : Option Nat :=
  if columns.matchesDay (max second 0 / 86400) then
    columns.firstClock (max second 0 % 86400).toNat
  else none

theorem earliest_eq :
    columns.earliest second =
      match columns.restOfDay second with
      | some clock => some (max second 0 / 86400 * 86400 + clock)
      | none => (columns.firstDay (lastDay - max second 0 / 86400).toNat
          (max second 0 / 86400 + 1)).bind fun day =>
            (columns.firstClock 0).bind fun clock => some (day * 86400 + clock) := rfl

variable (sorted : columns.Sorted)

include sorted

theorem rest_least (clock : Nat) (found : columns.restOfDay second = some clock) :
    IsLeast (columns.candidates second) (max second 0 / 86400 * 86400 + clock) := by
  rw [restOfDay] at found
  by_cases today : columns.matchesDay (max second 0 / 86400) = true
  · rw [if_pos today] at found
    obtain ⟨⟨matching, reached⟩, least⟩ := first_clock_least columns sorted _ clock found
    have inDay := clock_in_day columns sorted clock matching
    obtain ⟨ofDay, ofClock⟩ := time_of_day (max second 0 / 86400) clock inDay
    refine ⟨⟨(matches_time_iff columns _).mpr ⟨ofDay.symm ▸ today, ofClock.symm ▸ matching⟩,
      by omega⟩, ?_⟩
    rintro other ⟨fits, late⟩
    have ofOther := ((matches_time_iff columns other).mp fits).2
    by_cases same : other / 86400 = max second 0 / 86400
    · have within := least ⟨ofOther, by omega⟩
      omega
    · omega
  · rw [if_neg today] at found
    cases found

theorem rest_none (absent : columns.restOfDay second = none) (other : Int)
    (candidate : other ∈ columns.candidates second) :
    max second 0 / 86400 + 1 ≤ other / 86400 := by
  obtain ⟨fits, late⟩ := candidate
  obtain ⟨ofDay, ofClock⟩ := (matches_time_iff columns other).mp fits
  by_contra early
  have same : other / 86400 = max second 0 / 86400 := by omega
  rw [restOfDay, if_pos (same ▸ ofDay)] at absent
  have before := first_clock_none columns sorted _ absent _ ofClock
  omega

theorem earliest_least (time : Int) (found : columns.earliest second = some time) :
    IsLeast (columns.candidates second) time := by
  rw [earliest_eq] at found
  cases rest : columns.restOfDay second with
  | some clock =>
      rw [rest] at found
      cases found
      exact rest_least columns second sorted clock rest
  | none =>
      rw [rest] at found
      simp only [Option.bind_eq_some_iff, Option.some.injEq] at found
      obtain ⟨day, onDay, clock, atClock, rfl⟩ := found
      obtain ⟨⟨ofDay, ahead⟩, first⟩ := first_day_least columns _ _ day onDay
      obtain ⟨⟨matching, _⟩, least⟩ := first_clock_least columns sorted 0 clock atClock
      have inDay := clock_in_day columns sorted clock matching
      obtain ⟨own, ownClock⟩ := time_of_day day clock inDay
      refine ⟨⟨(matches_time_iff columns _).mpr ⟨own.symm ▸ ofDay, ownClock.symm ▸ matching⟩,
        by omega⟩, ?_⟩
      intro other candidate
      have later := rest_none columns second sorted rest other candidate
      obtain ⟨otherDay, otherClock⟩ := (matches_time_iff columns other).mp candidate.1
      have days := first ⟨otherDay, later⟩
      have clocks := least ⟨otherClock, Nat.zero_le _⟩
      omega

theorem earliest_none (absent : columns.earliest second = none) :
    columns.candidates second = ∅ := by
  rw [earliest_eq] at absent
  cases rest : columns.restOfDay second with
  | some clock =>
      rw [rest] at absent
      cases absent
  | none =>
      rw [rest] at absent
      refine Set.eq_empty_of_forall_notMem fun other candidate => ?_
      have later := rest_none columns second sorted rest other candidate
      obtain ⟨otherDay, otherClock⟩ := (matches_time_iff columns other).mp candidate.1
      cases onDay : columns.firstDay (lastDay - max second 0 / 86400).toNat
          (max second 0 / 86400 + 1) with
      | none =>
          have last := matching_day_le columns sorted _ otherDay
          have refused := first_day_none columns _ _ onDay (other / 86400) later (by omega)
          rw [refused] at otherDay
          cases otherDay
      | some day =>
          rw [onDay, Option.bind_some, Option.bind_eq_none_iff] at absent
          cases atClock : columns.firstClock 0 with
          | none =>
              exact absurd (first_clock_none columns sorted 0 atClock _ otherClock)
                (Nat.not_lt_zero _)
          | some clock => cases absent clock atClock

theorem earliest_iff (time : Int) :
    columns.earliest second = some time ↔ IsLeast (columns.candidates second) time := by
  refine ⟨earliest_least columns second sorted time, fun least => ?_⟩
  cases found : columns.earliest second with
  | none =>
      have empty := earliest_none columns second sorted found
      rw [empty] at least
      exact absurd least.1 (Set.notMem_empty time)
  | some other =>
      rw [(earliest_least columns second sorted other found).unique least]

end Earliest

end Columns

end Foreman
