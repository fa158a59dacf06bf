import Foreman.Proofs.Trigger.Drift
import Foreman.Proofs.Trigger.Series

set_option autoImplicit false

namespace Foreman

open Instant (NoLater)

namespace Interval

variable (interval : Interval) (previous now later : Instant)

theorem opening_onward (order : now ≤ later) : interval.opening now ≤ interval.opening later := by
  have positive := interval.every_positive
  change now.nanos ≤ later.nanos at order
  rw [opening, opening]
  cases interval.startAt with
  | none =>
      simp only
      omega
  | some start =>
      simp only
      by_cases ahead : later < start
      · have before : now < start := Int.lt_of_le_of_lt order ahead
        rw [if_pos ahead, if_pos before]
      · rw [if_neg ahead]
        change ¬ later.nanos < start.nanos at ahead
        split <;> omega

theorem opening_above : -8334601228800000000000 ≤ interval.opening now := by
  have positive := interval.every_positive
  have bottom := now.lower
  rw [opening]
  cases interval.startAt with
  | none =>
      simp only
      omega
  | some start =>
      have floor := start.lower
      simp only
      split <;> omega

theorem first_slot_onward (order : now ≤ later) (first second : Nat)
    (one : interval.FirstSlot previous now first)
    (other : interval.FirstSlot previous later second) : first ≤ second := by
  by_contra fewer
  have passed := one.passed second other.counted (Nat.not_le.mp fewer)
  have ahead := other.ahead
  change now.nanos ≤ later.nanos at order
  omega

-- Where slots have been missed, a time no later than the first slot that is left counts as sooner than
-- the answer, which may also run out of its count.
theorem missed_behind (step : Nat) (first : interval.FirstSlot previous now step)
    (missed : interval.slot previous 1 < now.nanos) (total : Int)
    (above : -8334601228800000000000 ≤ total) (before : total ≤ interval.slot previous step) :
    NoLater (Instant.ofNanos? total) (interval.candidate (some previous) now) := by
  rw [interval.candidate_missed previous now step first missed]
  by_cases uncounted : Number.bound32 ≤ step
  · rw [if_pos uncounted]
    exact Instant.no_later_none _
  · rw [if_neg uncounted]
    exact Instant.no_later_nanos _ _ before above

theorem slot_above (step : Nat) (counted : 1 ≤ step) :
    -8334601228800000000000 ≤ interval.slot previous step := by
  have ascending := interval.slots_ascend previous 1 step counted
  have single := interval.slot_one previous
  have positive := interval.every_positive
  have bottom := previous.lower
  omega

theorem missed_no_later (order : now ≤ later) (missed : interval.slot previous 1 < now.nanos) :
    NoLater (interval.candidate (some previous) now) (interval.candidate (some previous) later) := by
  have still : interval.slot previous 1 < later.nanos := Int.lt_of_lt_of_le missed order
  obtain ⟨first, one⟩ := interval.first_slot_exists previous now
  obtain ⟨second, other⟩ := interval.first_slot_exists previous later
  have steps := interval.first_slot_onward previous now later order first second one other
  rw [interval.candidate_missed previous now first one missed]
  by_cases uncounted : Number.bound32 ≤ first
  · rw [if_pos uncounted, interval.candidate_missed previous later second other still,
      if_pos (Nat.le_trans uncounted steps)]
    exact Instant.no_later_none _
  · rw [if_neg uncounted]
    apply interval.missed_behind previous later second other still
    · exact interval.slot_above previous first one.counted
    · exact interval.slots_ascend previous first second steps

theorem reached_no_later (reached : now.nanos ≤ interval.slot previous 1) :
    NoLater (interval.candidate (some previous) now) (interval.candidate (some previous) later) := by
  rw [interval.candidate_reached previous now reached]
  by_cases missed : interval.slot previous 1 < later.nanos
  · obtain ⟨step, first⟩ := interval.first_slot_exists previous later
    apply interval.missed_behind previous later step first missed
    · exact interval.slot_above previous 1 (Nat.le_refl 1)
    · exact interval.slots_ascend previous 1 step first.counted
  · rw [interval.candidate_reached previous later (Int.not_lt.mp missed)]
    exact Instant.no_later_refl _

theorem candidate_no_later (order : now ≤ later) (previous : Option Instant) :
    NoLater (interval.candidate previous now) (interval.candidate previous later) := by
  cases previous with
  | none =>
      rw [opening_candidate, opening_candidate]
      apply Instant.no_later_nanos
      · exact interval.opening_onward now later order
      · exact interval.opening_above now
  | some last =>
      by_cases missed : interval.slot last 1 < now.nanos
      · exact interval.missed_no_later last now later order missed
      · exact interval.reached_no_later last now later (Int.not_lt.mp missed)

theorem next_no_later (order : now ≤ later) (previous : Option Instant) :
    NoLater (interval.next previous now) (interval.next previous later) := by
  intro time answered
  obtain ⟨found, inside, unended⟩ := (interval.next_some_iff later time previous).mp answered
  obtain ⟨sooner, own, before⟩ := interval.candidate_no_later now later order previous time found
  refine ⟨sooner, (interval.next_some_iff now sooner previous).mpr ⟨own, ?_, ?_⟩, before⟩
  · intro last ends
    exact Int.lt_of_le_of_lt order (inside last ends)
  · intro last ends
    exact Int.le_trans before (unended last ends)

end Interval

theorem CronSchedule.next_no_later (schedule : CronSchedule) (now later : Instant)
    (order : now ≤ later) (era : now.InEra) :
    NoLater (schedule.next now) (schedule.next later) := by
  intro time answered
  have after := Instant.era_later now later order era
  have own := (schedule.next_first later time after).mp answered
  have ahead : now < time := Int.lt_of_le_of_lt order own.after
  obtain ⟨first, least⟩ := Instant.first_exists schedule.Times now time own.listed ahead
  exact ⟨first, (schedule.next_first now first era).mpr least, least.least time own.listed ahead⟩

namespace Trigger

theorem date_no_later (run now later : Instant) (order : now ≤ later) (previous : Option Instant) :
    NoLater ((Trigger.date run).next previous now) ((Trigger.date run).next previous later) := by
  rw [next, next]
  by_cases gone : previous.isSome = true ∨ run ≤ later
  · rw [if_pos gone]
    exact Instant.no_later_none _
  · have ahead : ¬ (previous.isSome = true ∨ run ≤ now) := by
      intro past
      apply gone
      cases past with
      | inl fired => exact .inl fired
      | inr passed => exact .inr (Int.le_trans passed order)
    rw [if_neg gone, if_neg ahead]
    exact Instant.no_later_refl _

mutual

theorem next_no_later (trigger : Trigger) (previous : Option Instant) (now later : Instant)
    (order : now ≤ later) (era : now.InEra) :
    NoLater (trigger.next previous now) (trigger.next previous later) := by
  cases trigger with
  | date run => exact date_no_later run now later order previous
  | interval period =>
      rw [next, next]
      exact period.next_no_later now later order previous
  | cron schedule =>
      rw [next, next]
      exact schedule.next_no_later now later order era
  | any first others =>
      rw [next, next]
      apply Instant.no_later_earliest
      · exact next_no_later first none now later order era
      · exact all_no_later others now later order era

theorem all_no_later (triggers : List Trigger) (now later : Instant) (order : now ≤ later)
    (era : now.InEra) : NoLater (nextOf triggers now) (nextOf triggers later) := by
  cases triggers with
  | nil => exact Instant.no_later_refl _
  | cons trigger rest =>
      rw [nextOf, nextOf]
      apply Instant.no_later_earliest
      · exact next_no_later trigger none now later order era
      · exact all_no_later rest now later order era

end

theorem waiting_never_hastens (trigger : Trigger) (previous : Option Instant) (now later : Instant)
    (order : now ≤ later) (era : now.InEra) :
    NoLater (trigger.next previous now) (trigger.next previous later) ∧
      (trigger.next previous now = none → trigger.next previous later = none) := by
  have answers := next_no_later trigger previous now later order era
  exact ⟨answers, Instant.no_later_absent _ _ answers⟩

def morning : Trigger := .any (.interval Interval.shift) [.date (atSecond 400)]

def wholeDay : Trigger := .any (.cron everyHour) [morning]

theorem morning_waited_out :
    atSecond 100 ≤ atSecond 350 ∧ (atSecond 100).InEra ∧
      wholeDay.next none (atSecond 100) = some (atSecond 130) ∧
      (∀ time, wholeDay.next none (atSecond 350) = some time → atSecond 130 ≤ time) ∧
      morning.next none (atSecond 400) = none ∧ morning.next none (atSecond 90000) = none := by
  have order : atSecond 100 ≤ atSecond 350 := by decide +kernel
  have era : (atSecond 100).InEra := by
    unfold Instant.InEra
    decide +kernel
  have sooner : wholeDay.next none (atSecond 100) = some (atSecond 130) := by decide +kernel
  obtain ⟨answers, _⟩ := waiting_never_hastens wholeDay none _ (atSecond 350) order era
  have onward (time : Instant) (answered : wholeDay.next none (atSecond 350) = some time) :
      atSecond 130 ≤ time := by
    obtain ⟨own, found, before⟩ := answers time answered
    rw [sooner, Option.some.injEq] at found
    exact found ▸ before
  have gone : morning.next none (atSecond 400) = none := by decide +kernel
  have done : morning.next none (atSecond 90000) = none :=
    (waiting_never_hastens morning none (atSecond 400) _ (by decide +kernel) (by
      unfold Instant.InEra
      decide +kernel)).2 gone
  exact ⟨order, era, sooner, onward, gone, done⟩

end Trigger

end Foreman
