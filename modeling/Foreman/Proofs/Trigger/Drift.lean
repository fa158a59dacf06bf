import Foreman.Proofs.Trigger.CatchUp

set_option autoImplicit false

namespace Foreman.Interval

variable (interval : Interval)

-- What polls find, each of them asked behind the fire before, until one finds nothing.
def fire (polls : Nat → Instant) : Nat → Option Instant
  | 0 => interval.next none (polls 0)
  | count + 1 =>
      (fire polls count).bind fun last => interval.next (some last) (polls (count + 1))

-- Where the count begins: with the window, if that is still to come, or else one period from now.
def opening (now : Instant) : Int :=
  match interval.startAt with
  | some start => if now < start then start.nanos else now.nanos + interval.every.nanos
  | none => now.nanos + interval.every.nanos

structure Within (time : Instant) : Prop where
  begun : ∀ start ∈ interval.startAt, start ≤ time
  unended : ∀ last ∈ interval.endAt, time ≤ last

-- A fire so many whole steps behind the one before; the slots in between have passed.
structure Advances (last now later : Instant) (steps : Nat) : Prop where
  counted : 1 ≤ steps
  lands : later.nanos = interval.slot last steps
  skipped : ∀ step, 1 ≤ step → step < steps → interval.slot last step ≤ now.nanos

section Answers

variable (now time : Instant)

theorem next_some_iff (previous : Option Instant) :
    interval.next previous now = some time ↔
      interval.candidate previous now = some time ∧ interval.IsOpen now ∧
        ∀ last ∈ interval.endAt, time ≤ last := by
  cases bound : interval.endAt with
  | none => simp [next, IsOpen, bound]
  | some last =>
      have same : interval.IsOpen now ↔ now < last := by simp [IsOpen, bound]
      by_cases gone : last ≤ now
      · have closed : ¬ now < last := Int.not_lt.mpr gone
        simp [next, bound, same, gone, closed]
      · have early : now < last := Int.not_le.mp gone
        simp [next, bound, same, gone, early, Option.filter_eq_some_iff]

theorem opening_candidate :
    interval.candidate none now = Instant.ofNanos? (interval.opening now) := by
  cases starts : interval.startAt with
  | none => simp only [candidate, opening, starts, Instant.add?, Instant.addNanos?]
  | some start =>
      by_cases ahead : now < start
      · simp only [candidate, opening, starts, if_pos ahead, Instant.of_nanos_own]
      · simp only [candidate, opening, starts, if_neg ahead, Instant.add?, Instant.addNanos?]

theorem opening_begun (start : Instant) (begins : start ∈ interval.startAt) :
    start.nanos ≤ interval.opening now := by
  have positive := interval.every_positive
  rw [opening, Option.mem_def.mp begins]
  by_cases ahead : now < start
  · simp only [if_pos ahead]
    exact Int.le_refl start.nanos
  · simp only [if_neg ahead]
    change ¬ now.nanos < start.nanos at ahead
    omega

theorem first_fire_iff :
    interval.next none now = some time ↔
      time.nanos = interval.opening now ∧ interval.IsOpen now ∧
        ∀ last ∈ interval.endAt, time ≤ last := by
  rw [next_some_iff, opening_candidate, Instant.of_nanos_iff]

variable (last : Instant)

theorem candidate_advances (found : interval.candidate (some last) now = some time) :
    ∃ steps, interval.Advances last now time steps := by
  by_cases missed : interval.slot last 1 < now.nanos
  · obtain ⟨step, first⟩ := interval.first_slot_exists last now
    rw [interval.candidate_missed last now step first missed, Option.ite_none_left_eq_some] at found
    exact ⟨step, first.counted, Instant.of_nanos_nanos _ time found.2, first.passed⟩
  · rw [interval.candidate_reached last now (Int.not_lt.mp missed)] at found
    exact ⟨1, Nat.le_refl 1, Instant.of_nanos_nanos _ time found, fun step counted less => by omega⟩

theorem advances_later (steps : Nat) (advances : interval.Advances last now time steps) :
    last < time := by
  have ascending := interval.slots_ascend last 1 steps advances.counted
  have positive := interval.every_positive
  rw [slot_one] at ascending
  change last.nanos < time.nanos
  rw [advances.lands]
  omega

end Answers

section Polls

variable (polls : Nat → Instant)

theorem fire_later (count : Nat) (later : Instant)
    (answered : interval.fire polls (count + 1) = some later) :
    ∃ last, interval.fire polls count = some last ∧
      interval.next (some last) (polls (count + 1)) = some later :=
  Option.bind_eq_some_iff.mp answered

theorem fire_advances (count : Nat) (last later : Instant)
    (fired : interval.fire polls count = some last)
    (answered : interval.fire polls (count + 1) = some later) :
    ∃ steps, interval.Advances last (polls (count + 1)) later steps := by
  obtain ⟨own, before, found⟩ := interval.fire_later polls count later answered
  rw [fired, Option.some.injEq] at before
  subst before
  apply interval.candidate_advances
  exact ((interval.next_some_iff _ later (some last)).mp found).1

theorem fire_within (count : Nat) (time : Instant) (fired : interval.fire polls count = some time) :
    interval.Within time := by
  induction count generalizing time with
  | zero =>
      obtain ⟨total, _, unended⟩ := (interval.first_fire_iff (polls 0) time).mp fired
      refine ⟨fun start begins => ?_, unended⟩
      have begun := interval.opening_begun (polls 0) start begins
      change start.nanos ≤ time.nanos
      rw [total]
      exact begun
  | succ count ih =>
      obtain ⟨last, before, found⟩ := interval.fire_later polls count time fired
      obtain ⟨_, _, unended⟩ := (interval.next_some_iff _ time (some last)).mp found
      obtain ⟨steps, advances⟩ := interval.fire_advances polls count last time before fired
      refine ⟨fun start begins => ?_, unended⟩
      have begun := (ih last before).begun start begins
      have onward := interval.advances_later _ time last steps advances
      exact Int.le_trans begun (Int.le_of_lt onward)

-- Whole steps add up, so that the fires stay on the grid that the first of them begins.
theorem fire_grid (count : Nat) (first time : Instant) (opened : interval.fire polls 0 = some first)
    (fired : interval.fire polls count = some time) :
    ∃ steps, count ≤ steps ∧ time.nanos = interval.slot first steps := by
  induction count generalizing time with
  | zero =>
      rw [opened, Option.some.injEq] at fired
      subst fired
      exact ⟨0, Nat.le_refl 0, by simp [slot]⟩
  | succ count ih =>
      obtain ⟨last, before, _⟩ := interval.fire_later polls count time fired
      obtain ⟨steps, least, total⟩ := ih last before
      obtain ⟨more, advances⟩ := interval.fire_advances polls count last time before fired
      refine ⟨steps + more, Nat.add_le_add least advances.counted, ?_⟩
      rw [advances.lands, slot, slot, total, slot, Nat.cast_add]
      ring

theorem fire_ends (count : Nat) (last : Instant) (fired : interval.fire polls count = some last) :
    interval.fire polls (count + 1) = interval.next (some last) (polls (count + 1)) := by
  rw [fire, fired, Option.bind_some]

theorem fires_never_drift :
    (∀ first, interval.fire polls 0 = some first ↔
      first.nanos = interval.opening (polls 0) ∧ interval.IsOpen (polls 0) ∧
        ∀ last ∈ interval.endAt, first ≤ last) ∧
    (∀ count last later, interval.fire polls count = some last →
      interval.fire polls (count + 1) = some later →
        ∃ steps, interval.Advances last (polls (count + 1)) later steps) ∧
    (∀ count time, interval.fire polls count = some time → interval.Within time) ∧
    (∀ count first time, interval.fire polls 0 = some first → interval.fire polls count = some time →
      ∃ steps, count ≤ steps ∧ time.nanos = interval.slot first steps) ∧
    ∀ count last, interval.fire polls count = some last →
      ∃ step, interval.FirstSlot last (polls (count + 1)) step ∧
        (interval.fire polls (count + 1) = none ↔
          interval.Ended (polls (count + 1)) ∨ ¬ interval.Lands (some last) (polls (count + 1)) ∧
            (interval.Overruns last step ∨ interval.OffCalendar last step ∨
              Number.bound32 ≤ step)) := by
  refine ⟨interval.first_fire_iff (polls 0), interval.fire_advances polls,
    interval.fire_within polls, fun count first time => interval.fire_grid polls count first time, ?_⟩
  intro count last fired
  obtain ⟨step, first⟩ := interval.first_slot_exists last (polls (count + 1))
  refine ⟨step, first, ?_⟩
  rw [interval.fire_ends polls count last fired]
  exact interval.next_none_iff last (polls (count + 1)) step first

end Polls

def shift : Interval :=
  { halfMinute with
    startAt := some (atSecond 60)
    endAt := some (atSecond 300)
    ordered := by decide }

def latePolls (count : Nat) : Instant := atSecond (count * 200)

theorem late_shift_on_grid :
    (halfMinute.endingAt (atSecond 300)).bind (·.startingAt (atSecond 60)) = .ok shift ∧
      shift.fire latePolls 0 = some (atSecond 60) ∧
      shift.fire latePolls 1 = some (atSecond 210) ∧
      shift.Advances (atSecond 60) (latePolls 1) (atSecond 210) 5 ∧
      shift.Within (atSecond 210) ∧ shift.fire latePolls 2 = none := by
  have opened : shift.fire latePolls 0 = some (atSecond 60) := by decide +kernel
  have fired : shift.fire latePolls 1 = some (atSecond 210) := by decide +kernel
  obtain ⟨_, advances, within, _, ends⟩ := shift.fires_never_drift latePolls
  obtain ⟨steps, advance⟩ := advances 0 _ _ opened fired
  have counted : steps = 5 := by
    have lands : (210000000000 : Int) = 60000000000 + steps * 30000000000 := advance.lands
    omega
  obtain ⟨step, _, ended⟩ := ends 1 _ fired
  have gone : shift.fire latePolls 2 = none :=
    ended.mpr (.inl ⟨atSecond 300, rfl, by decide +kernel⟩)
  exact ⟨rfl, opened, fired, counted ▸ advance, within 1 _ fired, gone⟩

end Foreman.Interval
