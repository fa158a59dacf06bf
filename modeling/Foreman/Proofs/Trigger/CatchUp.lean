import Foreman.Proofs.Trigger.Onward
import Mathlib.Tactic.Ring

set_option autoImplicit false

namespace Foreman

namespace Instant

theorem since_later (later earlier : Instant) (order : earlier.nanos ≤ later.nanos) :
    ∃ span, later.since earlier = some span ∧ (span.nanos : Int) = later.nanos - earlier.nanos := by
  have top := later.upper
  have bottom := earlier.lower
  have short : (later.nanos - earlier.nanos).toNat < 18446744073709551616000000000 := by omega
  refine ⟨⟨(later.nanos - earlier.nanos).toNat, short⟩, ?_, by simp; omega⟩
  rw [since, if_neg (by omega), Span.ofNanos?, dif_pos short]

end Instant

namespace Interval

variable (interval : Interval) (previous now : Instant)

-- The time so many steps after the previous fire, be it on the calendar or not.
def slot (step : Nat) : Int := previous.nanos + step * interval.every.nanos

structure FirstSlot (step : Nat) : Prop where
  counted : 1 ≤ step
  ahead : now.nanos < interval.slot previous step
  passed : ∀ earlier, 1 ≤ earlier → earlier < step → interval.slot previous earlier ≤ now.nanos

def Ended : Prop := ∃ last ∈ interval.endAt, last ≤ now

def Overruns (step : Nat) : Prop := ∃ last ∈ interval.endAt, last.nanos < interval.slot previous step

def OffCalendar (step : Nat) : Prop := Instant.ofNanos? (interval.slot previous step) = none

theorem slot_later (step : Nat) :
    interval.slot previous (step + 1) = interval.slot previous step + interval.every.nanos := by
  rw [slot, slot, Nat.cast_succ]
  ring

theorem slot_one : interval.slot previous 1 = previous.nanos + interval.every.nanos := by
  rw [slot, Nat.cast_one, one_mul]

theorem add_every :
    previous.add? interval.every = Instant.ofNanos? (interval.slot previous 1) := by
  rw [slot_one]
  rfl

theorem slots_ascend (first second : Nat) (order : first ≤ second) :
    interval.slot previous first ≤ interval.slot previous second := by
  have positive := interval.every_positive
  have steps : (first : Int) ≤ second := by exact_mod_cast order
  have distance := Int.mul_le_mul_of_nonneg_right steps (Int.le_of_lt positive)
  rw [slot, slot]
  omega

theorem first_slot_next (ahead : now.nanos < interval.slot previous 1) :
    interval.FirstSlot previous now 1 :=
  ⟨Nat.le_refl 1, ahead, fun earlier counted less => by omega⟩

theorem first_slot_missed (elapsed : Nat) (length : (elapsed : Int) = now.nanos - previous.nanos) :
    interval.FirstSlot previous now (elapsed / interval.every.nanos + 1) := by
  have positive : 0 < interval.every.nanos := by
    have least := interval.least
    omega
  have beyond := Nat.lt_mul_div_succ elapsed positive
  have within := Nat.mul_div_le elapsed interval.every.nanos
  refine ⟨Nat.le_add_left 1 _, ?_, fun earlier _ less => ?_⟩
  · have reached : (elapsed : Int) <
        interval.every.nanos * (elapsed / interval.every.nanos + 1 : Nat) := by
      exact_mod_cast beyond
    rw [slot, mul_comm]
    omega
  · have ascending := interval.slots_ascend previous _ _ (Nat.le_of_lt_succ less)
    have passed : (interval.every.nanos * (elapsed / interval.every.nanos : Nat) : Int) ≤ elapsed := by
      exact_mod_cast within
    refine Int.le_trans ascending ?_
    rw [slot, mul_comm]
    omega

theorem first_slot_exists : ∃ step, interval.FirstSlot previous now step := by
  by_cases ahead : now.nanos < interval.slot previous 1
  · exact ⟨1, interval.first_slot_next previous now ahead⟩
  · have positive := interval.every_positive
    have order : previous.nanos ≤ now.nanos := by
      rw [slot] at ahead
      omega
    exact ⟨_, interval.first_slot_missed previous now (now.nanos - previous.nanos).toNat (by omega)⟩

theorem first_slot_unique (first second : Nat) (one : interval.FirstSlot previous now first)
    (other : interval.FirstSlot previous now second) : first = second := by
  rcases Nat.lt_trichotomy first second with less | same | less
  · have passed := other.passed first one.counted less
    have ahead := one.ahead
    omega
  · exact same
  · have passed := one.passed second other.counted less
    have ahead := other.ahead
    omega

-- From a time on the calendar, no distance to a time that lies less than one step past the present
-- one is too long.
theorem distance_short (elapsed : Nat) (length : (elapsed : Int) = now.nanos - previous.nanos)
    (missed : interval.slot previous 1 < now.nanos) :
    interval.every.nanos * (elapsed / interval.every.nanos + 1) ≤ longestStep := by
  have within := Nat.mul_div_le elapsed interval.every.nanos
  have top := now.upper
  have bottom := previous.lower
  rw [slot] at missed
  rw [longestStep, Nat.mul_add]
  omega

theorem catch_up_slot (step : Nat) (first : interval.FirstSlot previous now step)
    (missed : interval.slot previous 1 < now.nanos) :
    interval.catchUp previous now =
      if Number.bound32 ≤ step then none else Instant.ofNanos? (interval.slot previous step) := by
  have order : previous.nanos ≤ now.nanos := by
    have positive := interval.every_positive
    rw [slot] at missed
    omega
  obtain ⟨elapsed, since, length⟩ := Instant.since_later now previous order
  have counted := interval.first_slot_unique previous now _ step
    (interval.first_slot_missed previous now elapsed.nanos length) first
  have short := interval.distance_short previous now elapsed.nanos length missed
  simp only [catchUp, since, Option.bind_eq_bind, Option.bind_some]
  rw [counted] at short ⊢
  rw [if_neg (Nat.not_lt.mpr short), Instant.addNanos?, slot, Nat.cast_mul, mul_comm]

theorem candidate_missed (step : Nat) (first : interval.FirstSlot previous now step)
    (missed : interval.slot previous 1 < now.nanos) :
    interval.candidate (some previous) now =
      if Number.bound32 ≤ step then none else Instant.ofNanos? (interval.slot previous step) := by
  have bottom := previous.lower
  have positive := interval.every_positive
  have top := now.upper
  have next := interval.add_every previous
  cases made : Instant.ofNanos? (interval.slot previous 1) with
  | none =>
      have above : -8334601228800000000000 ≤ interval.slot previous 1 := by
        rw [slot_one]
        omega
      have beyond := Instant.of_nanos_none _ above made
      omega
  | some time =>
      have total := Instant.of_nanos_nanos _ time made
      have before : time < now := by
        change time.nanos < now.nanos
        omega
      simp only [candidate, next, made, Option.bind_eq_bind, Option.bind_some]
      rw [if_pos before]
      exact interval.catch_up_slot previous now step first missed

theorem candidate_reached (ahead : now.nanos ≤ interval.slot previous 1) :
    interval.candidate (some previous) now = Instant.ofNanos? (interval.slot previous 1) := by
  have next := interval.add_every previous
  cases made : Instant.ofNanos? (interval.slot previous 1) with
  | none => simp only [candidate, next, made, Option.bind_eq_bind, Option.bind_none]
  | some time =>
      have total := Instant.of_nanos_nanos _ time made
      have reached : ¬ time < now := by
        change ¬ time.nanos < now.nanos
        omega
      simp only [candidate, next, made, Option.bind_eq_bind, Option.bind_some]
      rw [if_neg reached]

theorem candidate_slot (step : Nat) (first : interval.FirstSlot previous now step)
    (moving : ¬ interval.Lands (some previous) now) :
    interval.candidate (some previous) now =
      if Number.bound32 ≤ step then none else Instant.ofNanos? (interval.slot previous step) := by
  by_cases missed : interval.slot previous 1 < now.nanos
  · exact interval.candidate_missed previous now step first missed
  · have apart : interval.slot previous 1 ≠ now.nanos := by
      intro same
      have here := (interval.add_every previous).trans ((Instant.of_nanos_iff _ now).mpr same.symm)
      exact moving ⟨previous, rfl, here⟩
    have single : step = 1 := interval.first_slot_unique previous now step 1 first
      (interval.first_slot_next previous now (by omega))
    rw [interval.candidate_reached previous now (by omega), single, if_neg (by decide)]

theorem landed_steps (step : Nat) (first : interval.FirstSlot previous now step)
    (lands : interval.Lands (some previous) now) : step = 2 := by
  obtain ⟨last, same, added⟩ := lands
  cases same
  have total : now.nanos = interval.slot previous 1 := by
    rw [slot_one]
    exact Instant.of_nanos_nanos _ now added
  have later : interval.slot previous 2 = interval.slot previous 1 + interval.every.nanos :=
    interval.slot_later previous 1
  have positive := interval.every_positive
  refine interval.first_slot_unique previous now step 2 first ⟨by omega, by omega, ?_⟩
  intro earlier counted less
  rw [show earlier = 1 by omega]
  omega

theorem next_none_iff (step : Nat) (first : interval.FirstSlot previous now step) :
    interval.next (some previous) now = none ↔
      interval.Ended now ∨ ¬ interval.Lands (some previous) now ∧
        (interval.Overruns previous step ∨ interval.OffCalendar previous step ∨
          Number.bound32 ≤ step) := by
  by_cases ended : interval.Ended now
  · obtain ⟨last, bound, past⟩ := ended
    simp only [next, Option.mem_def.mp bound, if_pos past, true_iff]
    exact .inl ⟨last, bound, past⟩
  · have inside : interval.IsOpen now := by
      intro last bound
      by_contra late
      exact ended ⟨last, bound, Int.not_lt.mp late⟩
    by_cases lands : interval.Lands (some previous) now
    · rw [interval.next_stalled (some previous) now ⟨lands, inside⟩]
      simp [ended, lands]
    · have slot := interval.candidate_slot previous now step first lands
      simp only [next, slot, ended, lands, false_or, not_false_eq_true, true_and]
      by_cases uncounted : Number.bound32 ≤ step
      · simp only [uncounted, or_true, iff_true]
        split
        · rfl
        · simp
      · simp only [uncounted, if_false, or_false, OffCalendar, Overruns]
        cases bound : interval.endAt with
        | none => simp
        | some last =>
            have early : ¬ last ≤ now := fun past => ended ⟨last, bound, past⟩
            simp only [if_neg early, Option.mem_some_iff, exists_eq_left']
            cases made : Instant.ofNanos? (interval.slot previous step) with
            | none => simp
            | some time =>
                have total := Instant.of_nanos_nanos _ time made
                simp only [Option.filter_eq_none_iff, Option.some.injEq, forall_eq',
                  decide_eq_true_eq, reduceCtorEq, or_false, ← total]
                exact Int.not_le

theorem endless_unended (endless : interval.endAt = none) (step : Nat) :
    ¬ interval.Ended now ∧ ¬ interval.Overruns previous step := by
  simp [Ended, Overruns, endless]

theorem late_interval_fires :
    ∃ step, interval.FirstSlot previous now step ∧
      (step < Number.bound32 → interval.next (some previous) now = none →
        interval.Ended now ∨ interval.Overruns previous step ∨ interval.OffCalendar previous step) ∧
      (step < Number.bound32 → interval.endAt = none → ¬ interval.OffCalendar previous step →
        ∃ time, interval.next (some previous) now = some time) ∧
      (Number.bound32 ≤ step → interval.next (some previous) now = none) := by
  obtain ⟨step, first⟩ := interval.first_slot_exists previous now
  have gives_up := interval.next_none_iff previous now step first
  refine ⟨step, first, ?_, ?_, ?_⟩
  · intro counted silent
    rcases gives_up.mp silent with ended | ⟨_, overruns | off | uncounted⟩
    · exact .inl ended
    · exact .inr (.inl overruns)
    · exact .inr (.inr off)
    · exact absurd uncounted (Nat.not_le.mpr counted)
  · intro counted endless on
    obtain ⟨open_, within⟩ := interval.endless_unended previous now endless step
    rw [← Option.ne_none_iff_exists']
    intro silent
    rcases gives_up.mp silent with ended | ⟨_, overruns | off | uncounted⟩
    · exact open_ ended
    · exact within overruns
    · exact on off
    · exact absurd uncounted (Nat.not_le.mpr counted)
  · intro uncounted
    refine gives_up.mpr (.inr ⟨?_, .inr (.inr uncounted)⟩)
    intro lands
    rw [interval.landed_steps previous now step first lands] at uncounted
    exact absurd uncounted (by decide)

theorem windowless_ordered :
    ∀ first ∈ (none : Option Instant), ∀ last ∈ (none : Option Instant), first ≤ last := by
  simp

def everyMillis (millis : Nat) (least : 1000000 ≤ (Span.ofMillis millis).nanos)
    (most : (Span.ofMillis millis).nanos ≤ 9223372036854775807000000) : Interval :=
  ⟨Span.ofMillis millis, none, none, least, most, windowless_ordered⟩

def halfMinute : Interval := everyMillis 30000 (by decide) (by decide)

def tick : Interval := everyMillis 1 (by decide) (by decide)

theorem decade_late_fires :
    halfMinute.FirstSlot Instant.epoch (atSecond 315360000) 10512001 ∧
      10512001 < Number.bound32 ∧
      ∃ time, halfMinute.next (some Instant.epoch) (atSecond 315360000) = some time := by
  obtain ⟨step, first, _, fires, _⟩ :=
    halfMinute.late_interval_fires Instant.epoch (atSecond 315360000)
  have counted : step = 10512001 := halfMinute.first_slot_unique _ _ step 10512001 first
    (halfMinute.first_slot_missed Instant.epoch (atSecond 315360000) 315360000000000000 (by decide))
  subst counted
  exact ⟨first, by decide, fires (by decide) rfl (by unfold OffCalendar; decide)⟩

theorem long_downtime_silences :
    ¬ ∀ (interval : Interval) (previous now : Instant) (step : Nat),
      interval.FirstSlot previous now step → interval.next (some previous) now = none →
        interval.Ended now ∨ interval.Overruns previous step ∨
          interval.OffCalendar previous step := by
  intro claimed
  have first := tick.first_slot_missed Instant.epoch (atSecond 5184000) 5184000000000000 (by decide)
  have silent : tick.next (some Instant.epoch) (atSecond 5184000) = none := by decide
  obtain ⟨unended, within⟩ := tick.endless_unended Instant.epoch (atSecond 5184000) rfl
    (5184000000000000 / tick.every.nanos + 1)
  rcases claimed tick Instant.epoch (atSecond 5184000) _ first silent with ended | overruns | off
  · exact unended ended
  · exact within overruns
  · exact absurd off (by unfold OffCalendar; decide)

end Interval

end Foreman
