import Foreman.Proofs.Jobs.Table
import Foreman.Proofs.Time.Instant
import Foreman.Trigger.Basic

set_option autoImplicit false

namespace Foreman

namespace Instant

def Precedes (now : Instant) (answer : Option Instant) : Prop :=
  ∀ time, answer = some time → now < time

variable (now : Instant)

theorem precedes_none : now.Precedes none := by
  intro time answered
  cases answered

theorem precedes_some (time : Instant) (after : now < time) : now.Precedes (some time) := by
  intro other answered
  cases answered
  exact after

theorem precedes_earliest (a b : Option Instant) (first : now.Precedes a) (second : now.Precedes b) :
    now.Precedes (earliest? a b) := by
  intro time answered
  cases earliest_given a b time answered with
  | inl own => exact first time own
  | inr other => exact second time other

theorem precedes_filter (answer : Option Instant) (keep : Instant → Bool)
    (after : now.Precedes answer) : now.Precedes (answer.filter keep) := by
  intro time answered
  exact after time (Option.filter_eq_some_iff.mp answered).1

theorem precedes_added (nanos : Int) (positive : 0 < nanos) : now.Precedes (now.addNanos? nanos) := by
  intro time added
  have total := of_nanos_nanos _ time added
  change now.nanos < time.nanos
  omega

end Instant

namespace Interval

variable (interval : Interval) (previous : Option Instant) (now : Instant)

def Lands : Prop := ∃ last, previous = some last ∧ last.add? interval.every = some now

def IsOpen : Prop := ∀ last ∈ interval.endAt, now < last

def Stalls : Prop := interval.Lands previous now ∧ interval.IsOpen now

theorem every_positive : (0 : Int) < interval.every.nanos := by
  have least := interval.least
  omega

-- The steps reach beyond the time that has passed, since their number is rounded up.
theorem catch_up_after (last : Instant) : now.Precedes (interval.catchUp last now) := by
  intro time found
  simp only [catchUp, Option.bind_eq_bind, Option.bind_eq_some_iff] at found
  obtain ⟨elapsed, passed, rest⟩ := found
  have beyond := Nat.lt_mul_div_succ elapsed.nanos (show 0 < interval.every.nanos by
    have least := interval.least
    omega)
  have length : (elapsed.nanos : Int) = now.nanos - last.nanos := by
    unfold Instant.since Span.ofNanos? at passed
    split at passed
    · cases passed
    · split at passed
      · cases passed
        change (((now.nanos - last.nanos).toNat : Nat) : Int) = now.nanos - last.nanos
        omega
      · cases passed
  split at rest
  · cases rest
  · split at rest
    · cases rest
    · have total := Instant.of_nanos_nanos _ time rest
      change now.nanos < time.nanos
      omega

theorem unstarted_after : now.Precedes (interval.candidate none now) := by
  have added : now.Precedes (now.add? interval.every) :=
    now.precedes_added _ interval.every_positive
  cases starts : interval.startAt with
  | none => simpa only [candidate, starts] using added
  | some start =>
      simp only [candidate, starts]
      split
      · rename_i ahead
        exact now.precedes_some start ahead
      · exact added

theorem candidate_after (moving : ¬ interval.Lands previous now) :
    now.Precedes (interval.candidate previous now) := by
  cases previous with
  | none => exact interval.unstarted_after now
  | some last =>
      intro time found
      simp only [candidate, Option.bind_eq_bind, Option.bind_eq_some_iff] at found
      obtain ⟨slot, added, answer⟩ := found
      split at answer
      · exact interval.catch_up_after now last time answer
      · rename_i reached
        rw [Option.some.injEq] at answer
        rw [answer] at added reached
        have apart : time.nanos ≠ now.nanos := by
          intro same
          have here : time = now := Instant.nanos_injective same
          exact moving ⟨last, rfl, here ▸ added⟩
        change ¬ time.nanos < now.nanos at reached
        change now.nanos < time.nanos
        omega

theorem next_after (moving : ¬ interval.Stalls previous now) :
    now.Precedes (interval.next previous now) := by
  unfold next
  split
  · rename_i boundless
    refine interval.candidate_after previous now fun lands => moving ⟨lands, ?_⟩
    simp [IsOpen, boundless]
  · rename_i last bound
    split
    · exact now.precedes_none
    · rename_i early
      refine now.precedes_filter _ _ (interval.candidate_after previous now fun lands =>
        moving ⟨lands, ?_⟩)
      intro stop ends
      rw [bound, Option.mem_some_iff] at ends
      subst ends
      exact Int.not_le.mp early

theorem next_stalled (stalls : interval.Stalls previous now) :
    interval.next previous now = some now := by
  obtain ⟨⟨last, rfl, slot⟩, inside⟩ := stalls
  have stays : interval.candidate (some last) now = some now := by
    simp only [candidate, slot, Option.bind_eq_bind, Option.bind_some]
    exact if_neg (Int.lt_irrefl now.nanos)
  unfold next
  split
  · exact stays
  · rename_i stop bound
    have early : now < stop := inside stop (by simp [bound])
    have ahead : ¬ stop ≤ now := Int.not_le.mpr early
    have within : now ≤ stop := Int.le_of_lt early
    simp [ahead, stays, within]

end Interval

namespace Columns

variable (columns : Columns)

theorem first_clock_after (start clock : Nat) (found : columns.firstClock start = some clock) :
    start ≤ clock := by
  obtain ⟨hour, _, inHour⟩ := List.exists_of_findSome?_eq_some found
  split at inHour
  · cases inHour
  · obtain ⟨minute, _, inMinute⟩ := List.exists_of_findSome?_eq_some inHour
    obtain ⟨second, _, reached⟩ := List.exists_of_findSome?_eq_some inMinute
    simp only [Option.ite_none_right_eq_some, Option.some.injEq] at reached
    omega

theorem first_day_after (count : Nat) (day later : Int)
    (found : columns.firstDay count day = some later) : day ≤ later := by
  induction count generalizing day with
  | zero => cases found
  | succ count ih =>
      unfold firstDay at found
      split at found
      · rw [Option.some.injEq] at found
        omega
      · have further := ih (day + 1) found
        omega

theorem earliest_after (second later : Int) (found : columns.earliest second = some later) :
    second ≤ later := by
  unfold earliest at found
  dsimp only at found
  split at found
  · rename_i clock inToday
    cases found
    split at inToday
    · have reached := columns.first_clock_after _ clock inToday
      omega
    · cases inToday
  · simp only [Option.bind_eq_bind, Option.bind_eq_some_iff] at found
    obtain ⟨day, onDay, clock, atClock, total⟩ := found
    have reached := columns.first_day_after _ _ day onDay
    rw [Option.some.injEq] at total
    omega

end Columns

theorem CronSchedule.next_after (schedule : CronSchedule) (now : Instant) :
    now.Precedes (schedule.next now) := by
  intro time found
  unfold next at found
  dsimp only at found
  split at found
  · cases found
  · obtain ⟨second, earliest, made⟩ := Option.bind_eq_some_iff.mp found
    have reached := schedule.columns.earliest_after _ second earliest
    have total := Instant.of_nanos_nanos _ time made
    unfold Instant.seconds at reached
    change now.nanos < time.nanos
    omega

namespace Trigger

theorem date_after (time : Instant) (previous : Option Instant) (now : Instant) :
    now.Precedes ((Trigger.date time).next previous now) := by
  rw [next]
  split
  · exact now.precedes_none
  · rename_i ahead
    exact now.precedes_some time (Int.not_le.mp fun passed => ahead (.inr passed))

-- A trigger that has never fired cannot stall, and neither can one that asks its children so.
mutual

theorem unfired_after (trigger : Trigger) (now : Instant) :
    now.Precedes (trigger.next none now) := by
  cases trigger with
  | date time => exact date_after time none now
  | interval period =>
      rw [next]
      refine period.next_after none now ?_
      rintro ⟨⟨last, fired, _⟩, _⟩
      cases fired
  | cron schedule =>
      rw [next]
      exact schedule.next_after now
  | any first others =>
      rw [next]
      exact now.precedes_earliest _ _ (unfired_after first now) (all_unfired_after others now)

theorem all_unfired_after (triggers : List Trigger) (now : Instant) :
    now.Precedes (nextOf triggers now) := by
  cases triggers with
  | nil => exact now.precedes_none
  | cons trigger rest =>
      rw [nextOf]
      exact now.precedes_earliest _ _ (unfired_after trigger now) (all_unfired_after rest now)

end

def Stalls : Trigger → Option Instant → Instant → Prop
  | .interval period, previous, now => period.Stalls previous now
  | _, _, _ => False

theorem next_after (trigger : Trigger) (previous : Option Instant) (now : Instant)
    (moving : ¬ trigger.Stalls previous now) : now.Precedes (trigger.next previous now) := by
  cases trigger with
  | date time => exact date_after time previous now
  | interval period =>
      rw [next]
      exact period.next_after previous now moving
  | cron schedule =>
      rw [next]
      exact schedule.next_after now
  | any first others =>
      rw [next, ← next]
      exact unfired_after (.any first others) now

theorem next_stalled (trigger : Trigger) (previous : Option Instant) (now : Instant)
    (stalls : trigger.Stalls previous now) : trigger.next previous now = some now := by
  cases trigger with
  | interval period =>
      rw [next]
      exact period.next_stalled previous now stalls
  | date _ => exact stalls.elim
  | cron _ => exact stalls.elim
  | any _ _ => exact stalls.elim

end Trigger

theorem Job.fired_due (job : Job) (now : Instant) (enabled : job.definition.enabled = true) :
    (∃ isActive, (job.fired now).isDue now isActive = true) ↔
      job.definition.trigger.Stalls job.nextFireAt now := by
  constructor
  · rintro ⟨isActive, due⟩
    by_contra moving
    have after := job.definition.trigger.next_after job.nextFireAt now moving
    unfold isDue fired at due
    dsimp only at due
    split at due
    · cases due
    · rename_i time answer
      have ahead : now.nanos < time.nanos := after time answer
      simp only [Bool.and_eq_true, decide_eq_true_eq] at due
      have reached : time.nanos ≤ now.nanos := due.1.2
      omega
  · intro stalls
    refine ⟨fun _ => false, ?_⟩
    have here := job.definition.trigger.next_stalled job.nextFireAt now stalls
    have reached : now ≤ now := Int.le_refl now.nanos
    simp [isDue, fired, inFlight, here, enabled, reached]

theorem fires_onward (now : Instant) :
    (∀ (trigger : Trigger) (previous : Option Instant),
      (trigger.Stalls previous now → trigger.next previous now = some now) ∧
        (¬ trigger.Stalls previous now →
          ∀ time, trigger.next previous now = some time → now < time)) ∧
      ∀ (table : JobTable) (isActive : TaskId → Bool), table.ids.Nodup →
        ∀ due ∈ (table.takeDue now isActive).2, ∃ job later,
          table.find? due.id = some job ∧
            (table.takeDue now isActive).1.find? due.id = some later ∧
            ((∃ activity, later.isDue now activity = true) ↔
              job.definition.trigger.Stalls (some due.scheduledFor) now) := by
  refine ⟨fun trigger previous =>
    ⟨trigger.next_stalled previous now, trigger.next_after previous now⟩, ?_⟩
  intro table isActive distinct due member
  obtain ⟨job, found, ready, planned, advanced⟩ :=
    table.take_due_advanced now isActive distinct due member
  refine ⟨job, job.fired now, found, advanced, ?_⟩
  rw [← planned]
  refine job.fired_due now ?_
  simp only [Job.isDue, planned, Bool.and_eq_true] at ready
  exact ready.1.1

def beat : Trigger := (Trigger.every (Span.ofMillis 30000)).toOption.getD default

def beatJob : JobDefinition := ⟨"beat", beat, Request.new "tasks:beat", true⟩

def atSecond (second : Int) : Instant := (Instant.ofUnix? second 0).getD Instant.epoch

theorem late_beat_moves_on :
    let table := (JobTable.empty.upsert beatJob Instant.epoch).1
    table.ids.Nodup ∧ ∃ later,
      (table.takeDue (atSecond 89) fun _ => false).1.find? "beat" = some later ∧
        later.nextFireAt = some (atSecond 90) ∧
        ¬ ∃ activity, later.isDue (atSecond 89) activity = true := by
  intro table
  have distinct : table.ids.Nodup := by decide +kernel
  have moving : ¬ beat.Stalls (some (atSecond 30)) (atSecond 89) := by
    intro stalls
    exact absurd ((fires_onward (atSecond 89)).1 beat _ |>.1 stalls) (by decide +kernel)
  obtain ⟨job, later, found, taken, again⟩ := (fires_onward (atSecond 89)).2 table (fun _ => false)
    distinct ⟨"beat", atSecond 30, Request.new "tasks:beat"⟩ (List.mem_singleton_self _)
  cases found
  refine ⟨distinct, later, taken, ?_, fun due => moving (again.mp due)⟩
  cases taken
  decide +kernel

theorem beat_stalls :
    (¬ ∀ (trigger : Trigger) (previous : Option Instant) (now time : Instant),
      trigger.next previous now = some time → now < time) ∧
      ¬ ∀ (table : JobTable) (now : Instant) (isActive : TaskId → Bool),
        ∀ due ∈ (table.takeDue now isActive).2, ∀ later,
          (table.takeDue now isActive).1.find? due.id = some later →
            later.isDue now isActive = false := by
  constructor
  · intro onward
    have same : beat.next (some (atSecond 30)) (atSecond 60) = some (atSecond 60) := by
      decide +kernel
    exact absurd (onward beat _ _ _ same) (by decide +kernel)
  · intro onward
    have idle := onward (JobTable.empty.upsert beatJob Instant.epoch).1 (atSecond 60)
      (fun _ => false) ⟨"beat", atSecond 30, Request.new "tasks:beat"⟩ (List.mem_singleton_self _)
      _ rfl
    exact absurd idle (by decide +kernel)

end Foreman
