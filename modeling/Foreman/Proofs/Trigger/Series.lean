import Foreman.Proofs.Trigger.CatchUp
import Foreman.Proofs.Trigger.Orbit
import Foreman.Proofs.Trigger.Search

set_option autoImplicit false

namespace Foreman

open Instant (FirstAfter Orbit)

namespace Interval

variable (interval : Interval) (now time : Instant)

def Begun : Prop := ∀ start ∈ interval.startAt, start ≤ time

theorem unstarted_begun (answered : interval.candidate none now = some time) :
    interval.Begun time := by
  intro start begins
  simp only [candidate, Option.mem_def.mp begins] at answered
  by_cases ahead : now < start
  · rw [if_pos ahead, Option.some.injEq] at answered
    exact answered ▸ Int.le_refl start.nanos
  · rw [if_neg ahead] at answered
    have total := Instant.of_nanos_nanos _ time answered
    have positive := interval.every_positive
    change ¬ now.nanos < start.nanos at ahead
    change start.nanos ≤ time.nanos
    omega

theorem fire_begun (answered : interval.next none now = some time) : interval.Begun time := by
  unfold next at answered
  split at answered
  · exact interval.unstarted_begun now time answered
  · split at answered
    · cases answered
    · exact interval.unstarted_begun now time (Option.filter_eq_some_iff.mp answered).1

theorem candidate_on_time (begun : interval.Begun time) :
    interval.candidate (some time) time = interval.candidate none time := by
  have anew : interval.candidate none time = time.add? interval.every := by
    cases starts : interval.startAt with
    | none => simp only [candidate, starts]
    | some start =>
        have past : ¬ time < start := Int.not_lt.mpr (begun start (by simp [starts]))
        simp only [candidate, starts, if_neg past]
  rw [anew]
  cases added : time.add? interval.every with
  | none => simp [candidate, added]
  | some slot =>
      have total := Instant.of_nanos_nanos _ slot added
      have positive := interval.every_positive
      have ahead : ¬ slot < time := by
        change ¬ slot.nanos < time.nanos
        omega
      simp [candidate, added, ahead]

theorem next_on_time (begun : interval.Begun time) :
    interval.next (some time) time = interval.next none time := by
  simp only [next, interval.candidate_on_time time begun]

end Interval

namespace Trigger

def Fires (trigger : Trigger) (start time : Instant) : Prop :=
  ∃ count, some time ∈ trigger.series Span.zero count none start

theorem next_on_time (trigger : Trigger) (now time : Instant)
    (fired : trigger.next none now = some time) :
    trigger.next (some time) time = trigger.next none time := by
  cases trigger with
  | date run =>
      rw [next, Option.ite_none_left_eq_some] at fired
      have same := Option.some.inj fired.2
      have reached : run ≤ time := same ▸ Int.le_refl run.nanos
      rw [next, next, if_pos (.inl rfl), if_pos (.inr reached)]
  | interval period =>
      rw [next] at fired
      rw [next, next, period.next_on_time time (period.fire_begun now time fired)]
  | cron schedule => rw [next, next]
  | any first others => rw [next, next]

theorem add_nothing (time : Instant) : (time.add? Span.zero).getD time = time := by
  have same : time.nanos + ((0 : Nat) : Int) = time.nanos := by omega
  have added : time.add? Span.zero = some time := by
    unfold Instant.add? Instant.addNanos? Instant.ofNanos?
    simp only [Span.zero, same]
    exact dif_pos ⟨time.lower, time.upper⟩
  rw [added, Option.getD_some]

theorem series_orbit (trigger : Trigger) (count : Nat) (previous : Option Instant)
    (now time : Instant) (onTime : trigger.next previous now = trigger.next none now)
    (listed : some time ∈ trigger.series Span.zero count previous now) :
    Orbit (trigger.next none) now time := by
  induction count generalizing previous now with
  | zero => cases listed
  | succ count ih =>
      rw [series, onTime] at listed
      cases answered : trigger.next none now with
      | none =>
          rw [answered] at listed
          simp at listed
      | some fire =>
          rw [answered] at listed
          simp only [add_nothing] at listed
          rcases List.mem_cons.mp listed with same | later
          · exact .first time (answered.trans same.symm)
          · exact Instant.orbit_prepend _ now fire time answered
              (ih (some fire) fire (trigger.next_on_time now fire answered) later)

theorem orbit_series (trigger : Trigger) (previous : Option Instant) (now time : Instant)
    (onTime : trigger.next previous now = trigger.next none now)
    (reached : Orbit (trigger.next none) now time) :
    ∃ count, some time ∈ trigger.series Span.zero count previous now := by
  obtain ⟨fire, answered, rest⟩ := Instant.orbit_head _ now time reached
  have opened (count : Nat) : trigger.series Span.zero (count + 1) previous now =
      some fire :: trigger.series Span.zero count (some fire) fire := by
    rw [series, onTime, answered]
    simp only [add_nothing]
  rcases rest with rfl | beyond
  · exact ⟨1, by rw [opened]; exact List.mem_cons_self⟩
  · obtain ⟨count, listed⟩ := orbit_series trigger (some fire) fire time
      (trigger.next_on_time now fire answered) beyond
    exact ⟨count + 1, by rw [opened]; exact List.mem_cons_of_mem _ listed⟩
termination_by (time.nanos - now.nanos).toNat
decreasing_by
  have ahead : now.nanos < fire.nanos := unfired_after trigger now fire answered
  have before : fire.nanos < time.nanos :=
    Instant.orbit_after _ (unfired_after trigger) fire time beyond
  omega

theorem fires_orbit (trigger : Trigger) (start time : Instant) :
    trigger.Fires start time ↔ Orbit (trigger.next none) start time :=
  ⟨fun ⟨count, listed⟩ => series_orbit trigger count none start time rfl listed,
    orbit_series trigger none start time rfl⟩

theorem fires_after (trigger : Trigger) (start time : Instant) (fires : trigger.Fires start time) :
    start < time :=
  Instant.orbit_after _ (unfired_after trigger) start time ((fires_orbit trigger start time).mp fires)

end Trigger

namespace Instant

-- The second after a time is not before the year 0, where no cron schedule fires.
def InEra (time : Instant) : Prop := 0 ≤ (Date.ofDayNumber ((time.seconds + 1) / 86400)).year

theorem era_later (start now : Instant) (order : start ≤ now) (era : start.InEra) : now.InEra := by
  rw [InEra, Date.year_reached_iff] at era ⊢
  change start.nanos ≤ now.nanos at order
  refine era.trans ?_
  unfold seconds
  omega

end Instant

namespace CronSchedule

variable (schedule : CronSchedule)

def Times (time : Instant) : Prop :=
  ∃ second, schedule.columns.matchesTime second = true ∧ 0 ≤ second ∧
    time.nanos = second * 1000000000

theorem matching_instant (second : Int) (matching : schedule.columns.matchesTime second = true)
    (positive : 0 ≤ second) : ∃ time : Instant, time.nanos = second * 1000000000 := by
  have sorted := Columns.text_sorted _ _ schedule.parsed
  have day := ((Columns.matches_time_iff _ second).mp matching).1
  have last := Columns.matching_day_le _ sorted _ day
  have number : Columns.lastDay = 47846 := by decide
  rw [number] at last
  exact ⟨⟨second * 1000000000, by omega, by omega⟩, rfl⟩

theorem next_searched (now : Instant) (era : now.InEra) :
    schedule.next now =
      (schedule.columns.earliest (now.seconds + 1)).bind fun second =>
        Instant.ofUnix? second 0 := by
  rw [next]
  exact if_neg (Int.not_lt.mpr era)

theorem next_first (now time : Instant) (era : now.InEra) :
    schedule.next now = some time ↔ FirstAfter schedule.Times now time := by
  have sorted := Columns.text_sorted _ _ schedule.parsed
  rw [schedule.next_searched now era, Option.bind_eq_some_iff]
  constructor
  · rintro ⟨second, found, made⟩
    have total := Instant.of_nanos_nanos _ time made
    obtain ⟨⟨matching, reached⟩, least⟩ := Columns.earliest_least _ _ sorted second found
    have positive : 0 ≤ second := by omega
    refine ⟨⟨second, matching, positive, by omega⟩, ?_, ?_⟩
    · unfold Instant.seconds at reached
      change now.nanos < time.nanos
      omega
    · rintro other ⟨later, fits, _, whole⟩ ahead
      change now.nanos < other.nanos at ahead
      have candidate : later ∈ schedule.columns.candidates (now.seconds + 1) :=
        ⟨fits, by unfold Instant.seconds; omega⟩
      have order := least candidate
      change time.nanos ≤ other.nanos
      omega
  · rintro ⟨⟨second, matching, positive, whole⟩, ahead, least⟩
    change now.nanos < time.nanos at ahead
    refine ⟨second, (Columns.earliest_iff _ _ sorted second).mpr ⟨⟨matching, ?_⟩, ?_⟩, ?_⟩
    · unfold Instant.seconds
      omega
    · rintro later ⟨fits, late⟩
      obtain ⟨other, own⟩ := schedule.matching_instant later fits (by omega)
      have after : now < other := by
        change now.nanos < other.nanos
        unfold Instant.seconds at late
        omega
      have order : time.nanos ≤ other.nanos :=
        least other ⟨later, fits, by omega, own⟩ after
      omega
    · have same : second * 1000000000 + ((0 : Nat) : Int) = time.nanos := by omega
      rw [Instant.ofUnix?, same, Instant.of_nanos_own]

end CronSchedule

namespace Trigger

mutual

def IsCalendar : Trigger → Prop
  | .date _ => True
  | .interval _ => False
  | .cron _ => True
  | .any first others => IsCalendar first ∧ AllCalendar others

def AllCalendar : List Trigger → Prop
  | [] => True
  | trigger :: rest => IsCalendar trigger ∧ AllCalendar rest

end

theorem all_calendar_iff (triggers : List Trigger) :
    AllCalendar triggers ↔ ∀ trigger ∈ triggers, trigger.IsCalendar := by
  induction triggers with
  | nil => simp [AllCalendar]
  | cons trigger rest ih => simp [AllCalendar, ih]

def ChildFires (children : List Trigger) (start time : Instant) : Prop :=
  ∃ child ∈ children, child.Fires start time

-- Asked anew at any time, the trigger answers with the next of the times at which it fires.
def KeepsTime (trigger : Trigger) (start : Instant) : Prop :=
  ∀ now, start ≤ now →
    ∀ time, trigger.next none now = some time ↔ FirstAfter (trigger.Fires start) now time

-- Asked anew at each of their fires, children of a combined trigger answer with their next fire.
def InStep (children : List Trigger) (start : Instant) : Prop :=
  ∀ now, (now = start ∨ ChildFires children start now) →
    ∀ time, nextOf children now = some time ↔ FirstAfter (ChildFires children start) now time

theorem keeps_times (trigger : Trigger) (start : Instant) (times : Instant → Prop)
    (follows : ∀ now, start ≤ now →
      ∀ time, trigger.next none now = some time ↔ FirstAfter times now time) :
    trigger.KeepsTime start := by
  let later (time : Instant) : Prop := times time ∧ start < time
  have beyond (now time : Instant) (order : start ≤ now) :
      FirstAfter times now time ↔ FirstAfter later now time := by
    have onward (other : Instant) (ahead : now < other) : start < other :=
      Int.lt_of_le_of_lt order ahead
    constructor
    · rintro ⟨listed, after, least⟩
      exact ⟨⟨listed, onward time after⟩, after, fun other member => least other member.1⟩
    · rintro ⟨listed, after, least⟩
      exact ⟨listed.1, after,
        fun other member ahead => least other ⟨member, onward other ahead⟩ ahead⟩
  have steps (now : Instant) (order : start ≤ now) (time : Instant) :
      trigger.next none now = some time ↔ FirstAfter later now time :=
    (follows now order time).trans (beyond now time order)
  have same : trigger.Fires start = later := by
    funext time
    refine propext ((fires_orbit trigger start time).trans ?_)
    refine (Instant.orbit_iff _ (unfired_after trigger) start later fun _ member => member.2).mpr
      (fun now here => steps now ?_) time
    rcases here with rfl | member
    · exact Int.le_refl now.nanos
    · exact Int.le_of_lt member.2
  intro now order time
  rw [same]
  exact steps now order time

theorem date_keeps (run start : Instant) : (Trigger.date run).KeepsTime start := by
  refine keeps_times _ start (· = run) fun now _ time => ?_
  rw [next, Option.ite_none_left_eq_some]
  constructor
  · rintro ⟨ahead, same⟩
    cases same
    exact ⟨rfl, Int.not_le.mp fun passed => ahead (.inr passed),
      fun other equal _ => equal ▸ Int.le_refl other.nanos⟩
  · rintro ⟨rfl, after, _⟩
    refine ⟨?_, rfl⟩
    rintro (fired | passed)
    · cases fired
    · exact Int.not_le.mpr after passed

theorem cron_keeps (schedule : CronSchedule) (start : Instant) (era : start.InEra) :
    (Trigger.cron schedule).KeepsTime start := by
  refine keeps_times _ start schedule.Times fun now order time => ?_
  rw [next]
  exact schedule.next_first now time (Instant.era_later start now order era)

section Earliest

variable (a b : Option Instant) (first second : Instant → Prop) (now time : Instant)
  (one : ∀ time, a = some time ↔ FirstAfter first now time)
  (other : ∀ time, b = some time ↔ FirstAfter second now time)

include one other

theorem either_bounded (rival : Instant) (listed : first rival ∨ second rival) (ahead : now < rival) :
    ∃ least, Instant.earliest? a b = some least ∧ least ≤ rival := by
  have given : ∃ sooner, (a = some sooner ∨ b = some sooner) ∧ sooner ≤ rival := by
    cases listed with
    | inl early =>
        obtain ⟨sooner, is⟩ := Instant.first_exists first now rival early ahead
        exact ⟨sooner, .inl ((one sooner).mpr is), is.least rival early ahead⟩
    | inr late =>
        obtain ⟨sooner, is⟩ := Instant.first_exists second now rival late ahead
        exact ⟨sooner, .inr ((other sooner).mpr is), is.least rival late ahead⟩
  obtain ⟨sooner, answered, before⟩ := given
  obtain ⟨least, found, bound⟩ := Instant.earliest_bounded a b sooner answered
  exact ⟨least, found, Int.le_trans bound before⟩

theorem earliest_either (answered : Instant.earliest? a b = some time) :
    FirstAfter (fun time => first time ∨ second time) now time := by
  have least (rival : Instant) (listed : first rival ∨ second rival) (ahead : now < rival) :
      time ≤ rival := by
    obtain ⟨sooner, found, bound⟩ :=
      either_bounded a b first second now one other rival listed ahead
    rw [answered, Option.some.injEq] at found
    exact found ▸ bound
  cases Instant.earliest_given a b time answered with
  | inl own =>
      have ofFirst := (one time).mp own
      exact ⟨.inl ofFirst.listed, ofFirst.after, least⟩
  | inr own =>
      have ofSecond := (other time).mp own
      exact ⟨.inr ofSecond.listed, ofSecond.after, least⟩

theorem earliest_first :
    Instant.earliest? a b = some time ↔
      FirstAfter (fun time => first time ∨ second time) now time := by
  refine ⟨earliest_either a b first second now time one other, fun own => ?_⟩
  obtain ⟨rival, found, _⟩ :=
    either_bounded a b first second now one other time own.listed own.after
  have same := earliest_either a b first second now rival one other found
  rw [found, Instant.first_unique _ now rival time same own]

end Earliest

theorem children_first (children : List Trigger) (start now time : Instant) (order : start ≤ now)
    (keep : ∀ child ∈ children, child.KeepsTime start) :
    nextOf children now = some time ↔ FirstAfter (ChildFires children start) now time := by
  induction children generalizing time with
  | nil =>
      rw [nextOf]
      constructor
      · rintro ⟨⟩
      · rintro ⟨⟨child, member, _⟩, _, _⟩
        cases member
  | cons child rest ih =>
      have split : ChildFires (child :: rest) start =
          fun time => child.Fires start time ∨ ChildFires rest start time := by
        funext time
        simp [ChildFires]
      rw [nextOf, split]
      exact earliest_first _ _ _ _ now time (keep child List.mem_cons_self now order)
        fun time => ih time fun other member => keep other (List.mem_cons_of_mem _ member)

theorem combined_iff (first : Trigger) (others : List Trigger) (start : Instant) :
    (∀ time, (Trigger.any first others).Fires start time ↔ ChildFires (first :: others) start time) ↔
      InStep (first :: others) start := by
  have asked (now : Instant) : (Trigger.any first others).next none now =
      nextOf (first :: others) now := by
    rw [next, nextOf]
  simp only [fires_orbit (Trigger.any first others), InStep, ← asked]
  refine Instant.orbit_iff _ (unfired_after _) start _ ?_
  rintro time ⟨child, _, fires⟩
  exact fires_after child start time fires

theorem lone_in_step (child : Trigger) (start : Instant) : InStep [child] start := by
  have alone : ChildFires [child] start = Orbit (child.next none) start := by
    funext time
    simp [ChildFires, fires_orbit]
  have asked (now : Instant) : nextOf [child] now = child.next none now := by
    rw [nextOf, nextOf]
    cases child.next none now <;> rfl
  intro now here time
  rw [alone] at here ⊢
  rw [asked]
  exact Instant.orbit_next _ (unfired_after child) start now here time

theorem kept_in_step (children : List Trigger) (start : Instant)
    (keep : ∀ child ∈ children, child.KeepsTime start) : InStep children start := by
  intro now here time
  refine children_first children start now time ?_ keep
  rcases here with rfl | ⟨child, _, fires⟩
  · exact Int.le_refl now.nanos
  · exact Int.le_of_lt (fires_after child start now fires)

mutual

theorem calendar_keeps (trigger : Trigger) (start : Instant) (era : start.InEra)
    (calendar : trigger.IsCalendar) : trigger.KeepsTime start := by
  cases trigger with
  | date run => exact date_keeps run start
  | interval period => exact calendar.elim
  | cron schedule => exact cron_keeps schedule start era
  | any first others =>
      have keep : ∀ child ∈ first :: others, child.KeepsTime start := by
        intro child member
        rcases List.mem_cons.mp member with same | other
        · rw [same]
          exact calendar_keeps first start era calendar.1
        · exact all_calendar_keep others start era calendar.2 child other
      have same : (Trigger.any first others).Fires start = ChildFires (first :: others) start :=
        funext fun time => propext
          ((combined_iff first others start).mpr (kept_in_step _ start keep) time)
      intro now order time
      rw [same, next]
      exact children_first (first :: others) start now time order keep

theorem all_calendar_keep (triggers : List Trigger) (start : Instant) (era : start.InEra)
    (calendar : AllCalendar triggers) : ∀ child ∈ triggers, child.KeepsTime start := by
  cases triggers with
  | nil => simp
  | cons trigger rest =>
      intro child member
      rcases List.mem_cons.mp member with same | other
      · rw [same]
        exact calendar_keeps trigger start era calendar.1
      · exact all_calendar_keep rest start era calendar.2 child other

end

theorem combined_fires (first : Trigger) (others : List Trigger) (start : Instant) :
    ((∀ time, (Trigger.any first others).Fires start time ↔
        ChildFires (first :: others) start time) ↔ InStep (first :: others) start) ∧
      (others = [] → ∀ time, (Trigger.any first others).Fires start time ↔ first.Fires start time) ∧
      ((∀ child ∈ first :: others, child.IsCalendar) → start.InEra →
        ∀ time, (Trigger.any first others).Fires start time ↔
          ∃ child ∈ first :: others, child.Fires start time) := by
  refine ⟨combined_iff first others start, ?_, ?_⟩
  · rintro rfl time
    have same := (combined_iff first [] start).mpr (lone_in_step first start) time
    simpa [ChildFires] using same
  · intro calendar era
    have keep := all_calendar_keep (first :: others) start era
      ((all_calendar_iff _).mpr calendar)
    exact (combined_iff first others start).mpr (kept_in_step _ start keep)

def everyHour : CronSchedule := ⟨"@hourly", Columns.hourly, by decide⟩

theorem hourly_with_date_fires :
    (∀ child ∈ [Trigger.cron everyHour, .date (atSecond 1200)], child.IsCalendar) ∧
      Instant.epoch.InEra ∧
      (Trigger.any (.cron everyHour) [.date (atSecond 1200)]).Fires Instant.epoch
        (atSecond 1200) := by
  have calendar : ∀ child ∈ [Trigger.cron everyHour, .date (atSecond 1200)], child.IsCalendar := by
    simp [IsCalendar]
  have era : Instant.epoch.InEra := by
    unfold Instant.InEra
    decide
  have fires : (Trigger.date (atSecond 1200)).Fires Instant.epoch (atSecond 1200) :=
    ⟨1, by rw [series, next, if_neg (by decide)]; exact List.mem_cons_self⟩
  obtain ⟨_, _, same⟩ := combined_fires (.cron everyHour) [.date (atSecond 1200)] Instant.epoch
  exact ⟨calendar, era, (same calendar era (atSecond 1200)).mpr ⟨_, by simp, fires⟩⟩

theorem slower_beat_skipped :
    ¬ ∀ (first : Trigger) (others : List Trigger) (start time : Instant),
      (Trigger.any first others).Fires start time ↔
        ∃ child ∈ first :: others, child.Fires start time := by
  intro claimed
  let quick := Trigger.interval (Interval.everyMillis 20000 (by decide) (by decide))
  let slow := Trigger.interval Interval.halfMinute
  have alone : slow.Fires Instant.epoch (atSecond 30) :=
    (fires_orbit slow _ _).mpr (.first _ (by decide))
  have combined := (claimed quick [slow] Instant.epoch (atSecond 30)).mpr ⟨slow, by simp, alone⟩
  have first : (Trigger.any quick [slow]).next none Instant.epoch = some (atSecond 20) := by decide
  have second : (Trigger.any quick [slow]).next none (atSecond 20) = some (atSecond 40) := by decide
  have reached := (fires_orbit _ _ _).mp combined
  obtain ⟨time, answered, same | beyond⟩ := Instant.orbit_head _ _ _ reached
  · rw [first, Option.some.injEq, ← same] at answered
    exact absurd answered (by decide)
  · rw [first, Option.some.injEq] at answered
    subst answered
    obtain ⟨time, answered, same | late⟩ := Instant.orbit_head _ _ _ beyond
    · rw [second, Option.some.injEq, ← same] at answered
      exact absurd answered (by decide)
    · rw [second, Option.some.injEq] at answered
      subst answered
      have order := Instant.orbit_after _ (unfired_after _) _ _ late
      exact absurd order (by decide)

end Trigger

end Foreman
