import Foreman.Trigger.Cron
import Foreman.Trigger.Interval
import Foreman.Time.Stamp

set_option autoImplicit false

namespace Foreman

inductive Trigger where
  | date (time : Instant)
  | interval (interval : Interval)
  | cron (schedule : CronSchedule)
  | any (first : Trigger) (others : List Trigger)

namespace Trigger

instance : Inhabited Trigger := ⟨.date Instant.epoch⟩

def every (span : Span) : Except TriggerError Trigger :=
  (Interval.ofSpan span).map .interval

def ofCron (expression : String) : Except TriggerError Trigger :=
  match CronSchedule.parse expression with
  | some schedule => .ok (.cron schedule)
  | none => .error (.invalidCron expression "Invalid expression: Invalid cron expression.")

def anyOf : List Trigger → Except TriggerError Trigger
  | [] => .error .noTriggers
  | first :: others => .ok (.any first others)

mutual

-- Children of a combined trigger are asked as if they had never fired.
def next : Trigger → Option Instant → Instant → Option Instant
  | .date time, previous, now => if previous.isSome ∨ time ≤ now then none else some time
  | .interval period, previous, now => period.next previous now
  | .cron schedule, _, now => schedule.next now
  | .any first others, _, now => Instant.earliest? (next first none now) (nextOf others now)

def nextOf : List Trigger → Instant → Option Instant
  | [], _ => none
  | trigger :: rest, now => Instant.earliest? (next trigger none now) (nextOf rest now)

end

def series (trigger : Trigger) (late : Span) :
    Nat → Option Instant → Instant → List (Option Instant)
  | 0, _, _ => []
  | count + 1, previous, now =>
      match trigger.next previous now with
      | none => [none]
      | some fire =>
          some fire :: series trigger late count (some fire) ((fire.add? late).getD fire)

mutual

def same : Trigger → Trigger → Bool
  | .date a, .date b => a == b
  | .interval a, .interval b => a.same b
  | .cron a, .cron b => a.expression == b.expression
  | .any a as, .any b bs => same a b && sameAll as bs
  | _, _ => false

def sameAll : List Trigger → List Trigger → Bool
  | [], [] => true
  | a :: as, b :: bs => same a b && sameAll as bs
  | _, _ => false

end

mutual

def text : Trigger → String
  | .date time => "date[" ++ Stamp.writeOffset time ++ "]"
  | .interval period => "interval[" ++ period.every.text ++ "]"
  | .cron schedule => "cron[" ++ schedule.expression ++ "]"
  | .any first others => "any[" ++ text first ++ textOf others ++ "]"

def textOf : List Trigger → String
  | [] => ""
  | trigger :: rest => ", " ++ text trigger ++ textOf rest

end

end Trigger

end Foreman
