import Foreman.Number.Width
import Foreman.Time.Instant
import Foreman.Trigger.Error

set_option autoImplicit false

namespace Foreman

structure Interval where
  every : Span
  startAt : Option Instant
  endAt : Option Instant
  least : 1000000 ≤ every.nanos
  most : every.nanos ≤ 9223372036854775807000000
  ordered : ∀ first ∈ startAt, ∀ last ∈ endAt, first ≤ last

namespace Interval

def longestStep : Nat := 9223372036854775807000000

def ofSpan (every : Span) : Except TriggerError Interval :=
  if short : every.nanos < 1000000 then .error (.intervalTooShort every)
  else if long : 9223372036854775807000000 < every.nanos then .error (.intervalOutOfRange every)
  else .ok ⟨every, none, none, Nat.le_of_not_lt short, Nat.le_of_not_lt long, by simp⟩

def withWindow (interval : Interval) (startAt endAt : Option Instant) :
    Except TriggerError Interval :=
  if ordered : ∀ first ∈ startAt, ∀ last ∈ endAt, first ≤ last then
    .ok { interval with startAt := startAt, endAt := endAt, ordered := ordered }
  else .error .emptyWindow

def startingAt (interval : Interval) (time : Instant) : Except TriggerError Interval :=
  interval.withWindow (some time) interval.endAt

def endingAt (interval : Interval) (time : Instant) : Except TriggerError Interval :=
  interval.withWindow interval.startAt (some time)

def same (a b : Interval) : Bool :=
  a.every == b.every && a.startAt == b.startAt && a.endAt == b.endAt

-- The first slot after now, in whole steps from the previous one, of which a step counter of 32
-- bits has to hold the number.
def catchUp (interval : Interval) (previous now : Instant) : Option Instant := do
  let elapsed ← now.since previous
  let steps := elapsed.nanos / interval.every.nanos + 1
  if Number.bound32 ≤ steps then none
  else
    let distance := interval.every.nanos * steps
    if longestStep < distance then none else previous.addNanos? distance

def candidate (interval : Interval) (previous : Option Instant) (now : Instant) :
    Option Instant :=
  match previous with
  | some previous => do
      let slot ← previous.add? interval.every
      if slot < now then interval.catchUp previous now else some slot
  | none =>
      match interval.startAt with
      | some start => if now < start then some start else now.add? interval.every
      | none => now.add? interval.every

def next (interval : Interval) (previous : Option Instant) (now : Instant) : Option Instant :=
  match interval.endAt with
  | none => interval.candidate previous now
  | some last =>
      if last ≤ now then none
      else (interval.candidate previous now).filter fun time => decide (time ≤ last)

end Interval

end Foreman
