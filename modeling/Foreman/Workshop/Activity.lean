import Foreman.Task.Request
import Foreman.Workshop.Gate

set_option autoImplicit false

namespace Foreman

structure Ticket where
  assignment : Assignment
  callable : Callable
  token : Nat
deriving Inhabited

-- What an activity waits for. A sleep past the end of time has no end.
inductive Wait where
  | turn
  | sleep (wake : Option Instant)
  | gate (name : String)
  | hold (name : String)
deriving Inhabited

structure Activity where
  ticket : Ticket
  process : Process
  wait : Wait
deriving Inhabited

inductive Turn where
  | ended (ending : Ending)
  | waits (process : Process) (wait : Wait)
deriving Inhabited

namespace Activity

def token (activity : Activity) : Nat := activity.ticket.token

def proceed (now : Instant) : Process → Gates → Gates × Turn
  | .finish ending, gates => (gates, .ended ending)
  | .rest next, gates => (gates, .waits next .turn)
  | .sleep millis next, gates =>
      let wake := now.add? (Span.ofMillis (Process.sleepLength millis))
      (gates, .waits next (.sleep wake))
  | .gate name next, gates =>
      let gates := gates.enter name
      match gates.pass? name with
      | some gates => proceed now next gates
      | none => (gates, .waits next (.gate name))
  | .hold name next, gates =>
      let gates := gates.enter name
      match gates.pass? name with
      | some gates => proceed now next gates
      | none => (gates, .waits next (.hold name))

def released (now : Instant) (gates : Gates) : Wait → Option Gates
  | .turn => some gates
  | .sleep none => none
  | .sleep (some wake) => if wake ≤ now then some gates else none
  | .gate name => gates.pass? name
  | .hold name => gates.pass? name

def canResume (activity : Activity) (gates : Gates) (now : Instant) : Bool :=
  (released now gates activity.wait).isSome

def resume (activity : Activity) (gates : Gates) (now : Instant) : Option (Gates × Turn) :=
  (released now gates activity.wait).map (proceed now activity.process)

def isHolding (activity : Activity) : Bool :=
  match activity.wait with
  | .hold _ => true
  | _ => false

def wake (activity : Activity) : Option Instant :=
  match activity.wait with
  | .sleep wake => wake
  | _ => none

def effort (activity : Activity) : Nat := activity.process.pauses + 1

end Activity

end Foreman
