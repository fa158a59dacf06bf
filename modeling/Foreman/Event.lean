import Foreman.Task.Outcome
import Foreman.TaskId

set_option autoImplicit false

namespace Foreman

inductive EventKind where
  | startup
  | shutdown
  | taskSubmitted
  | taskStarted
  | taskSucceeded
  | taskFailed
  | taskTimedOut
  | taskCancelled
  | jobAdded
  | jobUpdated
  | jobRemoved
  | jobFired
  | jobMissed
deriving DecidableEq, Repr, Inhabited

namespace EventKind

def name : EventKind → String
  | .startup => "startup"
  | .shutdown => "shutdown"
  | .taskSubmitted => "task_submitted"
  | .taskStarted => "task_started"
  | .taskSucceeded => "task_succeeded"
  | .taskFailed => "task_failed"
  | .taskTimedOut => "task_timed_out"
  | .taskCancelled => "task_cancelled"
  | .jobAdded => "job_added"
  | .jobUpdated => "job_updated"
  | .jobRemoved => "job_removed"
  | .jobFired => "job_fired"
  | .jobMissed => "job_missed"

def all : List EventKind :=
  [.startup, .shutdown, .taskSubmitted, .taskStarted, .taskSucceeded, .taskFailed, .taskTimedOut,
   .taskCancelled, .jobAdded, .jobUpdated, .jobRemoved, .jobFired, .jobMissed]

def ofState : TaskState → EventKind
  | .pending => .taskSubmitted
  | .running => .taskStarted
  | .succeeded => .taskSucceeded
  | .failed => .taskFailed
  | .timedOut => .taskTimedOut
  | .cancelled => .taskCancelled

end EventKind

structure Event where
  kind : EventKind
  time : Instant
  job : Option String
  task : Option TaskId
  reference : Option String
  outcome : Option Outcome
deriving Inhabited

namespace Event

def ofScheduler (kind : EventKind) (now : Instant) : Event :=
  ⟨kind, now, none, none, none, none⟩

def ofJob (kind : EventKind) (job : String) (now : Instant) : Event :=
  { ofScheduler kind now with job := some job }

def ofTask (kind : EventKind) (task : TaskId) (reference : String) (now : Instant) : Event :=
  { ofScheduler kind now with task := some task, reference := some reference }

def withTask (event : Event) (task : TaskId) (reference : String) : Event :=
  { event with task := some task, reference := some reference }

def withOutcome (event : Event) (outcome : Option Outcome) : Event :=
  { event with outcome := outcome }

def member {α : Type} (name : String) (encode : α → Json) : Option α → List (String × Json)
  | none => []
  | some value => [(name, encode value)]

def subject (event : Event) : Option TaskId :=
  match event.job with
  | none => event.task
  | some _ => none

def toJson (event : Event) : Json :=
  .object (member "job_id" Json.text event.job ++ [("kind", .text event.kind.name)] ++
    member "outcome" Outcome.toJson event.outcome ++
    member "reference" Json.text event.reference ++
    member "task_id" TaskId.toJson event.task ++ [("timestamp", event.time.toJson)])

end Event

inductive Delivery where
  | event (event : Event)
  | lagged (count : Nat)
  | closed
deriving Inhabited

structure Bus where
  room : Nat
  published : List Event
  readers : List (String × Nat)
  isClosed : Bool
deriving Inhabited

namespace Bus

def powerFrom : Nat → Nat → Nat → Nat
  | 0, power, _ => power
  | fuel + 1, power, least => if least ≤ power then power else powerFrom fuel (2 * power) least

def roundUp (least : Nat) : Nat := powerFrom least 1 least

def empty (capacity : Nat) : Bus := ⟨roundUp (max capacity 1), [], [], false⟩

def publish (bus : Bus) (event : Event) : Bus :=
  { bus with published := bus.published ++ [event] }

def subscribe (bus : Bus) (name : String) : Bus :=
  { bus with
    readers := bus.readers.filter (fun reader => reader.1 != name) ++
      [(name, bus.published.length)] }

def hasReader (bus : Bus) (name : String) : Bool :=
  bus.readers.any fun reader => reader.1 == name

def unsubscribe (bus : Bus) (name : String) : Bus :=
  { bus with readers := bus.readers.filter fun reader => reader.1 != name }

def close (bus : Bus) : Bus := { bus with isClosed := true }

def behind (bus : Bus) (name : String) : Nat :=
  ((bus.readers.find? fun reader => reader.1 == name).map Prod.snd).getD bus.published.length

def waiting (bus : Bus) (name : String) : List Delivery :=
  let seen := bus.behind name
  let lost := (bus.published.length - seen) - bus.room
  let events := (bus.published.drop (seen + lost)).map Delivery.event
  (if lost = 0 then [] else [.lagged lost]) ++ events ++ (if bus.isClosed then [.closed] else [])

def receive (bus : Bus) (name : String) : List Delivery × Bus :=
  let advance (reader : String × Nat) : String × Nat :=
    if reader.1 = name then (name, bus.published.length) else reader
  (bus.waiting name, { bus with readers := bus.readers.map advance })

end Bus

end Foreman
