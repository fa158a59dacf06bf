import Foreman.Number.Double
import Foreman.Task.State
import Foreman.Time.Codec

set_option autoImplicit false

namespace Foreman

structure Executions where
  counts : List (String × Nat)
  means : List (String × Span)
  lastEnds : List (String × Instant)

structure Metrics where
  submitted : Nat
  finished : List (TaskState × Nat)
  executed : Executions
  pending : Nat
  running : Nat
  utilization : Float

namespace Metrics

def zero : Metrics := ⟨0, [], ⟨[], [], []⟩, 0, 0, 0⟩

instance : Inhabited Metrics := ⟨zero⟩

-- The mean after one more run, without the part of a nanosecond, at most 2^64 - 1.
def nextMean (mean duration : Span) (count : Nat) : Span :=
  let before := Number.toDouble mean.nanos
  let added := (Number.toDouble duration.nanos - before) / Number.toDouble count
  Span.ofNanos (before + added).toUInt64.toNat

def recordExecution (metrics : Metrics) (reference : String) (duration : Span) (now : Instant) :
    Metrics :=
  let executed := metrics.executed
  let count := (Json.member? reference executed.counts).getD 0 + 1
  let before := (Json.member? reference executed.means).getD Span.zero
  let mean := if count = 1 then duration else nextMean before duration count
  { metrics with
    executed :=
      { counts := Json.put reference count executed.counts
        means := Json.put reference mean executed.means
        lastEnds := Json.put reference now executed.lastEnds } }

def addFinished (state : TaskState) : List (TaskState × Nat) → List (TaskState × Nat)
  | [] => [(state, 1)]
  | (other, count) :: rest =>
      if other = state then (other, count + 1) :: rest
      else (other, count) :: addFinished state rest

def finishedIn (metrics : Metrics) (state : TaskState) : Nat :=
  ((metrics.finished.find? fun entry => entry.1 == state).map Prod.snd).getD 0

-- A task left a gauge that shows zero already: the gauge stays.
def leave (metrics : Metrics) : TaskState → Metrics
  | .pending => { metrics with pending := metrics.pending - 1 }
  | .running => { metrics with running := metrics.running - 1 }
  | _ => metrics

def enter (metrics : Metrics) (state : TaskState) : Metrics :=
  if state.isTerminal then { metrics with finished := addFinished state metrics.finished }
  else if state = .running then { metrics with running := metrics.running + 1 }
  else metrics

def recordTransition (metrics : Metrics) (previous next : TaskState) : Metrics :=
  (metrics.leave previous).enter next

def recordAdmission (metrics : Metrics) : Metrics :=
  { metrics with submitted := metrics.submitted + 1, pending := metrics.pending + 1 }

def recordRejection (metrics : Metrics) : Metrics :=
  { metrics with
    submitted := metrics.submitted + 1
    finished := addFinished .failed metrics.finished }

def ratio (busy size : Nat) : Float :=
  if size = 0 then 0 else Number.toDouble busy / Number.toDouble size

def membersOf {α : Type} (encode : α → Json) (entries : List (String × α)) : Json :=
  Json.ofMembers (entries.map fun (name, value) => (name, encode value))

def toJson (metrics : Metrics) : Json :=
  .object
    [("avg_task_duration", membersOf Span.toJson metrics.executed.means),
     ("last_run", membersOf Instant.toJson metrics.executed.lastEnds),
     ("pending", .int metrics.pending),
     ("running", .int metrics.running),
     ("tasks_executed", membersOf (fun count : Nat => .int count) metrics.executed.counts),
     ("tasks_finished", Json.ofMembers (metrics.finished.map fun (state, count) =>
       (state.name, .int count))),
     ("tasks_submitted", .int metrics.submitted),
     ("worker_utilization", .float metrics.utilization)]

end Metrics

end Foreman
