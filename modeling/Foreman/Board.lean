import Foreman.Event
import Foreman.Job
import Foreman.Metrics
import Foreman.Number.Width
import Foreman.Scheduler.Error

set_option autoImplicit false

namespace Foreman

-- Tokens are numbered. A token counts as cancelled once its number is in the list.
structure Tokens where
  held : List (TaskId × Nat)
  cancelled : List Nat
  fresh : Nat
deriving DecidableEq, Inhabited

namespace Tokens

def empty : Tokens := ⟨[], [], 0⟩

def find? (tokens : Tokens) (id : TaskId) : Option Nat :=
  (tokens.held.find? fun entry => entry.1 == id).map Prod.snd

def isCancelled (tokens : Tokens) (token : Nat) : Bool :=
  tokens.cancelled.contains token

def remove (tokens : Tokens) (id : TaskId) : Tokens :=
  { tokens with held := tokens.held.filter fun entry => entry.1 != id }

def issue (tokens : Tokens) (id : TaskId) : Tokens × Nat :=
  ({ tokens with
     held := (tokens.remove id).held ++ [(id, tokens.fresh)]
     fresh := tokens.fresh + 1 }, tokens.fresh)

def cancel (tokens : Tokens) (token : Nat) : Tokens :=
  if tokens.isCancelled token then tokens
  else { tokens with cancelled := tokens.cancelled ++ [token] }

end Tokens

/-- Tasks that were enrolled count as waiting until they leave the state PENDING. The difference
falls below zero where records that nobody enrolled leave it. -/
structure Board where
  store : Store
  bus : Bus
  metrics : Metrics
  tokens : Tokens
  waiting : Int
  announcements : Nat
  jobs : JobTable
deriving Inhabited

namespace Board

def empty (eventCapacity : Nat) : Board :=
  ⟨Store.empty, Bus.empty eventCapacity, Metrics.zero, Tokens.empty, 0, 0, JobTable.empty⟩

def publish (board : Board) (event : Event) : Board :=
  { board with bus := board.bus.publish event }

def announce (board : Board) : Board :=
  { board with announcements := board.announcements + 1 }

-- Whether a task is stored and not terminal; a store that cannot be read counts as no.
def isActive (board : Board) (id : TaskId) : Bool :=
  match board.store.get id with
  | .ok (some record) => !record.state.isTerminal
  | _ => false

-- The counter of waiting tasks has 64 bits: one less than zero is the greatest value.
def pending (board : Board) : Nat :=
  (board.waiting % Number.bound64).toNat

def isFull (board : Board) : Option Nat → Bool
  | none => false
  | some capacity => decide (capacity ≤ board.pending)

def enrolled (board : Board) (assignment : Assignment) (store : Store) (tokens : Tokens)
    (now : Instant) : Board :=
  let event := Event.ofTask .taskSubmitted assignment.id assignment.reference now
  { board with
    store := store
    tokens := tokens
    waiting := board.waiting + 1
    metrics := board.metrics.recordAdmission
    bus := board.bus.publish event }

def enroll (board : Board) (assignment : Assignment) (capacity : Option Nat) (now : Instant) :
    Board × Except SchedulerError Nat :=
  if board.isFull capacity then (board, .error (.queueFull (capacity.getD 0)))
  else
    let (tokens, token) := board.tokens.issue assignment.id
    match board.store.insert (TaskRecord.pending assignment) with
    | .error error => ({ board with tokens := tokens.remove assignment.id }, .error (.store error))
    | .ok store => (board.enrolled assignment store tokens now, .ok token)

def reject (board : Board) (id : TaskId) (reference : String) (cause : ResolutionError)
    (now : Instant) : Board × Except SchedulerError Unit :=
  let failure := Failure.new cause.message .resolver now
  match board.store.insert (TaskRecord.unresolved id reference failure now) with
  | .error error => (board, .error (.store error))
  | .ok store =>
      let event := (Event.ofTask .taskFailed id reference now).withOutcome (some (.failure failure))
      let board := { board with store := store, metrics := board.metrics.recordRejection }
      ((board.publish event).announce, .ok ())

def runTime (board : Board) (id : TaskId) (previous next : TaskState) : Option Span :=
  if next.isTerminal ∧ previous = .running then
    match board.store.get id with
    | .ok (some record) => record.duration
    | _ => none
  else none

def measured (metrics : Metrics) (reference : String) (now : Instant) : Option Span → Metrics
  | none => metrics
  | some duration => metrics.recordExecution reference duration now

def settled (board : Board) (id : TaskId) (reference : String) (previous next : TaskState)
    (outcome : Option Outcome) (now : Instant) : Board :=
  let duration := board.runTime id previous next
  let metrics := measured (board.metrics.recordTransition previous next) reference now duration
  let shown := if next.isTerminal then outcome else none
  let event := (Event.ofTask (.ofState next) id reference now).withOutcome shown
  let board := { board with
    waiting := if previous = .pending then board.waiting - 1 else board.waiting
    metrics := metrics
    bus := board.bus.publish event }
  if next.isTerminal then { board with tokens := board.tokens.remove id }.announce else board

def transition (board : Board) (id : TaskId) (reference : String) (expected : List TaskState)
    (next : TaskState) (outcome : Option Outcome) (now : Instant) : Board × Bool :=
  match board.store.transition id expected next outcome now with
  | .ok (some previous, store) =>
      ({ board with store := store }.settled id reference previous next outcome now, true)
  | _ => (board, false)

def markRunning (board : Board) (assignment : Assignment) (now : Instant) : Board × Bool :=
  board.transition assignment.id assignment.reference [.pending] .running none now

def finish (board : Board) (assignment : Assignment) (state : TaskState) (outcome : Outcome)
    (now : Instant) : Board × Bool :=
  board.transition assignment.id assignment.reference TaskState.active state (some outcome) now

def cancelToken (board : Board) (token : Nat) : Board :=
  { board with tokens := board.tokens.cancel token }

def originOf (record : TaskRecord) : Origin :=
  match record.kind with
  | some kind => kind.origin
  | none => .resolver

def cancelOne (reason : String) (now : Instant) (state : Board × Nat) (held : TaskId × Nat) :
    Board × Nat :=
  let (board, count) := state
  let (id, token) := held
  match board.store.get id with
  | .ok (some record) =>
      let failure := Failure.new reason (originOf record) now
      let (board, won) := board.transition id record.reference TaskState.active .cancelled
        (some (.failure failure)) now
      (board.cancelToken token, if won then count + 1 else count)
  | _ => (board, count)

def cancelAll (board : Board) (reason : String) (now : Instant) : Board × Nat :=
  board.tokens.held.foldl (cancelOne reason now) (board, 0)

def look (board : Board) (id : TaskId) : Except SchedulerError (Option TaskRecord) :=
  match board.store.get id with
  | .error error => .error (.store error)
  | .ok none => .error (.notFound id)
  | .ok (some record) => .ok (if record.state.isTerminal then some record else none)

def setUtilization (board : Board) (busy size : Nat) : Board :=
  { board with metrics := { board.metrics with utilization := Metrics.ratio busy size } }

end Board

end Foreman
