import Foreman.Board

set_option autoImplicit false

namespace Foreman.Board

def record (board : Board) (id : TaskId) : Except SchedulerError TaskRecord :=
  match board.store.get id with
  | .error error => .error (.store error)
  | .ok none => .error (.notFound id)
  | .ok (some record) => .ok record

def status (board : Board) (id : TaskId) : Except SchedulerError TaskState :=
  (board.record id).map TaskRecord.state

def outcomeOf (record : TaskRecord) (now : Instant) : Outcome :=
  match record.outcome with
  | some outcome => outcome
  | none =>
      let message := "Task finished as " ++ record.state.name ++ " without an outcome"
      .failure (Failure.new message (originOf record) now)

def finished (board : Board) (id : TaskId) : Except SchedulerError TaskRecord :=
  match board.record id with
  | .error error => .error error
  | .ok record =>
      if record.state.isTerminal then .ok record else .error (.notReady id record.state)

def result (board : Board) (id : TaskId) (now : Instant) : Except SchedulerError Outcome :=
  (board.finished id).map fun record => outcomeOf record now

-- A suspended task can still be unwound, a blocking one cannot once it runs.
def cancellable (record : TaskRecord) : List TaskState :=
  if record.kind = some .async then TaskState.active else [.pending]

def cancelToken? (board : Board) : Option Nat → Board
  | none => board
  | some token => board.cancelToken token

def cancel (board : Board) (id : TaskId) (now : Instant) : Board × Except SchedulerError Bool :=
  match board.record id with
  | .error error => (board, .error error)
  | .ok record =>
      let token := board.tokens.find? id
      let failure := Failure.new "Task cancelled" (originOf record) now
      let (after, won) := board.transition id record.reference (cancellable record) .cancelled
        (some (.failure failure)) now
      (if won then after.cancelToken? token else after, .ok won)

def evict (board : Board) (id : TaskId) : Board × Except SchedulerError TaskRecord :=
  match board.finished id with
  | .error error => (board, .error error)
  | .ok _ =>
      match board.store.evict id with
      | .error error => (board, .error (.store error))
      | .ok (none, store) => ({ board with store := store }, .error (.notFound id))
      | .ok (some record, store) => ({ board with store := store }, .ok record)

end Foreman.Board
