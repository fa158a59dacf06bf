import Foreman.Proofs.Board.History
import Foreman.Proofs.Metrics.Counts

set_option autoImplicit false

namespace Foreman.Board

section Keeps

variable (holds : Board → Prop)
  (aside : ∀ board next : Board, holds board → next.store = board.store →
    next.metrics.executed = board.metrics.executed → holds next)
  (entered : ∀ (board next : Board) (record : TaskRecord), holds board →
    board.store.insert record = .ok next.store →
    next.metrics.executed = board.metrics.executed → holds next)
  (moved : ∀ (board : Board) (id : TaskId) (reference : String) (expected : List TaskState)
    (next : TaskState) (outcome : Option Outcome) (now : Instant), holds board →
    holds (board.transition id reference expected next outcome now).1)
  (removed : ∀ (board next : Board) (id : TaskId) (record : Option TaskRecord), holds board →
    board.store.evict id = .ok (record, next.store) → next.metrics = board.metrics → holds next)

include aside moved in
theorem cancel_one_keeps (board : Board) (reason : String) (now : Instant) (entry : TaskId × Nat)
    (count : Nat) (start : holds board) : holds (cancelOne reason now (board, count) entry).1 := by
  simp only [cancelOne]
  split
  · exact aside _ _ (moved board _ _ _ _ _ now start) rfl rfl
  · exact start

include aside moved in
theorem sweep_keeps (board : Board) (reason : String) (now : Instant)
    (entries : List (TaskId × Nat)) (count : Nat) (start : holds board) :
    holds (entries.foldl (cancelOne reason now) (board, count)).1 := by
  induction entries generalizing board count with
  | nil => exact start
  | cons entry rest ih =>
      exact ih _ _ (cancel_one_keeps holds aside moved board reason now entry count start)

include aside entered moved removed in
theorem perform_keeps (board : Board) (now : Instant) (call : Call) (start : holds board) :
    holds (board.perform now call) := by
  cases call with
  | enroll assignment capacity =>
      simp only [perform, enroll]
      split
      · exact start
      · split
        · exact aside board _ start rfl rfl
        · rename_i store inserted
          exact entered board _ _ start inserted rfl
  | reject id reference cause =>
      simp only [perform, reject]
      split
      · exact start
      · rename_i store inserted
        exact entered board _ _ start inserted rfl
  | markRunning assignment => exact moved board _ _ _ _ _ now start
  | finish assignment state outcome => exact moved board _ _ _ _ _ now start
  | cancel id =>
      simp only [perform, cancel]
      split
      · exact start
      · rename_i record _
        have ended := moved board id record.reference (cancellable record) .cancelled
          (some (.failure (Failure.new "Task cancelled" (originOf record) now))) now start
        split
        · refine aside _ _ ended ?_ ?_
          · exact cancel_token_store _ _
          · cases board.tokens.find? id <;> rfl
        · exact ended
  | cancelAll reason =>
      exact sweep_keeps holds aside moved board reason now board.tokens.held 0 start
  | evict id =>
      simp only [perform, evict]
      split
      · exact start
      · split
        · exact start
        · rename_i store evicted
          exact removed board _ id _ start evicted rfl
        · rename_i record store evicted
          exact removed board _ id _ start evicted rfl
  | cancelToken _ | setJobs _ | publish _ | setUtilization _ _ => exact aside board _ start rfl rfl

end Keeps

section Ordered

variable (board : Board) (now : Instant)

section Measured

variable (metrics : Metrics) (previous next : TaskState) (reference : String)
  (duration : Option Span)

theorem measured_ordered (ordered : metrics.Ordered) :
    (measured (metrics.recordTransition previous next) reference now duration).Ordered := by
  have kept := (Metrics.transition_kept metrics previous next).2
  have before := Metrics.ordered_same metrics _ ordered kept
  cases duration with
  | none => exact before
  | some duration => exact Metrics.execution_ordered _ reference duration now before

theorem measured_executions (other : String) :
    (measured (metrics.recordTransition previous next) reference now duration).executions other =
      metrics.executions other + if duration.isSome && reference == other then 1 else 0 := by
  have kept := (Metrics.transition_kept metrics previous next).2
  have same := Metrics.executions_same metrics _ kept other
  cases duration with
  | none => exact same
  | some duration =>
      have counted := Metrics.execution_counted (metrics.recordTransition previous next) reference
        duration now other
      rw [same] at counted
      simpa [measured] using counted

end Measured

theorem transition_ordered (id : TaskId) (reference : String) (expected : List TaskState)
    (next : TaskState) (outcome : Option Outcome) (ordered : board.metrics.Ordered) :
    (board.transition id reference expected next outcome now).1.metrics.Ordered := by
  unfold transition
  split
  · rw [settled_metrics]
    exact measured_ordered now board.metrics _ next reference _ ordered
  · exact ordered

theorem perform_ordered (call : Call) (ordered : board.metrics.Ordered) :
    (board.perform now call).metrics.Ordered :=
  perform_keeps (fun board => board.metrics.Ordered)
    (fun _ _ ordered _ executed => Metrics.ordered_same _ _ ordered executed)
    (fun _ _ _ ordered _ executed => Metrics.ordered_same _ _ ordered executed)
    (fun board id reference expected next outcome now =>
      transition_ordered board now id reference expected next outcome)
    (fun _ _ _ _ ordered _ metrics => metrics ▸ ordered) board now call ordered

theorem run_ordered (history : List (Instant × Call)) (ordered : board.metrics.Ordered) :
    (board.run history).metrics.Ordered := by
  induction history generalizing board with
  | nil => exact ordered
  | cons entry rest ih => exact ih _ (perform_ordered board entry.1 entry.2 ordered)

end Ordered

section Intact

variable (board : Board) (now : Instant)

theorem insert_keeps_intact (store next : Store) (intact : store.Intact) (record : TaskRecord)
    (inserted : store.insert record = .ok next) : next.Intact := by
  cases found : store.find? record.id with
  | some known =>
      rw [Store.insert_known store intact record known found] at inserted
      cases inserted
  | none =>
      rw [Store.insert_intact store intact record found] at inserted
      cases inserted
      exact Store.intact_append store intact record found

theorem transition_intact (id : TaskId) (reference : String) (expected : List TaskState)
    (next : TaskState) (outcome : Option Outcome) (intact : board.store.Intact) :
    (board.transition id reference expected next outcome now).1.store.Intact := by
  rcases transition_cases board id reference expected next outcome now intact with
    ⟨record, _, _, _, won⟩ | ⟨_, lost⟩
  · rw [won, settled_store]
    exact Store.intact_update board.store intact _
  · rw [lost]
    exact intact

theorem perform_intact (call : Call) (intact : board.store.Intact) :
    (board.perform now call).store.Intact := by
  refine perform_keeps (fun board => board.store.Intact) ?_ ?_ ?_ ?_ board now call intact
  · intro board next intact store _
    exact store ▸ intact
  · intro board next record intact inserted _
    exact insert_keeps_intact board.store next.store intact record inserted
  · intro board id reference expected next outcome now intact
    exact transition_intact board now id reference expected next outcome intact
  · intro board next id record intact evicted _
    rw [Store.evict_intact board.store intact id] at evicted
    have left := (Prod.mk.inj (Except.ok.inj evicted)).2
    exact left ▸ Store.intact_remove board.store intact id

end Intact

end Foreman.Board
