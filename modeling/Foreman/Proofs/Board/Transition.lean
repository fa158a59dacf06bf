import Foreman.Board.Calls
import Foreman.Proofs.Store.Records

set_option autoImplicit false

namespace Foreman.Board

section Settled

variable (board : Board) (id : TaskId) (reference : String) (previous next : TaskState)
  (outcome : Option Outcome) (now : Instant)

theorem measured_gauges (metrics : Metrics) (duration : Option Span) :
    (measured metrics reference now duration).pending = metrics.pending ∧
      (measured metrics reference now duration).running = metrics.running := by
  cases duration <;> exact ⟨rfl, rfl⟩

theorem transition_gauges (metrics : Metrics) (distinct : next ≠ .pending) :
    (metrics.recordTransition previous next).pending =
        metrics.pending - (if previous = .pending then 1 else 0) ∧
      (metrics.recordTransition previous next).running =
        metrics.running - (if previous = .running then 1 else 0) +
          (if next = .running then 1 else 0) := by
  cases previous <;> cases next <;> first | exact absurd rfl distinct | exact ⟨rfl, rfl⟩

@[simp] theorem settled_store :
    (board.settled id reference previous next outcome now).store = board.store := by
  unfold settled
  split <;> rfl

@[simp] theorem settled_waiting :
    (board.settled id reference previous next outcome now).waiting =
      if previous = .pending then board.waiting - 1 else board.waiting := by
  unfold settled
  split <;> rfl

@[simp] theorem settled_tokens :
    (board.settled id reference previous next outcome now).tokens =
      if next.isTerminal then board.tokens.remove id else board.tokens := by
  unfold settled
  split <;> rfl

@[simp] theorem settled_jobs :
    (board.settled id reference previous next outcome now).jobs = board.jobs := by
  unfold settled
  split <;> rfl

theorem settled_metrics :
    (board.settled id reference previous next outcome now).metrics =
      measured (board.metrics.recordTransition previous next) reference now
        (board.runTime id previous next) := by
  unfold settled
  split <;> rfl

end Settled

section Transition

variable (board : Board) (id : TaskId) (reference : String) (expected : List TaskState)
  (next : TaskState) (outcome : Option Outcome) (now : Instant)

theorem transition_won (intact : board.store.Intact) (record : TaskRecord)
    (found : board.store.find? id = some record) (active : record.state.isTerminal = false)
    (awaited : record.state ∈ expected) :
    board.transition id reference expected next outcome now =
      (({ board with store := board.store.update (record.moved next outcome now) } : Board).settled
        id reference record.state next outcome now, true) := by
  simp [transition, Store.transition, Store.permit_open _ intact, found, active, awaited,
    bind, Except.bind]

theorem transition_lost (intact : board.store.Intact)
    (refused : ∀ record, board.store.find? id = some record →
      record.state.isTerminal = true ∨ record.state ∉ expected) :
    board.transition id reference expected next outcome now = (board, false) := by
  cases found : board.store.find? id with
  | none => simp [transition, Store.transition, Store.permit_open _ intact, found, bind, Except.bind]
  | some record =>
      have closed : (record.state.isTerminal || !expected.contains record.state) = true := by
        simpa using refused record found
      simp only [transition, Store.transition, Store.permit_open _ intact, found, bind, Except.bind,
        closed, if_true]

theorem transition_cases (intact : board.store.Intact) :
    (∃ record, board.store.find? id = some record ∧ record.state.isTerminal = false ∧
      record.state ∈ expected ∧
      board.transition id reference expected next outcome now =
        (({ board with store := board.store.update (record.moved next outcome now) } : Board).settled
          id reference record.state next outcome now, true)) ∨
    ((∀ record, board.store.find? id = some record →
        record.state.isTerminal = true ∨ record.state ∉ expected) ∧
      board.transition id reference expected next outcome now = (board, false)) := by
  by_cases open_ : ∃ record, board.store.find? id = some record ∧
      record.state.isTerminal = false ∧ record.state ∈ expected
  · obtain ⟨record, found, active, awaited⟩ := open_
    exact .inl ⟨record, found, active, awaited,
      transition_won board id reference expected next outcome now intact record found active awaited⟩
  · have refused : ∀ record, board.store.find? id = some record →
        record.state.isTerminal = true ∨ record.state ∉ expected := by
      intro record found
      by_cases ended : record.state.isTerminal = true
      · exact .inl ended
      · exact .inr fun awaited => open_ ⟨record, found, by simpa using ended, awaited⟩
    exact .inr ⟨refused,
      transition_lost board id reference expected next outcome now intact refused⟩

end Transition

end Foreman.Board
