import Foreman.Proofs.Board.Keeping
import Foreman.Proofs.Board.Turn

set_option autoImplicit false

namespace Foreman.Board

def aborted (reason : String) (now : Instant) (record : TaskRecord) : TaskRecord :=
  if record.state.isTerminal then record
  else
    { record with
      state := .cancelled
      outcome := some (abortion reason record now)
      finishedAt := some now }

def lapse (now : Instant) (record : TaskRecord) : Option Span :=
  if record.state = .running then { record with finishedAt := some now }.duration else none

def obituary (reason : String) (now : Instant) (record : TaskRecord) : Event where
  kind := .taskCancelled
  time := now
  job := none
  task := some record.id
  reference := some record.reference
  outcome := some (.failure (Failure.ofKind record.kind reason now))

section Record

variable (reason : String) (now : Instant) (record : TaskRecord)

@[simp] theorem aborted_id : (aborted reason now record).id = record.id := by
  unfold aborted
  split <;> rfl

theorem aborted_terminal : (aborted reason now record).state.isTerminal = true := by
  by_cases ended : record.state.isTerminal = true
  · rw [aborted, if_pos ended]
    exact ended
  · rw [aborted, if_neg ended]
    rfl

theorem aborted_kept (ended : record.state.isTerminal = true) :
    aborted reason now record = record := if_pos ended

theorem moved_aborted (active : record.state.isTerminal = false) (undecided : record.outcome = none) :
    record.moved .cancelled (some (abortion reason record now)) now = aborted reason now record := by
  rw [aborted, active, if_neg (by simp), TaskRecord.moved, undecided]
  rfl

end Record

/-- Nothing is left out but the list of cancelled tokens. -/
structure Aborts (board : Board) (reason : String) (now : Instant) (record : TaskRecord)
    (after : Board) : Prop where
  records : after.store.records = board.store.records.map fun old =>
    if old.id = record.id then aborted reason now old else old
  serving : after.store.refused = board.store.refused
  held : after.tokens.held = board.tokens.held.filter fun entry => entry.1 != record.id
  fresh : after.tokens.fresh = board.tokens.fresh
  bus : after.bus =
    { board.bus with published := board.bus.published ++ [obituary reason now record] }
  waiting : after.waiting = board.waiting - if record.state = .pending then 1 else 0
  metrics : after.metrics =
    measured (board.metrics.recordTransition record.state .cancelled) record.reference now
      (lapse now record)
  announcements : after.announcements = board.announcements + 1
  jobs : after.jobs = board.jobs

section Moved

variable (board : Board) (record : TaskRecord) (reason : String) (now : Instant)

theorem update_each (intact : board.store.Intact) (change : TaskRecord → TaskRecord)
    (found : board.store.find? record.id = some record) (named : (change record).id = record.id) :
    (board.store.update (change record)).records = board.store.records.map fun old =>
      if old.id = record.id then change old else old := by
  rw [Store.update, named]
  apply List.map_congr_left
  intro old member
  by_cases same : old.id = record.id
  · have stored := Store.member_found board.store intact old member
    rw [same, found, Option.some.injEq] at stored
    rw [if_pos same, if_pos same, stored]
  · rw [if_neg same, if_neg same]

theorem lapse_measured (balanced : board.Balanced)
    (found : board.store.find? record.id = some record) :
    (({ board with store := board.store.update (aborted reason now record) } : Board).runTime
      record.id record.state .cancelled) = lapse now record := by
  by_cases running : record.state = .running
  · have intact := Store.intact_update board.store balanced.intact (aborted reason now record)
    have after := Store.find_update_same board.store (aborted reason now record) record
      (by rw [aborted_id]; exact found)
    rw [aborted_id] at after
    rw [lapse, if_pos running, runTime, if_pos ⟨rfl, running⟩]
    simp only [Store.get_intact _ intact, after]
    simp [aborted, running, TaskState.isTerminal, TaskRecord.duration]
  · rw [lapse, if_neg running, runTime, if_neg fun both => running both.2]

theorem moved_aborts (balanced : board.Balanced)
    (found : board.store.find? record.id = some record) (active : record.state.isTerminal = false) :
    Aborts board reason now record
      (board.moved record record.reference .cancelled (some (abortion reason record now)) now) := by
  have undecided := balanced.undecided record (Store.find_member _ _ _ found) active
  have terminal : TaskState.cancelled.isTerminal = true := rfl
  have ended := moved_aborted reason now record active undecided
  refine ⟨?_, ?_, ?_, ?_, ?_, ?_, ?_, ?_, ?_⟩
  · rw [moved_store, ended]
    exact update_each board record balanced.intact (aborted reason now) found
      (aborted_id reason now record)
  · rw [moved_store]
    rfl
  · rw [moved_tokens, if_pos terminal]
    rfl
  · rw [moved_tokens, if_pos terminal]
    rfl
  · rw [moved_bus, if_pos terminal, obituary, ← Failure.of_kind_new]
    rfl
  · rw [moved, settled_waiting]
    split <;> simp
  · rw [moved, settled_metrics, ended, lapse_measured board record reason now balanced found]
  · rfl
  · exact moved_jobs _ _ _ _ _ _

end Moved

theorem aborts_told (board after : Board) (record : TaskRecord) (reason : String) (now : Instant)
    (aborts : Aborts board reason now record after) (token : Nat) :
    Aborts board reason now record (after.cancelToken token) := by
  obtain ⟨held, fresh⟩ := Tokens.cancel_held after.tokens token
  exact ⟨aborts.records, aborts.serving, held.trans aborts.held, fresh.trans aborts.fresh,
    aborts.bus, aborts.waiting, aborts.metrics, aborts.announcements, aborts.jobs⟩

section Counts

variable {board after : Board} {record : TaskRecord} {reason : String} {now : Instant}

theorem aborts_found (aborts : Aborts board reason now record after)
    (id : TaskId) :
    after.store.find? id =
      (board.store.find? id).map fun old =>
        if old.id = record.id then aborted reason now old else old := by
  have sameTest : ((fun old : TaskRecord => old.id == id) ∘ fun old : TaskRecord =>
      if old.id = record.id then aborted reason now old else old) = fun old => old.id == id := by
    funext old
    by_cases same : old.id = record.id <;> simp [same]
  rw [Store.find?, Store.find?, aborts.records, List.find?_map, sameTest]

theorem aborts_submitted (aborts : Aborts board reason now record after) :
    after.metrics.submitted = board.metrics.submitted := by
  rw [aborts.metrics]
  cases lapse now record <;> exact (Metrics.transition_kept board.metrics record.state .cancelled).1

theorem aborts_finished (aborts : Aborts board reason now record after) :
    after.metrics.finished = Metrics.addFinished .cancelled board.metrics.finished := by
  have booked : (board.metrics.recordTransition record.state .cancelled).finished =
      Metrics.addFinished .cancelled board.metrics.finished := by
    cases record.state <;> rfl
  rw [aborts.metrics]
  cases lapse now record <;> exact booked

theorem aborts_executions (aborts : Aborts board reason now record after) (reference : String) :
    after.metrics.executions reference = board.metrics.executions reference +
      if record.reference = reference ∧ (lapse now record).isSome then 1 else 0 := by
  rw [aborts.metrics, measured_executions]
  simp only [Bool.and_eq_true, beq_iff_eq, and_comm]

end Counts

end Foreman.Board
