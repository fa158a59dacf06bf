import Foreman.Proofs.Board.Calls

set_option autoImplicit false

namespace Foreman

namespace Tokens

theorem find_none_iff_unheld (tokens : Tokens) (id : TaskId) :
    tokens.find? id = none ↔ ∀ entry ∈ tokens.held, entry.1 ≠ id := by
  simp [find?]

theorem find_removed (tokens : Tokens) (id : TaskId) : (tokens.remove id).find? id = none := by
  rw [find_none_iff_unheld]
  exact fun entry member => (remove_subset tokens id entry member).2

theorem find_kept (tokens : Tokens) (id other : TaskId) (different : other ≠ id) :
    (tokens.remove id).find? other = tokens.find? other := by
  have tests : (fun entry : TaskId × Nat => decide (entry.1 != id ∧ entry.1 == other)) =
      fun entry => entry.1 == other := by
    funext entry
    by_cases same : entry.1 = other <;> simp [same, different]
  simp only [find?, remove, List.find?_filter, tests]

theorem held_kept_iff (tokens : Tokens) (id : TaskId) :
    (tokens.remove id).held = tokens.held ↔ tokens.find? id = none := by
  rw [find_none_iff_unheld, remove, List.filter_eq_self]
  simp

-- A token that is issued for an id and taken back leaves the id without any token.
theorem issued_removed (tokens : Tokens) (id : TaskId) :
    ((tokens.issue id).1.remove id).held = (tokens.remove id).held := by
  simp [issue, remove]

end Tokens

namespace Board

-- Boards that show the same, to whoever does not look at the table of tokens.
structure SameButTokens (before after : Board) : Prop where
  store : after.store = before.store
  waiting : after.waiting = before.waiting
  metrics : after.metrics = before.metrics
  bus : after.bus = before.bus
  announcements : after.announcements = before.announcements
  jobs : after.jobs = before.jobs
  cancelled : after.tokens.cancelled = before.tokens.cancelled

section Enroll

variable (board : Board) (assignment : Assignment) (capacity : Option Nat) (now : Instant)

theorem enroll_refused (room : board.isFull capacity = false) (cause : StoreError)
    (refused : board.store.insert (TaskRecord.pending assignment) = .error cause) :
    board.enroll assignment capacity now =
      ({ board with tokens := (board.tokens.issue assignment.id).1.remove assignment.id },
        .error (.store cause)) := by
  simp only [enroll, room, refused, Bool.false_eq_true, if_false]

theorem enroll_accepted (room : board.isFull capacity = false) (store : Store)
    (inserted : board.store.insert (TaskRecord.pending assignment) = .ok store) :
    (board.enroll assignment capacity now).2 = .ok board.tokens.fresh := by
  simp only [enroll, room, inserted, Bool.false_eq_true, if_false, Tokens.issue]

theorem refusal_cases (error : SchedulerError)
    (refused : (board.enroll assignment capacity now).2 = .error error) :
    (board.isFull capacity = true ∧ (board.enroll assignment capacity now).1 = board) ∨
      (board.isFull capacity = false ∧ (board.enroll assignment capacity now).1 =
        { board with tokens := (board.tokens.issue assignment.id).1.remove assignment.id }) := by
  cases full : board.isFull capacity with
  | true => exact .inl ⟨rfl, by rw [enroll_full board assignment capacity now full]⟩
  | false =>
      refine .inr ⟨rfl, ?_⟩
      cases inserted : board.store.insert (TaskRecord.pending assignment) with
      | error cause => rw [enroll_refused board assignment capacity now full cause inserted]
      | ok store =>
          rw [enroll_accepted board assignment capacity now full store inserted] at refused
          cases refused

end Enroll

theorem refusal_keeps_board (board : Board) (assignment : Assignment) (capacity : Option Nat)
    (now : Instant) (error : SchedulerError)
    (refused : (board.enroll assignment capacity now).2 = .error error) :
    let after := (board.enroll assignment capacity now).1
    SameButTokens board after ∧
      (∀ id, id ≠ assignment.id → after.tokens.find? id = board.tokens.find? id) ∧
      (board.isFull capacity = false → after.tokens.find? assignment.id = none) ∧
      (after.tokens.held = board.tokens.held ↔
        board.isFull capacity = true ∨ board.tokens.find? assignment.id = none) := by
  intro after
  rcases refusal_cases board assignment capacity now error refused with
    ⟨full, same⟩ | ⟨room, same⟩
  · have unmoved : after = board := same
    rw [unmoved, full]
    exact ⟨⟨rfl, rfl, rfl, rfl, rfl, rfl, rfl⟩, fun _ _ => rfl, by simp, by simp⟩
  · have held : after.tokens.held = (board.tokens.remove assignment.id).held := by
      rw [show after = _ from same]
      exact Tokens.issued_removed board.tokens assignment.id
    have finds (id : TaskId) :
        after.tokens.find? id = (board.tokens.remove assignment.id).find? id := by
      rw [Tokens.find?, Tokens.find?, held]
    refine ⟨?_, fun id different => ?_, fun _ => ?_, ?_⟩
    · rw [show after = _ from same]
      exact ⟨rfl, rfl, rfl, rfl, rfl, rfl, rfl⟩
    · rw [finds, Tokens.find_kept board.tokens assignment.id id different]
    · rw [finds, Tokens.find_removed]
    · rw [held, Tokens.held_kept_iff, room]
      simp

def errand (number : Nat) : Assignment :=
  Assignment.ofRequest (Request.new "tasks:errand") (TaskId.ofNumber number) .async Instant.epoch

def busyBoard : Board :=
  let first := ((Board.empty 4).enroll (errand 1) none Instant.epoch).1
  (first.enroll (errand 2) none Instant.epoch).1

theorem repeated_errand_refused :
    (busyBoard.enroll (errand 2) none Instant.epoch).2 =
        .error (.store (.duplicate (TaskId.ofNumber 2))) ∧
      let after := (busyBoard.enroll (errand 2) none Instant.epoch).1
      SameButTokens busyBoard after ∧ after.tokens.find? (TaskId.ofNumber 1) = some 0 ∧
        after.tokens.find? (TaskId.ofNumber 2) = none := by
  have refused : (busyBoard.enroll (errand 2) none Instant.epoch).2 =
      .error (.store (.duplicate (TaskId.ofNumber 2))) := rfl
  obtain ⟨same, others, own, _⟩ :=
    refusal_keeps_board busyBoard (errand 2) none Instant.epoch _ refused
  exact ⟨refused, same, others (TaskId.ofNumber 1) (by decide), own rfl⟩

theorem refusal_takes_token :
    ¬ ∀ (board : Board) (assignment : Assignment) (capacity : Option Nat) (now : Instant)
      (error : SchedulerError), (board.enroll assignment capacity now).2 = .error error →
        ∀ id, (board.enroll assignment capacity now).1.tokens.find? id = board.tokens.find? id := by
  intro keeps
  have kept := keeps busyBoard (errand 2) none Instant.epoch _ rfl (TaskId.ofNumber 2)
  exact absurd kept (by decide)

end Board

end Foreman
