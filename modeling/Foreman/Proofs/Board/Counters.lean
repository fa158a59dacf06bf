import Foreman.Number.Width
import Foreman.Proofs.Board.History

set_option autoImplicit false

namespace Foreman.Board

def canLeave (board : Board) : TaskState → Bool
  | .pending => decide (0 < board.waiting) && decide (0 < board.metrics.pending)
  | .running => decide (0 < board.metrics.running)
  | _ => true

def checked {α : Type} (board : Board) (id : TaskId) (result : α) : Option α :=
  if (board.store.find? id).all fun record => board.canLeave record.state then some result else none

def cancelOneChecked (reason : String) (now : Instant) (state : Board × Nat)
    (entry : TaskId × Nat) : Option (Board × Nat) :=
  state.1.checked entry.1 (cancelOne reason now state entry)

def cancelAllChecked (board : Board) (reason : String) (now : Instant) : Option (Board × Nat) :=
  board.tokens.held.foldlM (cancelOneChecked reason now) (board, 0)

-- The same calls, given up where a counter or a gauge would be lowered at zero.
def performChecked (board : Board) (now : Instant) : Call → Option Board
  | .markRunning assignment => board.checked assignment.id (board.markRunning assignment now).1
  | .finish assignment state outcome =>
      board.checked assignment.id (board.finish assignment state outcome now).1
  | .cancel id => board.checked id (board.cancel id now).1
  | .cancelAll reason => (board.cancelAllChecked reason now).map Prod.fst
  | call => some (board.perform now call)

def runChecked (board : Board) (history : List (Instant × Call)) : Option Board :=
  history.foldlM (fun board entry => board.performChecked entry.1 entry.2) board

def Call.HasCapacity (capacity : Nat) : Call → Prop
  | .enroll _ given => given = some capacity
  | _ => True

theorem balanced_leaves (board : Board) (balanced : board.Balanced) (id : TaskId)
    (record : TaskRecord) (found : board.store.find? id = some record) :
    board.canLeave record.state = true := by
  have positive := Store.tally_positive board.store id record found
  cases state : record.state with
  | pending =>
      rw [state] at positive
      simp only [canLeave, balanced.waiting, balanced.pending]
      simpa using positive
  | running =>
      rw [state] at positive
      simp only [canLeave, balanced.running]
      simpa using positive
  | succeeded => rfl
  | failed => rfl
  | timedOut => rfl
  | cancelled => rfl

theorem balanced_checked {α : Type} (board : Board) (balanced : board.Balanced) (id : TaskId)
    (result : α) : board.checked id result = some result := by
  rw [checked, if_pos]
  cases found : board.store.find? id with
  | none => rfl
  | some record => exact balanced_leaves board balanced id record found

theorem sweep_checked (reason : String) (now : Instant) (board : Board)
    (balanced : board.Balanced) (entries : List (TaskId × Nat)) (valid : Entries board entries)
    (count : Nat) :
    entries.foldlM (cancelOneChecked reason now) (board, count) =
      some (entries.foldl (cancelOne reason now) (board, count)) := by
  induction entries generalizing board count with
  | nil => rfl
  | cons entry rest ih =>
      obtain ⟨bound, own⟩ := valid entry (by simp)
      have first := cancel_one_evolves board reason now entry.1 entry.2 count balanced bound own
      have after := balanced_evolves _ _ first balanced
      have remaining := entries_rest reason now board balanced entry rest valid count
      rw [List.foldlM_cons, cancelOneChecked, balanced_checked board balanced]
      exact ih _ after remaining _

theorem perform_checked (board : Board) (balanced : board.Balanced) (now : Instant) (call : Call) :
    board.performChecked now call = some (board.perform now call) := by
  cases call with
  | enroll assignment capacity => rfl
  | reject id reference cause => rfl
  | markRunning assignment => exact balanced_checked board balanced assignment.id _
  | finish assignment state outcome => exact balanced_checked board balanced assignment.id _
  | cancel id => exact balanced_checked board balanced id _
  | cancelAll reason =>
      have swept := sweep_checked reason now board balanced board.tokens.held
        (held_entries board balanced) 0
      simp only [performChecked, cancelAllChecked, swept, Option.map_some]
      rfl
  | evict id | cancelToken token | setJobs jobs | setUtilization busy size | publish event => rfl

theorem run_checked (board : Board) (balanced : board.Balanced) (history : List (Instant × Call))
    (lawful : board.Lawful history) : board.runChecked history = some (board.run history) := by
  induction history generalizing board with
  | nil => rfl
  | cons entry rest ih =>
      have after := balanced_perform board balanced entry.1 entry.2 lawful.1
      rw [runChecked, List.foldlM_cons, perform_checked board balanced]
      exact ih (board.perform entry.1 entry.2) after lawful.2

theorem change_tally (board other : Board) (balanced : board.Balanced) (effect : Effect)
    (change : Change board effect other) (closed : ∀ id, effect ≠ .entered id) :
    other.store.tally .pending ≤ board.store.tally .pending := by
  cases change with
  | aside _ store tokens waiting pending running jobs => exact Nat.le_of_eq (by rw [store])
  | cancelled token bound unheld => exact Nat.le_refl _
  | planned jobs => exact Nat.le_refl _
  | enrolled assignment now absent => exact absurd rfl (closed assignment.id)
  | rejected record absent failed => exact absurd rfl (closed record.id)
  | started record reference now found waits =>
      have tally := moved_tally board balanced record found reference .running none now .pending
      have left : TaskState.running ≠ .pending := by decide
      simp only [if_neg left] at tally
      omega
  | ended record reference next outcome now found active terminal =>
      have tally := moved_tally board balanced record found reference next (some outcome) now .pending
      have left : next ≠ .pending := by
        rintro rfl
        cases terminal
      simp only [if_neg left] at tally
      omega
  | removed record found terminal =>
      have tally := Store.tally_remove board.store balanced.intact record.id record found .pending
      change (board.store.remove record.id).tally .pending ≤ _
      omega

theorem evolves_tally {allowed : Effect → Prop} (board last : Board) (balanced : board.Balanced)
    (evolves : Evolves allowed board last) (closed : ∀ id, ¬ allowed (.entered id)) :
    last.store.tally .pending ≤ board.store.tally .pending := by
  induction evolves with
  | refl => exact Nat.le_refl _
  | step between last effect earlier ok change ih =>
      have middle := balanced_evolves _ _ earlier balanced
      have notEntered (id : TaskId) : effect ≠ .entered id := fun same => closed id (same ▸ ok)
      exact Nat.le_trans (change_tally between last middle effect change notEntered) ih

-- The counter reads as what it counts below its 64 bits, so the queue is only full where it is.
theorem pending_read (board : Board) (balanced : board.Balanced) :
    board.pending = board.store.tally .pending % Number.bound64 := by
  rw [pending, balanced.waiting, ← Int.natCast_emod, Int.toNat_natCast]

theorem perform_within (board : Board) (balanced : board.Balanced) (now : Instant) (call : Call)
    (lawful : call.Lawful board) (capacity : Nat) (bound : capacity < Number.bound64)
    (same : call.HasCapacity capacity) (within : board.store.tally .pending ≤ capacity) :
    (board.perform now call).store.tally .pending ≤ capacity := by
  have evolves := perform_evolves board balanced now call lawful
  cases call with
  | enroll assignment given =>
      change given = some capacity at same
      subst same
      cases full : board.isFull (some capacity) with
      | true =>
          rw [perform, enroll_full board assignment (some capacity) now full]
          exact within
      | false =>
          have free : ¬ capacity ≤ board.store.tally .pending % Number.bound64 := by
            rw [← pending_read board balanced]
            simpa [isFull] using full
          have tally := Store.tally_append board.store (TaskRecord.pending assignment) .pending
          rw [if_pos (by rfl)] at tally
          rw [Nat.mod_eq_of_lt (by omega)] at free
          rw [perform, enroll_free board assignment (some capacity) now balanced.intact lawful full]
          change (board.stored (TaskRecord.pending assignment)).tally .pending ≤ capacity
          rw [stored, tally]
          omega
  | reject id reference cause =>
      have after := balanced_perform board balanced now (.reject id reference cause) lawful
      have kept : (board.perform now (.reject id reference cause)).waiting = board.waiting := by
        rw [perform, reject_done board id reference cause now balanced.intact lawful]
        rfl
      have counted := after.waiting.symm.trans (kept.trans balanced.waiting)
      rw [Int.ofNat_inj.mp counted]
      exact within
  | markRunning assignment =>
      exact Nat.le_trans (evolves_tally _ _ balanced evolves (by simp [Call.May])) within
  | finish assignment state outcome =>
      exact Nat.le_trans (evolves_tally _ _ balanced evolves (by simp [Call.May])) within
  | cancel id => exact Nat.le_trans (evolves_tally _ _ balanced evolves (by simp [Call.May])) within
  | cancelAll reason =>
      exact Nat.le_trans (evolves_tally _ _ balanced evolves (by simp [Call.May, Swept])) within
  | evict id | cancelToken token | setJobs jobs | setUtilization busy size | publish event =>
      exact Nat.le_trans (evolves_tally _ _ balanced evolves (by simp [Call.May])) within

theorem run_within (board : Board) (balanced : board.Balanced) (history : List (Instant × Call))
    (lawful : board.Lawful history) (capacity : Nat) (bound : capacity < Number.bound64)
    (same : ∀ entry ∈ history, entry.2.HasCapacity capacity)
    (within : board.store.tally .pending ≤ capacity) :
    (board.run history).store.tally .pending ≤ capacity := by
  induction history generalizing board with
  | nil => exact within
  | cons entry rest ih =>
      have first := perform_within board balanced entry.1 entry.2 lawful.1 capacity bound
        (same entry (by simp)) within
      have after := balanced_perform board balanced entry.1 entry.2 lawful.1
      exact ih (board.perform entry.1 entry.2) after lawful.2
        (fun later member => same later (by simp [member])) first

theorem counters_in_step (room : Nat) (history : List (Instant × Call))
    (lawful : (Board.empty room).Lawful history) :
    let board := (Board.empty room).run history
    board.waiting = board.store.tally .pending ∧
      board.pending = board.store.tally .pending % Number.bound64 ∧
      board.metrics.pending = board.store.tally .pending ∧
      board.metrics.running = board.store.tally .running ∧
      board.tokens.held.map Prod.fst = board.store.activeIds ∧
      (Board.empty room).runChecked history = some board ∧
      ∀ capacity, capacity < Number.bound64 →
        (∀ entry ∈ history, entry.2.HasCapacity capacity) →
        board.store.tally .pending ≤ capacity := by
  have start := balanced_empty room
  have balanced := balanced_run (Board.empty room) start history lawful
  refine ⟨balanced.waiting, pending_read _ balanced, balanced.pending, balanced.running,
    balanced.tokens, run_checked _ start history lawful, ?_⟩
  intro capacity bound same
  exact run_within _ start history lawful capacity bound same (Nat.zero_le capacity)

def threeTasks : List (Instant × Call) :=
  let task (number : Nat) : Assignment :=
    Assignment.ofRequest (Request.new "task") (TaskId.ofNumber number) .sync Instant.epoch
  let calls : List Call :=
    [.enroll (task 1) (some 3), .enroll (task 2) (some 3), .enroll (task 3) (some 3),
      .markRunning (task 1), .cancel (TaskId.ofNumber 2), .finish (task 1) .succeeded (.success .null),
      .evict (TaskId.ofNumber 1), .markRunning (task 2)]
  calls.map fun call => (Instant.epoch, call)

theorem three_tasks_in_step :
    (Board.empty 4).Lawful threeTasks ∧
      ((Board.empty 4).run threeTasks).store.tally .pending = 1 ∧
      ((Board.empty 4).run threeTasks).waiting = 1 ∧
      ((Board.empty 4).run threeTasks).metrics.pending = 1 ∧
      ((Board.empty 4).run threeTasks).store.activeIds = [TaskId.ofNumber 3] ∧
      ((Board.empty 4).run threeTasks).tokens.held.map Prod.fst = [TaskId.ofNumber 3] ∧
      ((Board.empty 4).run threeTasks).store.tally .pending ≤ 3 := by
  have lawful : (Board.empty 4).Lawful threeTasks := by decide +kernel
  have left : ((Board.empty 4).run threeTasks).store.tally .pending = 1 := by decide +kernel
  have active : ((Board.empty 4).run threeTasks).store.activeIds = [TaskId.ofNumber 3] := by
    decide +kernel
  obtain ⟨waiting, _, pending, _, tokens, _, within⟩ := counters_in_step 4 threeTasks lawful
  refine ⟨lawful, left, waiting.trans (congrArg _ left), pending.trans left, active,
    tokens.trans active, within 3 (by decide) ?_⟩
  simp [threeTasks, Call.HasCapacity]

end Foreman.Board
