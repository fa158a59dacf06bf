import Foreman.Proofs.Board.Change

set_option autoImplicit false

namespace Foreman.Board

theorem moved_store (board : Board) (record : TaskRecord) (reference : String) (next : TaskState)
    (outcome : Option Outcome) (now : Instant) :
    (board.moved record reference next outcome now).store =
      board.store.update (record.moved next outcome now) := by
  rw [moved, settled_store]

theorem moved_tokens (board : Board) (record : TaskRecord) (reference : String) (next : TaskState)
    (outcome : Option Outcome) (now : Instant) :
    (board.moved record reference next outcome now).tokens =
      if next.isTerminal then board.tokens.remove record.id else board.tokens := by
  rw [moved, settled_tokens]

theorem moved_jobs (board : Board) (record : TaskRecord) (reference : String) (next : TaskState)
    (outcome : Option Outcome) (now : Instant) :
    (board.moved record reference next outcome now).jobs = board.jobs := by
  rw [moved, settled_jobs]

theorem moved_held (board : Board) (balanced : board.Balanced) (record : TaskRecord)
    (found : board.store.find? record.id = some record)
    (active : record.state.isTerminal = false) (reference : String) (next : TaskState)
    (outcome : Option Outcome) (now : Instant) :
    (board.moved record reference next outcome now).tokens.held.map Prod.fst =
      (board.moved record reference next outcome now).store.activeIds := by
  rw [moved_tokens, moved_store]
  cases ended : next.isTerminal with
  | true =>
      have after := Store.active_update_terminal board.store balanced.intact
        (record.moved next outcome now) record found active ended
      rw [after, ← balanced.tokens, if_pos rfl]
      simp only [Tokens.remove, List.filter_map, TaskRecord.moved]
      rfl
  | false =>
      have after := Store.active_update_active board.store balanced.intact
        (record.moved next outcome now) record found active ended
      rw [after, ← balanced.tokens, if_neg (by simp)]

theorem moved_tally (board : Board) (balanced : board.Balanced) (record : TaskRecord)
    (found : board.store.find? record.id = some record) (reference : String) (next : TaskState)
    (outcome : Option Outcome) (now : Instant) (state : TaskState) :
    (board.moved record reference next outcome now).store.tally state +
        (if record.state = state then 1 else 0) =
      board.store.tally state + (if next = state then 1 else 0) := by
  rw [moved_store]
  exact Store.tally_update board.store balanced.intact (record.moved next outcome now) record found state

theorem balanced_moved (board : Board) (balanced : board.Balanced) (record : TaskRecord)
    (found : board.store.find? record.id = some record)
    (active : record.state.isTerminal = false) (reference : String) (next : TaskState)
    (outcome : Option Outcome) (distinct : next ≠ .pending)
    (onward : next.isTerminal = false → outcome = none) (now : Instant) :
    (board.moved record reference next outcome now).Balanced := by
  have positive := Store.tally_positive board.store record.id record found
  have pendingTally := moved_tally board balanced record found reference next outcome now .pending
  have runningTally := moved_tally board balanced record found reference next outcome now .running
  have gauges := transition_gauges record.state next board.metrics distinct
  rw [if_neg distinct] at pendingTally
  refine ⟨?_, ?_, ?_, ?_, ?_, ?_, ?_⟩
  · rw [moved_store]
    exact Store.intact_update board.store balanced.intact _
  · rw [moved_tokens]
    split
    · exact Tokens.guarded_remove board.tokens balanced.guarded record.id
    · exact balanced.guarded
  · have counted : (board.moved record reference next outcome now).waiting =
        if record.state = .pending then board.waiting - 1 else board.waiting := settled_waiting ..
    rw [counted, balanced.waiting]
    split at pendingTally <;> rename_i pending <;> simp only [pending, if_true, if_false] <;> omega
  · rw [moved, settled_metrics, (measured_gauges _ _ _ _).1, gauges.1, balanced.pending, ← moved]
    split at pendingTally <;> rename_i pending <;> simp only [pending, if_true, if_false] <;> omega
  · rw [moved, settled_metrics, (measured_gauges _ _ _ _).2, gauges.2, balanced.running, ← moved]
    by_cases running : record.state = .running
    · rw [running] at positive
      simp only [running, if_true] at runningTally ⊢
      omega
    · simp only [running, if_false] at runningTally ⊢
      omega
  · exact moved_held board balanced record found active reference next outcome now
  · rw [moved_store]
    intro other member open_
    rcases Store.member_update board.store _ other member with same | stored
    · subst same
      have undecided := balanced.undecided record (Store.find_member _ _ _ found) active
      simp [TaskRecord.moved, undecided, onward open_]
    · exact balanced.undecided other stored open_

theorem absent_unheld (board : Board) (balanced : board.Balanced) (id : TaskId)
    (absent : board.store.find? id = none) : (board.tokens.remove id).held = board.tokens.held := by
  rw [Tokens.remove, List.filter_eq_self]
  intro pair member
  have other : pair.1 ≠ id := by
    intro same
    obtain ⟨record, found, _⟩ := (held_iff board balanced pair.1).mp ⟨pair.2, member⟩
    rw [same, absent] at found
    cases found
  simpa using other

theorem balanced_enrolled (board : Board) (balanced : board.Balanced) (assignment : Assignment)
    (absent : board.store.find? assignment.id = none) (now : Instant) :
    (board.enrolled assignment (board.stored (TaskRecord.pending assignment))
      (board.tokens.issue assignment.id).1 now).Balanced := by
  have tally (state : TaskState) :
      (board.stored (TaskRecord.pending assignment)).tally state =
        board.store.tally state + (if TaskState.pending = state then 1 else 0) :=
    Store.tally_append board.store (TaskRecord.pending assignment) state
  refine ⟨?_, ?_, ?_, ?_, ?_, ?_, ?_⟩
  · exact Store.intact_append board.store balanced.intact (TaskRecord.pending assignment) absent
  · exact Tokens.guarded_issue board.tokens balanced.guarded assignment.id
  · change board.waiting + 1 = ((board.stored (TaskRecord.pending assignment)).tally .pending : Int)
    rw [tally, balanced.waiting]
    simp
  · change board.metrics.pending + 1 = (board.stored (TaskRecord.pending assignment)).tally .pending
    rw [tally, balanced.pending]
    simp
  · change board.metrics.running = (board.stored (TaskRecord.pending assignment)).tally .running
    rw [tally, balanced.running]
    simp
  · have active := Store.active_append board.store (TaskRecord.pending assignment)
    have held := absent_unheld board balanced assignment.id absent
    simp only [enrolled, Tokens.issue, held, List.map_append, balanced.tokens]
    exact active.symm
  · intro record member _
    rcases List.mem_append.mp member with earlier | single
    · exact balanced.undecided record earlier (by assumption)
    · rw [List.mem_singleton.mp single]
      rfl

theorem balanced_rejected (board : Board) (balanced : board.Balanced) (record : TaskRecord)
    (absent : board.store.find? record.id = none) (failed : record.state.isTerminal = true) :
    (board.rejected record).Balanced := by
  have tally (state : TaskState) : (board.stored record).tally state =
      board.store.tally state + (if record.state = state then 1 else 0) :=
    Store.tally_append board.store record state
  have notPending : record.state ≠ .pending := by
    intro same
    simp [same, TaskState.isTerminal] at failed
  have notRunning : record.state ≠ .running := by
    intro same
    simp [same, TaskState.isTerminal] at failed
  refine ⟨?_, balanced.guarded, ?_, ?_, ?_, ?_, ?_⟩
  · exact Store.intact_append board.store balanced.intact record absent
  · change board.waiting = ((board.stored record).tally .pending : Int)
    rw [tally, balanced.waiting, if_neg notPending, Nat.add_zero]
  · change board.metrics.pending = (board.stored record).tally .pending
    rw [tally, balanced.pending, if_neg notPending, Nat.add_zero]
  · change board.metrics.running = (board.stored record).tally .running
    rw [tally, balanced.running, if_neg notRunning, Nat.add_zero]
  · have active := Store.active_append board.store record
    rw [if_pos failed, List.append_nil] at active
    exact balanced.tokens.trans active.symm
  · intro other member open_
    rcases List.mem_append.mp member with earlier | single
    · exact balanced.undecided other earlier open_
    · rw [List.mem_singleton.mp single, failed] at open_
      cases open_

theorem balanced_removed (board : Board) (balanced : board.Balanced) (record : TaskRecord)
    (found : board.store.find? record.id = some record)
    (terminal : record.state.isTerminal = true) :
    ({ board with store := board.store.remove record.id } : Board).Balanced := by
  have tally := Store.tally_remove board.store balanced.intact record.id record found
  have pendingTally := tally .pending
  have runningTally := tally .running
  have notPending : record.state ≠ .pending := by
    intro same
    simp [same, TaskState.isTerminal] at terminal
  have notRunning : record.state ≠ .running := by
    intro same
    simp [same, TaskState.isTerminal] at terminal
  rw [if_neg notPending, Nat.add_zero] at pendingTally
  rw [if_neg notRunning, Nat.add_zero] at runningTally
  refine ⟨?_, balanced.guarded, ?_, ?_, ?_, ?_, ?_⟩
  · exact Store.intact_remove board.store balanced.intact record.id
  · exact balanced.waiting.trans (congrArg Nat.cast pendingTally.symm)
  · exact balanced.pending.trans pendingTally.symm
  · exact balanced.running.trans runningTally.symm
  · have active := Store.active_remove_terminal board.store balanced.intact record.id record found terminal
    exact balanced.tokens.trans active.symm
  · intro other member open_
    exact balanced.undecided other (List.mem_of_mem_filter member) open_

theorem balanced_change (board other : Board) (effect : Effect) (change : Change board effect other)
    (balanced : board.Balanced) : other.Balanced := by
  cases change with
  | aside _ store tokens waiting pending running jobs =>
      refine ⟨?_, ?_, ?_, ?_, ?_, ?_, ?_⟩
      · exact store ▸ balanced.intact
      · exact tokens ▸ balanced.guarded
      · rw [waiting, store, balanced.waiting]
      · rw [pending, store, balanced.pending]
      · rw [running, store, balanced.running]
      · rw [tokens, store, balanced.tokens]
      · exact store ▸ balanced.undecided
  | cancelled token bound unheld =>
      refine ⟨balanced.intact, Tokens.guarded_cancel _ balanced.guarded token bound unheld,
        balanced.waiting, balanced.pending, balanced.running, ?_, balanced.undecided⟩
      rw [cancelToken, (Tokens.cancel_held board.tokens token).1]
      exact balanced.tokens
  | planned jobs =>
      exact ⟨balanced.intact, balanced.guarded, balanced.waiting, balanced.pending,
        balanced.running, balanced.tokens, balanced.undecided⟩
  | enrolled assignment now absent => exact balanced_enrolled board balanced assignment absent now
  | rejected record absent failed => exact balanced_rejected board balanced record absent failed
  | started record reference now found waits =>
      have active : record.state.isTerminal = false := by rw [waits]; rfl
      exact balanced_moved board balanced record found active reference .running none (by simp)
        (fun _ => rfl) now
  | ended record reference next outcome now found active terminal =>
      have distinct : next ≠ .pending := by
        rintro rfl
        cases terminal
      exact balanced_moved board balanced record found active reference next (some outcome) distinct
        (fun open_ => by rw [terminal] at open_; cases open_) now
  | removed record found terminal => exact balanced_removed board balanced record found terminal

theorem balanced_evolves {allowed : Effect → Prop} (board last : Board)
    (evolves : Evolves allowed board last) (balanced : board.Balanced) : last.Balanced := by
  induction evolves with
  | refl => exact balanced
  | step between last effect _ _ change ih => exact balanced_change between last effect change ih

end Foreman.Board
