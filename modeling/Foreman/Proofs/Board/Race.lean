import Foreman.Proofs.Board.History

set_option autoImplicit false

namespace Foreman.Board

structure Bid where
  expected : List TaskState
  target : TaskState
  outcome : Option Outcome

def Call.bid (record : TaskRecord) (now : Instant) : Call → Option Bid
  | .markRunning _ => some ⟨[.pending], .running, none⟩
  | .finish _ state outcome => some ⟨TaskState.active, state, some outcome⟩
  | .cancel _ => some ⟨cancellable record, .cancelled, some (cancellation record now)⟩
  | _ => none

def Call.Competes (id : TaskId) : Call → Prop
  | .markRunning assignment => assignment.id = id
  | .finish assignment state _ => assignment.id = id ∧ state.isTerminal = true
  | .cancel other => other = id
  | _ => False

-- What a caller is told: whether the call has moved the task on.
def answer (board : Board) (now : Instant) : Call → Bool
  | .markRunning assignment => (board.markRunning assignment now).2
  | .finish assignment state outcome => (board.finish assignment state outcome now).2
  | .cancel id =>
      match (board.cancel id now).2 with
      | .ok won => won
      | .error _ => false
  | _ => false

def answers (board : Board) : List (Instant × Call) → List Bool
  | [] => []
  | (now, call) :: rest => board.answer now call :: (board.perform now call).answers rest

theorem cancellable_active (record : TaskRecord) (state : TaskState)
    (awaited : state ∈ cancellable record) : state.isTerminal = false := by
  unfold cancellable at awaited
  split at awaited
  · exact (expected_active state).mp awaited
  · rw [List.mem_singleton.mp awaited]
    rfl

theorem bid_active (record : TaskRecord) (now : Instant) (call : Call) (bid : Bid)
    (bids : call.bid record now = some bid) (state : TaskState) (awaited : state ∈ bid.expected) :
    state.isTerminal = false := by
  cases call with
  | markRunning assignment =>
      cases bids
      rw [List.mem_singleton.mp awaited]
      rfl
  | finish assignment next outcome =>
      cases bids
      exact (expected_active state).mp awaited
  | cancel id =>
      cases bids
      exact cancellable_active record state awaited
  | _ => cases bids

theorem bid_outcome (record : TaskRecord) (now : Instant) (call : Call) (id : TaskId) (bid : Bid)
    (competes : call.Competes id) (bids : call.bid record now = some bid) :
    bid.target.isTerminal = bid.outcome.isSome := by
  cases call with
  | markRunning assignment =>
      cases bids
      rfl
  | finish assignment next outcome =>
      cases bids
      exact competes.2
  | cancel other =>
      cases bids
      rfl
  | _ => cases bids

theorem bid_cases (board : Board) (balanced : board.Balanced) (now : Instant) (call : Call)
    (id : TaskId) (competes : call.Competes id) (record : TaskRecord)
    (found : board.store.find? id = some record) :
    ∃ bid, call.bid record now = some bid ∧
      ((record.state ∈ bid.expected ∧ board.answer now call = true ∧
          (board.perform now call).store.find? id =
            some (record.moved bid.target bid.outcome now)) ∨
        (record.state ∉ bid.expected ∧ board.answer now call = false ∧
          board.perform now call = board)) := by
  have has := Store.find_has_id board.store id record found
  have intact := balanced.intact
  cases call with
  | markRunning assignment =>
      change assignment.id = id at competes
      refine ⟨_, rfl, ?_⟩
      rcases mark_running_cases board now intact assignment with
        ⟨winner, stored, waits, won⟩ | ⟨refused, lost⟩
      · rw [competes, found, Option.some.injEq] at stored
        subst stored
        refine .inl ⟨List.mem_singleton.mpr waits, by rw [answer, won], ?_⟩
        rw [perform, won, moved_found board record (has ▸ found), if_pos has]
      · refine .inr ⟨?_, by rw [answer, lost], by rw [perform, lost]⟩
        exact fun awaited => refused record (competes ▸ found) (List.mem_singleton.mp awaited)
  | finish assignment next outcome =>
      refine ⟨_, rfl, ?_⟩
      rcases end_cases board now intact assignment.id assignment.reference TaskState.active next
          outcome with ⟨winner, stored, _, awaited, won⟩ | ⟨refused, lost⟩
      · rw [competes.1, found, Option.some.injEq] at stored
        subst stored
        refine .inl ⟨awaited, by rw [answer, Board.finish, won], ?_⟩
        rw [perform, Board.finish, won, moved_found board record (has ▸ found), if_pos has]
      · refine .inr ⟨?_, by rw [answer, Board.finish, lost], by rw [perform, Board.finish, lost]⟩
        intro awaited
        have active := (expected_active record.state).mp awaited
        rcases refused record (competes.1 ▸ found) with ended | unexpected
        · rw [active] at ended
          cases ended
        · exact unexpected awaited
  | cancel other =>
      change other = id at competes
      subst competes
      refine ⟨_, rfl, ?_⟩
      by_cases awaited : record.state ∈ cancellable record
      · have active := cancellable_active record record.state awaited
        have won := cancel_won board now intact other record found active awaited
        refine .inl ⟨awaited, by rw [answer, won], ?_⟩
        rw [perform, won]
        change (cancelToken? _ _).store.find? other = _
        rw [cancel_token_store, moved_found board record (has ▸ found), if_pos has]
      · have lost := cancel_lost board now intact other record found (.inr awaited)
        exact .inr ⟨awaited, by rw [answer, lost], by rw [perform, lost]⟩
  | _ => cases competes

theorem competes_lawful (board : Board) (id : TaskId) (call : Call) (competes : call.Competes id) :
    call.Lawful board := by
  cases call with
  | markRunning assignment => trivial
  | finish assignment state outcome => exact competes.2
  | cancel other => trivial
  | _ => cases competes

theorem rivals_lawful (board : Board) (id : TaskId) (rivals : List (Instant × Call))
    (compete : ∀ entry ∈ rivals, entry.2.Competes id) : board.Lawful rivals := by
  induction rivals generalizing board with
  | nil => trivial
  | cons entry rest ih =>
      refine ⟨competes_lawful board id entry.2 (compete entry (by simp)), ?_⟩
      exact ih _ fun later member => compete later (by simp [member])

theorem rivals_stored (board : Board) (balanced : board.Balanced) (id : TaskId)
    (record : TaskRecord) (found : board.store.find? id = some record)
    (rivals : List (Instant × Call)) (compete : ∀ entry ∈ rivals, entry.2.Competes id) :
    ∃ later, (board.run rivals).store.find? id = some later := by
  induction rivals generalizing board record with
  | nil => exact ⟨record, found⟩
  | cons entry rest ih =>
      have competes := compete entry (by simp)
      have after := balanced_perform board balanced entry.1 entry.2
        (competes_lawful board id entry.2 competes)
      have remaining := fun later member => compete later (List.mem_cons_of_mem entry member)
      obtain ⟨bid, _, ⟨_, _, won⟩ | ⟨_, _, lost⟩⟩ :=
        bid_cases board balanced entry.1 entry.2 id competes record found
      · exact ih (board.perform entry.1 entry.2) after _ won remaining
      · exact ih (board.perform entry.1 entry.2) after record (by rw [lost]; exact found) remaining

theorem final_kept (board : Board) (balanced : board.Balanced) (id : TaskId) (record : TaskRecord)
    (found : board.store.find? id = some record) (final : record.state.isTerminal = true)
    (future : List (Instant × Call)) (lawful : board.Lawful future)
    (kept : ∀ entry ∈ future, entry.2 ≠ .evict id) :
    (board.run future).store.find? id = some record := by
  induction future generalizing board with
  | nil => exact found
  | cons entry rest ih =>
      have evolves := perform_evolves board balanced entry.1 entry.2 lawful.1
      have stays : ¬ entry.2.May (.removed id) := by
        have different := kept entry (by simp)
        cases call : entry.2 with
        | evict other =>
            rw [call] at different
            intro same
            cases same
            exact different rfl
        | _ => simp [Call.May, Swept]
      have next := evolves_final _ _ evolves id stays record found final
      exact ih _ (balanced_perform board balanced entry.1 entry.2 lawful.1) next lawful.2
        fun later member => kept later (by simp [member])

theorem final_refuses (board : Board) (balanced : board.Balanced) (id : TaskId)
    (record : TaskRecord) (found : board.store.find? id = some record)
    (final : record.state.isTerminal = true) (now : Instant) (call : Call)
    (competes : call.Competes id) :
    board.answer now call = false ∧ board.perform now call = board := by
  obtain ⟨bid, bids, ⟨awaited, _, _⟩ | ⟨_, lost⟩⟩ :=
    bid_cases board balanced now call id competes record found
  · have active := bid_active record now call bid bids record.state awaited
    rw [final] at active
    cases active
  · exact lost

theorem final_answers (board : Board) (balanced : board.Balanced) (id : TaskId)
    (record : TaskRecord) (found : board.store.find? id = some record)
    (final : record.state.isTerminal = true) (rivals : List (Instant × Call))
    (compete : ∀ entry ∈ rivals, entry.2.Competes id) :
    ∀ won ∈ board.answers rivals, won = false := by
  induction rivals with
  | nil => simp [answers]
  | cons entry rest ih =>
      obtain ⟨refused, same⟩ := final_refuses board balanced id record found final entry.1 entry.2
        (compete entry (by simp))
      have later := ih fun later member => compete later (by simp [member])
      simpa [answers, refused, same] using later

theorem first_end_decides (room : Nat) (history before after : List (Instant × Call))
    (lawful : (Board.empty room).Lawful history) (id : TaskId)
    (stored : (((Board.empty room).run history).store.find? id).isSome) (now : Instant) (call : Call)
    (compete : ∀ entry ∈ before ++ (now, call) :: after, entry.2.Competes id) :
    let board := ((Board.empty room).run history).run before
    let next := board.perform now call
    ∃ record bid, board.store.find? id = some record ∧ call.bid record now = some bid ∧
      (board.answer now call = true ↔ record.state ∈ bid.expected) ∧
      (board.answer now call = false → next = board) ∧
      (board.answer now call = true → bid.target.isTerminal = true →
        ∃ final, next.store.find? id = some final ∧ final.state = bid.target ∧
          final.outcome = bid.outcome ∧ final.outcome.isSome ∧
          (∀ won ∈ next.answers after, won = false) ∧
          ∀ future, next.Lawful future → (∀ entry ∈ future, entry.2 ≠ .evict id) →
            (next.run future).store.find? id = some final ∧
              ∀ later rival, rival.Competes id → (next.run future).answer later rival = false) := by
  intro board next
  have start := balanced_run (Board.empty room) (balanced_empty room) history lawful
  obtain ⟨first, found⟩ := Option.isSome_iff_exists.mp stored
  have earlier : ∀ entry ∈ before, entry.2.Competes id :=
    fun entry member => compete entry (by simp [member])
  have later : ∀ entry ∈ after, entry.2.Competes id :=
    fun entry member => compete entry (by simp [member])
  have competes : call.Competes id := compete (now, call) (by simp)
  have balanced : board.Balanced :=
    balanced_run _ start before (rivals_lawful _ id before earlier)
  have settled : next.Balanced :=
    balanced_perform board balanced now call (competes_lawful board id call competes)
  obtain ⟨record, here⟩ := rivals_stored _ start id first found before earlier
  obtain ⟨bid, bids, ways⟩ := bid_cases board balanced now call id competes record here
  refine ⟨record, bid, here, bids, ?_, ?_, ?_⟩
  · rcases ways with ⟨awaited, won, _⟩ | ⟨unexpected, lost, _⟩
    · simp [awaited, won]
    · simp [unexpected, lost]
  · intro lost
    rcases ways with ⟨_, won, _⟩ | ⟨_, _, same⟩
    · rw [lost] at won
      cases won
    · exact same
  · intro won terminal
    rcases ways with ⟨awaited, _, moved⟩ | ⟨_, lost, _⟩
    · have active := bid_active record now call bid bids record.state awaited
      have undecided := balanced.undecided record
        (Store.find_member board.store id record here) active
      have passed : (record.moved bid.target bid.outcome now).outcome = bid.outcome := by
        simp [TaskRecord.moved, undecided]
      refine ⟨_, moved, rfl, passed, ?_, ?_, ?_⟩
      · rw [passed, ← bid_outcome record now call id bid competes bids]
        exact terminal
      · exact final_answers next settled id _ moved terminal after later
      · intro future lawfully kept
        have still := final_kept next settled id _ moved terminal future lawfully kept
        refine ⟨still, fun time rival competing => ?_⟩
        exact (final_refuses _ (balanced_run next settled future lawfully) id _ still terminal time
          rival competing).1
    · rw [lost] at won
      cases won

def lateTask : Assignment :=
  Assignment.ofRequest (Request.new "task") (TaskId.ofNumber 1) .async Instant.epoch

def lateFailure : Outcome :=
  .failure (Failure.new "Task timed out" .async Instant.epoch)

theorem late_task_decided :
    let board := ((Board.empty 4).run [(Instant.epoch, .enroll lateTask none)]).run
      [(Instant.epoch, .markRunning lateTask)]
    let next := board.perform Instant.epoch (.finish lateTask .timedOut lateFailure)
    board.answer Instant.epoch (.finish lateTask .timedOut lateFailure) = true ∧
      ∃ final, next.store.find? lateTask.id = some final ∧ final.state = .timedOut ∧
        final.outcome = some lateFailure ∧
        ∀ won ∈ next.answers [(Instant.epoch, .finish lateTask .succeeded (.success .null)),
          (Instant.epoch, .cancel lateTask.id)], won = false := by
  intro board next
  have won : board.answer Instant.epoch (.finish lateTask .timedOut lateFailure) = true := by
    decide +kernel
  obtain ⟨record, bid, _, bids, _, _, decides⟩ :=
    first_end_decides 4 [(Instant.epoch, .enroll lateTask none)]
      [(Instant.epoch, .markRunning lateTask)]
      [(Instant.epoch, .finish lateTask .succeeded (.success .null)),
        (Instant.epoch, .cancel lateTask.id)] (by decide +kernel) lateTask.id (by decide +kernel)
      Instant.epoch (.finish lateTask .timedOut lateFailure)
      (by simp [Call.Competes, TaskState.isTerminal])
  cases bids
  obtain ⟨final, stored, state, outcome, _, lost, _⟩ := decides won rfl
  exact ⟨won, final, stored, state, outcome, lost⟩

end Foreman.Board
