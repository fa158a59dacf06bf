import Foreman.Proofs.Board.Fate

set_option autoImplicit false

namespace Foreman

namespace Failure

/-- The failure a task of this kind ends with; a task that never resolved has no kind. -/
def ofKind (kind : Option Kind) (message : String) (now : Instant) : Failure where
  message := message
  origin := match kind with
    | some .sync => .sync
    | some .async => .async
    | none => .resolver
  occurredAt := now
  detail := none

theorem of_kind_new (record : TaskRecord) (message : String) (now : Instant) :
    Failure.new message (Board.originOf record) now = ofKind record.kind message now := by
  unfold Board.originOf
  cases record.kind with
  | none => rfl
  | some kind => cases kind <;> rfl

end Failure

namespace Board

section Enroll

variable (board : Board) (assignment : Assignment) (capacity : Option Nat) (now : Instant)

theorem enroll_full (full : board.isFull capacity = true) :
    board.enroll assignment capacity now = (board, .error (.queueFull (capacity.getD 0))) := by
  simp [enroll, full]

theorem enroll_free (intact : board.store.Intact)
    (absent : board.store.find? assignment.id = none) (free : board.isFull capacity = false) :
    board.enroll assignment capacity now =
      (board.enrolled assignment (board.stored (TaskRecord.pending assignment))
        (board.tokens.issue assignment.id).1 now, .ok board.tokens.fresh) := by
  have inserted := Store.insert_intact board.store intact (TaskRecord.pending assignment) absent
  simp [enroll, free, inserted, Tokens.issue, stored]

theorem enroll_evolves (balanced : board.Balanced)
    (absent : board.store.find? assignment.id = none) :
    Evolves (· = .entered assignment.id) board (board.enroll assignment capacity now).1 := by
  cases full : board.isFull capacity with
  | true =>
      rw [enroll_full board assignment capacity now full]
      exact .refl
  | false =>
      rw [enroll_free board assignment capacity now balanced.intact absent full]
      exact evolves_one _ _ _ rfl (.enrolled assignment now absent)

end Enroll

section Reject

variable (board : Board) (id : TaskId) (reference : String) (cause : ResolutionError)
  (now : Instant)

def refusal (id : TaskId) (reference : String) (cause : ResolutionError) (now : Instant) :
    TaskRecord :=
  TaskRecord.unresolved id reference (Failure.new cause.message .resolver now) now

theorem reject_done (intact : board.store.Intact) (absent : board.store.find? id = none) :
    board.reject id reference cause now =
      (((board.rejected (refusal id reference cause now)).publish
        ((Event.ofTask .taskFailed id reference now).withOutcome
          (some (.failure (Failure.new cause.message .resolver now))))).announce, .ok ()) := by
  have inserted : board.store.insert
      (TaskRecord.unresolved id reference (Failure.new cause.message .resolver now) now) =
        .ok (board.stored (refusal id reference cause now)) :=
    Store.insert_intact board.store intact (refusal id reference cause now) absent
  simp only [reject, inserted]
  rfl

theorem reject_evolves (balanced : board.Balanced) (absent : board.store.find? id = none) :
    Evolves (fun effect => effect = .entered id ∨ effect = .aside) board
      (board.reject id reference cause now).1 := by
  rw [reject_done board id reference cause now balanced.intact absent]
  refine .step (board.rejected (refusal id reference cause now)) _ .aside ?_ (.inr rfl)
    (.aside _ rfl rfl rfl rfl rfl rfl)
  exact evolves_one _ _ _ (.inl rfl) (.rejected (refusal id reference cause now) absent rfl)

end Reject

section Transition

variable (board : Board) (now : Instant)

theorem mark_running_cases (intact : board.store.Intact) (assignment : Assignment) :
    (∃ record, board.store.find? assignment.id = some record ∧ record.state = .pending ∧
      board.markRunning assignment now =
        (board.moved record assignment.reference .running none now, true)) ∨
    ((∀ record, board.store.find? assignment.id = some record → record.state ≠ .pending) ∧
      board.markRunning assignment now = (board, false)) := by
  rcases transition_cases board assignment.id assignment.reference [.pending] .running none now intact
    with ⟨record, found, _, awaited, won⟩ | ⟨refused, lost⟩
  · have has := Store.find_has_id board.store assignment.id record found
    refine .inl ⟨record, found, by simpa using awaited, ?_⟩
    rw [moved, has]
    exact won
  · refine .inr ⟨?_, lost⟩
    intro record found waits
    rcases refused record found with ended | unexpected
    · rw [waits] at ended
      cases ended
    · exact unexpected (by simp [waits])

theorem mark_running_evolves (balanced : board.Balanced) (assignment : Assignment) :
    Evolves (· = .started assignment.id) board (board.markRunning assignment now).1 := by
  rcases mark_running_cases board now balanced.intact assignment with
    ⟨record, found, waits, won⟩ | ⟨_, lost⟩
  · have has := Store.find_has_id board.store assignment.id record found
    rw [won]
    rw [← has] at found ⊢
    exact evolves_one _ _ _ rfl (.started record assignment.reference now found waits)
  · rw [lost]
    exact .refl

theorem expected_active (state : TaskState) :
    state ∈ TaskState.active ↔ state.isTerminal = false := by
  cases state <;> decide

theorem end_cases (intact : board.store.Intact) (id : TaskId) (reference : String)
    (expected : List TaskState) (next : TaskState) (outcome : Outcome) :
    (∃ record, board.store.find? id = some record ∧ record.state.isTerminal = false ∧
      record.state ∈ expected ∧
      board.transition id reference expected next (some outcome) now =
        (board.moved record reference next (some outcome) now, true)) ∨
    ((∀ record, board.store.find? id = some record →
        record.state.isTerminal = true ∨ record.state ∉ expected) ∧
      board.transition id reference expected next (some outcome) now = (board, false)) := by
  rcases transition_cases board id reference expected next (some outcome) now intact with
    ⟨record, found, active, awaited, won⟩ | lost
  · have has := Store.find_has_id board.store id record found
    refine .inl ⟨record, found, active, awaited, ?_⟩
    rw [moved, has]
    exact won
  · exact .inr lost

theorem end_evolves (balanced : board.Balanced) (id : TaskId) (reference : String)
    (expected : List TaskState) (next : TaskState) (outcome : Outcome)
    (terminal : next.isTerminal = true) :
    Evolves (· = .ended id) board
      (board.transition id reference expected next (some outcome) now).1 := by
  rcases end_cases board now balanced.intact id reference expected next outcome with
    ⟨record, found, active, _, won⟩ | ⟨_, lost⟩
  · have has := Store.find_has_id board.store id record found
    rw [won]
    rw [← has] at found ⊢
    exact evolves_one _ _ _ rfl (.ended record reference next outcome now found active terminal)
  · rw [lost]
    exact .refl

theorem finish_evolves (balanced : board.Balanced) (assignment : Assignment) (state : TaskState)
    (outcome : Outcome) (terminal : state.isTerminal = true) :
    Evolves (· = .ended assignment.id) board (board.finish assignment state outcome now).1 :=
  end_evolves board now balanced assignment.id assignment.reference TaskState.active state outcome
    terminal

theorem finish_settles (intact : board.store.Intact) (assignment : Assignment) (state : TaskState)
    (outcome : Outcome) (terminal : state.isTerminal = true) (record : TaskRecord)
    (found : (board.finish assignment state outcome now).1.store.find? assignment.id = some record) :
    record.state.isTerminal = true := by
  rcases end_cases board now intact assignment.id assignment.reference TaskState.active state outcome
    with ⟨old, stored, _, _, won⟩ | ⟨refused, lost⟩
  · have has := Store.find_has_id board.store assignment.id old stored
    rw [finish, won, moved_found board old (has ▸ stored), if_pos has, Option.some.injEq] at found
    rw [← found]
    exact terminal
  · rw [finish, lost] at found
    rcases refused record found with ended | unexpected
    · exact ended
    · exact not_not.mp fun open_ => unexpected ((expected_active record.state).mpr (by simpa using open_))

end Transition

section Cancel

variable (board : Board) (now : Instant)

def cancellation (record : TaskRecord) (now : Instant) : Outcome :=
  .failure (Failure.new "Task cancelled" (originOf record) now)

theorem record_found (intact : board.store.Intact) (id : TaskId) (record : TaskRecord)
    (found : board.store.find? id = some record) : board.record id = .ok record := by
  simp [Board.record, Store.get_intact board.store intact, found]

theorem record_absent (intact : board.store.Intact) (id : TaskId)
    (absent : board.store.find? id = none) : board.record id = .error (.notFound id) := by
  simp [Board.record, Store.get_intact board.store intact, absent]

theorem cancel_token_store (token : Option Nat) :
    (board.cancelToken? token).store = board.store := by
  cases token <;> rfl

theorem cancel_absent (intact : board.store.Intact) (id : TaskId)
    (absent : board.store.find? id = none) :
    board.cancel id now = (board, .error (.notFound id)) := by
  simp [cancel, record_absent board intact id absent]

theorem cancel_won (intact : board.store.Intact) (id : TaskId) (record : TaskRecord)
    (found : board.store.find? id = some record) (active : record.state.isTerminal = false)
    (awaited : record.state ∈ cancellable record) :
    board.cancel id now =
      ((board.moved record record.reference .cancelled (some (cancellation record now)) now).cancelToken?
        (board.tokens.find? id), .ok true) := by
  have has := Store.find_has_id board.store id record found
  have won : board.transition id record.reference (cancellable record) .cancelled
      (some (.failure (Failure.new "Task cancelled" (originOf record) now))) now =
        (board.moved record record.reference .cancelled (some (cancellation record now)) now, true) := by
    rw [moved, has]
    exact transition_won board id record.reference (cancellable record) .cancelled
      (some (cancellation record now)) now intact record found active awaited
  simp only [cancel, record_found board intact id record found, won, if_true]

theorem cancel_lost (intact : board.store.Intact) (id : TaskId) (record : TaskRecord)
    (found : board.store.find? id = some record)
    (refused : record.state.isTerminal = true ∨ record.state ∉ cancellable record) :
    board.cancel id now = (board, .ok false) := by
  have lost : board.transition id record.reference (cancellable record) .cancelled
      (some (.failure (Failure.new "Task cancelled" (originOf record) now))) now = (board, false) := by
    apply transition_lost board id record.reference (cancellable record) .cancelled _ now intact
    intro other same
    rw [found, Option.some.injEq] at same
    exact same ▸ refused
  simp only [cancel, record_found board intact id record found, lost]
  rfl

theorem find_held (tokens : Tokens) (id : TaskId) (token : Nat)
    (found : tokens.find? id = some token) : (id, token) ∈ tokens.held := by
  obtain ⟨pair, entry, same⟩ := Option.map_eq_some_iff.mp found
  have has : pair.1 = id := by simpa using List.find?_some entry
  have member := List.mem_of_find?_eq_some entry
  rw [← has, ← same]
  exact member

-- Tokens stand for one task each, so a token whose task has ended is nobody else's.
theorem token_task (tokens : Tokens) (guarded : tokens.Guarded) (first second : TaskId × Nat)
    (left : first ∈ tokens.held) (right : second ∈ tokens.held) (same : first.2 = second.2) :
    first = second :=
  List.inj_on_of_nodup_map guarded.distinct left right same

theorem cancel_evolves (balanced : board.Balanced) (id : TaskId) :
    Evolves (fun effect => effect = .ended id ∨ effect = .aside) board (board.cancel id now).1 := by
  cases found : board.store.find? id with
  | none =>
      rw [cancel_absent board now balanced.intact id found]
      exact .refl
  | some record =>
      have has := Store.find_has_id board.store id record found
      by_cases open_ : record.state.isTerminal = false ∧ record.state ∈ cancellable record
      · rw [cancel_won board now balanced.intact id record found open_.1 open_.2]
        rw [← has] at found ⊢
        have first : Evolves (fun effect => effect = .ended record.id ∨ effect = .aside) board
            (board.moved record record.reference .cancelled (some (cancellation record now)) now) :=
          evolves_one _ _ _ (.inl rfl)
            (.ended record record.reference .cancelled (cancellation record now) now found open_.1 rfl)
        cases holds : board.tokens.find? record.id with
        | none => exact first
        | some token =>
            have member := find_held board.tokens record.id token holds
            refine .step _ _ .aside first (.inr rfl) (.cancelled token ?_ ?_)
            · rw [moved_tokens, if_pos (by rfl)]
              exact balanced.guarded.issued _ member
            · rw [moved_tokens, if_pos (by rfl)]
              intro pair kept same
              obtain ⟨before, different⟩ := Tokens.remove_subset _ _ pair kept
              have one := token_task board.tokens balanced.guarded pair (record.id, token) before member same
              exact different (congrArg Prod.fst one)
      · have refused : record.state.isTerminal = true ∨ record.state ∉ cancellable record := by
          by_cases ended : record.state.isTerminal = true
          · exact .inl ended
          · exact .inr fun awaited => open_ ⟨by simpa using ended, awaited⟩
        rw [cancel_lost board now balanced.intact id record found refused]
        exact .refl

end Cancel

section Evict

variable (board : Board) (id : TaskId)

theorem evict_absent (intact : board.store.Intact) (absent : board.store.find? id = none) :
    board.evict id = (board, .error (.notFound id)) := by
  simp [evict, finished, record_absent board intact id absent]

theorem evict_active (intact : board.store.Intact) (record : TaskRecord)
    (found : board.store.find? id = some record) (active : record.state.isTerminal = false) :
    board.evict id = (board, .error (.notReady id record.state)) := by
  simp [evict, finished, record_found board intact id record found, active]

theorem evict_ended (intact : board.store.Intact) (record : TaskRecord)
    (found : board.store.find? id = some record) (ended : record.state.isTerminal = true) :
    board.evict id = ({ board with store := board.store.remove id }, .ok record) := by
  simp [evict, finished, record_found board intact id record found, ended,
    Store.evict_intact board.store intact, found]

theorem evict_evolves (balanced : board.Balanced) :
    Evolves (· = .removed id) board (board.evict id).1 := by
  cases found : board.store.find? id with
  | none =>
      rw [evict_absent board id balanced.intact found]
      exact .refl
  | some record =>
      cases ended : record.state.isTerminal with
      | false =>
          rw [evict_active board id balanced.intact record found ended]
          exact .refl
      | true =>
          have has := Store.find_has_id board.store id record found
          rw [evict_ended board id balanced.intact record found ended]
          rw [← has] at found ⊢
          exact evolves_one _ _ _ rfl (.removed record found ended)

end Evict

end Board

end Foreman
