import Foreman.Proofs.Board.History

set_option autoImplicit false

namespace Foreman

def EventKind.isTask : EventKind → Bool
  | .taskSubmitted | .taskStarted | .taskSucceeded | .taskFailed | .taskTimedOut
  | .taskCancelled => true
  | _ => false

theorem EventKind.of_state_task (state : TaskState) : (EventKind.ofState state).isTask = true := by
  cases state <;> rfl

namespace Bus

def told (bus : Bus) (id : TaskId) : List Event :=
  bus.published.filter fun event => event.kind.isTask && event.task == some id

variable (bus : Bus) (event : Event) (id : TaskId)

theorem told_own (kind : event.kind.isTask = true) (task : event.task = some id) :
    (bus.publish event).told id = bus.told id ++ [event] := by
  simp [told, publish, List.filter_append, kind, task]

theorem told_other (other : event.kind.isTask = false ∨ event.task ≠ some id) :
    (bus.publish event).told id = bus.told id := by
  rcases other with kind | task
  · simp [told, publish, List.filter_append, kind]
  · simp [told, publish, List.filter_append, task]

end Bus

namespace Board

def notice (id : TaskId) (reference : String) (state : TaskState) (outcome : Option Outcome)
    (now : Instant) : Event :=
  (Event.ofTask (.ofState state) id reference now).withOutcome outcome

theorem notice_told (bus : Bus) (task : TaskId) (reference : String) (state : TaskState)
    (outcome : Option Outcome) (now : Instant) (id : TaskId) :
    (bus.publish (notice task reference state outcome now)).told id =
      bus.told id ++ if task = id then [notice task reference state outcome now] else [] := by
  by_cases same : task = id
  · rw [if_pos same]
    exact bus.told_own _ id (EventKind.of_state_task state) (congrArg some same)
  · rw [if_neg same, List.append_nil]
    exact bus.told_other _ id (.inr fun task => same (Option.some.inj task))

section Moved

variable (board : Board) (record : TaskRecord) (reference : String) (next : TaskState)
  (outcome : Option Outcome) (now : Instant)

theorem settled_bus (id : TaskId) (previous : TaskState) :
    (board.settled id reference previous next outcome now).bus =
      board.bus.publish
        (notice id reference next (if next.isTerminal then outcome else none) now) := by
  unfold settled
  split <;> rfl

theorem moved_bus :
    (board.moved record reference next outcome now).bus =
      board.bus.publish
        (notice record.id reference next (if next.isTerminal then outcome else none) now) :=
  settled_bus _ _ _ _ _ _ _

end Moved

inductive Closes (now : Instant) (record : TaskRecord) :
    Call → String → TaskState → Outcome → Prop where
  | finished (assignment : Assignment) (state : TaskState) (outcome : Outcome)
      (named : assignment.id = record.id) :
      Closes now record (.finish assignment state outcome) assignment.reference state outcome
  | cancelled (awaited : record.state ∈ cancellable record) :
      Closes now record (.cancel record.id) record.reference .cancelled (cancellation record now)
  | swept (reason : String) :
      Closes now record (.cancelAll reason) record.reference .cancelled
        (abortion reason record now)

inductive Turn (now : Instant) (id : TaskId) :
    Call → Option TaskRecord → Option TaskRecord → List Event → Prop where
  | kept (call : Call) (record : Option TaskRecord) : Turn now id call record record []
  | enrolled (assignment : Assignment) (capacity : Option Nat) (named : assignment.id = id) :
      Turn now id (.enroll assignment capacity) none (some (TaskRecord.pending assignment))
        [notice id assignment.reference .pending none now]
  | rejected (reference : String) (cause : ResolutionError) :
      Turn now id (.reject id reference cause) none (some (refusal id reference cause now))
        [notice id reference .failed (refusal id reference cause now).outcome now]
  | started (assignment : Assignment) (record : TaskRecord) (named : assignment.id = id)
      (waits : record.state = .pending) (undecided : record.outcome = none) :
      Turn now id (.markRunning assignment) (some record) (some (record.moved .running none now))
        [notice id assignment.reference .running none now]
  | ended (call : Call) (record : TaskRecord) (reference : String) (next : TaskState)
      (outcome : Outcome) (closes : Closes now record call reference next outcome)
      (active : record.state.isTerminal = false) (terminal : next.isTerminal = true)
      (undecided : record.outcome = none) :
      Turn now id call (some record) (some (record.moved next (some outcome) now))
        [notice id reference next (some outcome) now]
  | evicted (record : TaskRecord) (ended : record.state.isTerminal = true) :
      Turn now id (.evict id) (some record) none []

def Turns (now : Instant) (id : TaskId) (call : Call) (board next : Board) : Prop :=
  ∃ added, Turn now id call (board.store.find? id) (next.store.find? id) added ∧
    next.bus.told id = board.bus.told id ++ added

section Turns

variable (now : Instant) (id : TaskId) (call : Call) (board : Board)

theorem turns_kept (next : Board) (store : next.store.find? id = board.store.find? id)
    (bus : next.bus.told id = board.bus.told id) : Turns now id call board next := by
  refine ⟨[], ?_, by rw [bus, List.append_nil]⟩
  rw [store]
  exact .kept call _

theorem turns_same (next other : Board) (store : other.store = next.store)
    (bus : other.bus = next.bus) (turns : Turns now id call board next) :
    Turns now id call board other := by
  unfold Turns
  rw [store, bus]
  exact turns

theorem moved_turns (balanced : board.Balanced) (record : TaskRecord) (reference : String)
    (next : TaskState) (outcome : Outcome) (found : board.store.find? record.id = some record)
    (closes : Closes now record call reference next outcome)
    (active : record.state.isTerminal = false) (terminal : next.isTerminal = true) :
    Turns now id call board (board.moved record reference next (some outcome) now) := by
  have told := notice_told board.bus record.id reference next (some outcome) now id
  by_cases same : record.id = id
  · subst same
    rw [if_pos rfl] at told
    refine ⟨[notice record.id reference next (some outcome) now], ?_, ?_⟩
    · rw [moved_found board record found, if_pos rfl, found]
      have undecided := balanced.undecided record (Store.find_member _ _ _ found) active
      exact .ended call record reference next outcome closes active terminal undecided
    · rw [moved_bus, if_pos terminal]
      exact told
  · rw [if_neg same, List.append_nil] at told
    apply turns_kept
    · rw [moved_found board record found, if_neg same]
    · rw [moved_bus, if_pos terminal]
      exact told

end Turns

section Calls

variable (now : Instant) (id : TaskId) (board : Board)

theorem enroll_turns (balanced : board.Balanced) (assignment : Assignment) (capacity : Option Nat)
    (absent : board.store.find? assignment.id = none) :
    Turns now id (.enroll assignment capacity) board (board.enroll assignment capacity now).1 := by
  cases full : board.isFull capacity with
  | true =>
      rw [enroll_full board assignment capacity now full]
      exact turns_kept _ _ _ _ _ rfl rfl
  | false =>
      rw [enroll_free board assignment capacity now balanced.intact absent full]
      have told := notice_told board.bus assignment.id assignment.reference .pending none now id
      by_cases same : assignment.id = id
      · subst same
        rw [if_pos rfl] at told
        refine ⟨_, ?_, told⟩
        have after := stored_same board (TaskRecord.pending assignment) absent
        change Turn now assignment.id _ _ ((board.stored (.pending assignment)).find? _) _
        rw [absent]
        exact after ▸ .enrolled assignment capacity rfl
      · rw [if_neg same, List.append_nil] at told
        exact turns_kept _ _ _ _ _
          (stored_other board (TaskRecord.pending assignment) absent id same) told

theorem reject_turns (balanced : board.Balanced) (task : TaskId) (reference : String)
    (cause : ResolutionError) (absent : board.store.find? task = none) :
    Turns now id (.reject task reference cause) board
      (board.reject task reference cause now).1 := by
  rw [reject_done board task reference cause now balanced.intact absent]
  have told := notice_told board.bus task reference .failed
    (refusal task reference cause now).outcome now id
  by_cases same : task = id
  · subst same
    rw [if_pos rfl] at told
    refine ⟨_, ?_, told⟩
    have after := stored_same board (refusal task reference cause now) absent
    change Turn now task _ _ ((board.stored (refusal task reference cause now)).find? task) _
    rw [absent]
    exact after ▸ .rejected reference cause
  · rw [if_neg same, List.append_nil] at told
    exact turns_kept _ _ _ _ _
      (stored_other board (refusal task reference cause now) absent id same) told

theorem mark_running_turns (balanced : board.Balanced) (assignment : Assignment) :
    Turns now id (.markRunning assignment) board (board.markRunning assignment now).1 := by
  rcases mark_running_cases board now balanced.intact assignment with
    ⟨record, found, waits, won⟩ | ⟨_, lost⟩
  · have has := Store.find_has_id board.store assignment.id record found
    rw [won]
    rw [← has] at found
    have told := notice_told board.bus record.id assignment.reference .running none now id
    by_cases same : record.id = id
    · subst same
      rw [if_pos rfl] at told
      refine ⟨[notice record.id assignment.reference .running none now], ?_, ?_⟩
      · rw [moved_found board record found, if_pos rfl, found]
        have undecided := balanced.undecided record (Store.find_member _ _ _ found)
          (by rw [waits]; rfl)
        exact .started assignment record has.symm waits undecided
      · rw [moved_bus]
        exact told
    · rw [if_neg same, List.append_nil] at told
      apply turns_kept
      · rw [moved_found board record found, if_neg same]
      · rw [moved_bus]
        exact told
  · rw [lost]
    exact turns_kept _ _ _ _ _ rfl rfl

theorem finish_turns (balanced : board.Balanced) (assignment : Assignment) (state : TaskState)
    (outcome : Outcome) (terminal : state.isTerminal = true) :
    Turns now id (.finish assignment state outcome) board
      (board.finish assignment state outcome now).1 := by
  rcases end_cases board now balanced.intact assignment.id assignment.reference TaskState.active
    state outcome with ⟨record, found, active, _, won⟩ | ⟨_, lost⟩
  · have has := Store.find_has_id board.store assignment.id record found
    rw [finish, won]
    exact moved_turns now id _ board balanced record assignment.reference state outcome
      (has ▸ found) (.finished assignment state outcome has.symm) active terminal
  · rw [finish, lost]
    exact turns_kept _ _ _ _ _ rfl rfl

theorem cancel_token_bus (token : Option Nat) : (board.cancelToken? token).bus = board.bus := by
  cases token <;> rfl

theorem cancel_turns (balanced : board.Balanced) (task : TaskId) :
    Turns now id (.cancel task) board (board.cancel task now).1 := by
  cases found : board.store.find? task with
  | none =>
      rw [cancel_absent board now balanced.intact task found]
      exact turns_kept _ _ _ _ _ rfl rfl
  | some record =>
      have has := Store.find_has_id board.store task record found
      by_cases open_ : record.state.isTerminal = false ∧ record.state ∈ cancellable record
      · rw [cancel_won board now balanced.intact task record found open_.1 open_.2]
        refine turns_same _ _ _ _ _ _ (cancel_token_store _ _) (cancel_token_bus _ _) ?_
        rw [← has] at found ⊢
        exact moved_turns now id _ board balanced record record.reference .cancelled
          (cancellation record now) found (.cancelled open_.2) open_.1 rfl
      · have refused : record.state.isTerminal = true ∨ record.state ∉ cancellable record := by
          by_cases ended : record.state.isTerminal = true
          · exact .inl ended
          · exact .inr fun awaited => open_ ⟨by simpa using ended, awaited⟩
        rw [cancel_lost board now balanced.intact task record found refused]
        exact turns_kept _ _ _ _ _ rfl rfl

theorem evict_turns (balanced : board.Balanced) (task : TaskId) :
    Turns now id (.evict task) board (board.evict task).1 := by
  cases found : board.store.find? task with
  | none =>
      rw [evict_absent board task balanced.intact found]
      exact turns_kept _ _ _ _ _ rfl rfl
  | some record =>
      cases ended : record.state.isTerminal with
      | false =>
          rw [evict_active board task balanced.intact record found ended]
          exact turns_kept _ _ _ _ _ rfl rfl
      | true =>
          rw [evict_ended board task balanced.intact record found ended]
          by_cases same : task = id
          · subst same
            refine ⟨[], ?_, (List.append_nil _).symm⟩
            have gone := Store.find_remove_same board.store task
            rw [found]
            exact gone ▸ .evicted record ended
          · exact turns_kept _ _ _ _ _
              (Store.find_remove_other board.store task id (Ne.symm same)) rfl

end Calls

section Sweep

variable (reason : String) (now : Instant) (id : TaskId) (board : Board)

-- A task that has been cancelled is not cancelled again by the same sweep.
theorem swept_trans (between last : Board)
    (first : Turns now id (.cancelAll reason) board between)
    (second : Turns now id (.cancelAll reason) between last) :
    Turns now id (.cancelAll reason) board last := by
  obtain ⟨early, turn, told⟩ := first
  obtain ⟨late, again, toldLater⟩ := second
  refine ⟨early ++ late, ?_, by rw [toldLater, told, List.append_assoc]⟩
  generalize before : board.store.find? id = record at turn
  generalize after : between.store.find? id = later at turn again
  cases turn with
  | kept _ _ => exact again
  | ended _ record reference next outcome closes active terminal undecided =>
      have stays : last.store.find? id = some (record.moved next (some outcome) now) ∧
          late = [] := by
        generalize final : last.store.find? id = finally_ at again
        cases again with
        | kept _ _ => exact ⟨rfl, rfl⟩
        | ended _ _ _ _ _ _ still _ _ =>
            have ended : next.isTerminal = false := still
            rw [terminal] at ended
            cases ended
      rw [stays.1, stays.2, List.append_nil]
      exact .ended _ record reference next outcome closes active terminal undecided

theorem cancel_one_turns (balanced : board.Balanced) (entry : TaskId × Nat) (count : Nat) :
    Turns now id (.cancelAll reason) board (cancelOne reason now (board, count) entry).1 := by
  cases found : board.store.find? entry.1 with
  | none =>
      rw [cancel_one_absent board reason now entry.1 entry.2 count balanced.intact found]
      exact turns_kept _ _ _ _ _ rfl rfl
  | some record =>
      have has := Store.find_has_id board.store entry.1 record found
      cases ended : record.state.isTerminal with
      | false =>
          rw [cancel_one_active board reason now entry.1 entry.2 count balanced.intact record found
            ended]
          exact turns_same _ _ _ _ _ _ rfl rfl (moved_turns now id _ board balanced record
            record.reference .cancelled (abortion reason record now) (has ▸ found)
            (.swept reason) ended rfl)
      | true =>
          rw [cancel_one_ended board reason now entry.1 entry.2 count balanced.intact record found
            ended]
          exact turns_kept _ _ _ _ _ rfl rfl

theorem sweep_turns (balanced : board.Balanced) (entries : List (TaskId × Nat))
    (valid : Entries board entries) (count : Nat) :
    Turns now id (.cancelAll reason) board
      (entries.foldl (cancelOne reason now) (board, count)).1 := by
  induction entries generalizing board count with
  | nil => exact turns_kept _ _ _ _ _ rfl rfl
  | cons entry rest ih =>
      obtain ⟨bound, own⟩ := valid entry (by simp)
      have first := cancel_one_evolves board reason now entry.1 entry.2 count balanced bound own
      have later := ih (cancelOne reason now (board, count) entry).1
        (balanced_evolves _ _ first balanced)
        (entries_rest reason now board balanced entry rest valid count)
        (cancelOne reason now (board, count) entry).2
      exact swept_trans reason now id board _ _
        (cancel_one_turns reason now id board balanced entry count) later

theorem cancel_all_turns (balanced : board.Balanced) :
    Turns now id (.cancelAll reason) board (board.cancelAll reason now).1 :=
  sweep_turns reason now id board balanced board.tokens.held (held_entries board balanced) 0

end Sweep

-- Events of tasks come from the calls about the tasks alone.
def Call.Quiet : Call → Prop
  | .publish event => event.kind.isTask = false
  | _ => True

theorem perform_turns (board : Board) (balanced : board.Balanced) (now : Instant) (call : Call)
    (lawful : call.Lawful board) (quiet : call.Quiet) (id : TaskId) :
    Turns now id call board (board.perform now call) := by
  cases call with
  | enroll assignment capacity => exact enroll_turns now id board balanced assignment capacity lawful
  | reject task reference cause => exact reject_turns now id board balanced task reference cause lawful
  | markRunning assignment => exact mark_running_turns now id board balanced assignment
  | finish assignment state outcome =>
      exact finish_turns now id board balanced assignment state outcome lawful
  | cancel task => exact cancel_turns now id board balanced task
  | cancelAll reason => exact cancel_all_turns reason now id board balanced
  | evict task => exact evict_turns now id board balanced task
  | cancelToken _ => exact turns_kept _ _ _ _ _ rfl rfl
  | setJobs _ => exact turns_kept _ _ _ _ _ rfl rfl
  | setUtilization _ _ => exact turns_kept _ _ _ _ _ rfl rfl
  | publish event => exact turns_kept _ _ _ _ _ rfl (Bus.told_other board.bus event id (.inl quiet))

theorem perform_turn (board : Board) (balanced : board.Balanced) (now : Instant) (call : Call)
    (lawful : call.Lawful board) (id : TaskId) :
    ∃ added, Turn now id call (board.store.find? id)
      ((board.perform now call).store.find? id) added := by
  by_cases quiet : call.Quiet
  · obtain ⟨added, turn, _⟩ := perform_turns board balanced now call lawful quiet id
    exact ⟨added, turn⟩
  · cases call with
    | publish event => exact ⟨[], .kept _ _⟩
    | _ => exact absurd trivial quiet

end Board

end Foreman
