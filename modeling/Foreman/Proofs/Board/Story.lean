import Foreman.Proofs.Board.Turn

set_option autoImplicit false

namespace Foreman.Board

inductive Trace (record : TaskRecord) : List EventKind → Prop where
  | submitted (waits : record.state = .pending) (known : record.kind.isSome)
      (unstarted : record.startedAt = none) : Trace record [.taskSubmitted]
  | started (runs : record.state = .running) (known : record.kind.isSome)
      (begun : record.startedAt.isSome) : Trace record [.taskSubmitted, .taskStarted]
  | ended (terminal : record.state.isTerminal = true) (known : record.kind.isSome)
      (unstarted : record.startedAt = none) : Trace record [.taskSubmitted, .ofState record.state]
  | finished (terminal : record.state.isTerminal = true) (known : record.kind.isSome)
      (begun : record.startedAt.isSome) :
      Trace record [.taskSubmitted, .taskStarted, .ofState record.state]
  | refused (failed : record.state = .failed) (unresolved : record.kind = none)
      (unstarted : record.startedAt = none) : Trace record [.taskFailed]

theorem trace_last (record : TaskRecord) (kinds : List EventKind) (trace : Trace record kinds) :
    kinds.getLast? = some (.ofState record.state) := by
  cases trace with
  | submitted waits _ _ =>
      rw [waits]
      rfl
  | started runs _ _ =>
      rw [runs]
      rfl
  | ended _ _ _ => rfl
  | finished _ _ _ => rfl
  | refused failed _ _ =>
      rw [failed]
      rfl

theorem states_told_apart (state other : TaskState)
    (same : EventKind.ofState state = EventKind.ofState other) : state = other := by
  cases state <;> cases other <;> first | rfl | cases same

theorem end_told_apart (state : TaskState) (terminal : state.isTerminal = true) :
    EventKind.ofState state ≠ .taskSubmitted ∧ EventKind.ofState state ≠ .taskStarted := by
  have other (active : TaskState) (open_ : active.isTerminal = false) :
      EventKind.ofState state ≠ EventKind.ofState active := by
    intro same
    rw [states_told_apart state active same, open_] at terminal
    cases terminal
  exact ⟨other .pending rfl, other .running rfl⟩

theorem trace_once (record : TaskRecord) (kinds : List EventKind) (trace : Trace record kinds)
    (terminal : record.state.isTerminal = true) : kinds.count (.ofState record.state) = 1 := by
  obtain ⟨submitted, started⟩ := end_told_apart record.state terminal
  cases trace with
  | submitted waits _ _ => simp [waits, TaskState.isTerminal] at terminal
  | started runs _ _ => simp [runs, TaskState.isTerminal] at terminal
  | ended _ _ _ => simp [submitted.symm]
  | finished _ _ _ => simp [submitted.symm, started.symm]
  | refused failed _ _ =>
      rw [failed]
      rfl

structure Tells (record : TaskRecord) (events : List Event) : Prop where
  trace : Trace record (events.map Event.kind)
  outcome : ∀ event ∈ events, event.kind = .ofState record.state → event.outcome = record.outcome
  decided : record.outcome.isSome = record.state.isTerminal

def Tale (events : List Event) : Option TaskRecord → Prop
  | none => events = []
  | some record => Tells record events

theorem trace_moves (record : TaskRecord) (kinds : List EventKind) (trace : Trace record kinds)
    (active : record.state.isTerminal = false) (next : TaskState) (outcome : Outcome)
    (terminal : next.isTerminal = true) (now : Instant) :
    Trace (record.moved next (some outcome) now) (kinds ++ [.ofState next]) := by
  have still : (record.moved next (some outcome) now).startedAt = record.startedAt := by
    have resting : next ≠ .running := fun runs => by simp [runs, TaskState.isTerminal] at terminal
    exact if_neg resting
  cases trace with
  | submitted _ known unstarted => exact .ended terminal known (still.trans unstarted)
  | started _ known begun => exact .finished terminal known (still ▸ begun)
  | ended ended _ _ => simp [ended] at active
  | finished ended _ _ => simp [ended] at active
  | refused failed _ _ => simp [failed, TaskState.isTerminal] at active

theorem trace_active (record : TaskRecord) (kinds : List EventKind) (trace : Trace record kinds)
    (active : record.state.isTerminal = false) (next : TaskState) (terminal : next.isTerminal = true) :
    EventKind.ofState next ∉ kinds := by
  obtain ⟨submitted, started⟩ := end_told_apart next terminal
  cases trace with
  | submitted _ _ _ => simpa using submitted
  | started _ _ _ => simpa using ⟨submitted, started⟩
  | ended ended _ _ => simp [ended] at active
  | finished ended _ _ => simp [ended] at active
  | refused failed _ _ => simp [failed, TaskState.isTerminal] at active

def Call.Lasts : Call → Prop
  | .evict _ => False
  | _ => True

theorem turn_tale (now : Instant) (id : TaskId) (call : Call) (before after : Option TaskRecord)
    (added events : List Event) (lasts : call.Lasts) (turn : Turn now id call before after added)
    (tale : Tale events before) : Tale (events ++ added) after := by
  cases turn with
  | kept _ _ => exact (List.append_nil events).symm ▸ tale
  | enrolled assignment capacity named =>
      have silent : events = [] := tale
      rw [silent]
      refine ⟨.submitted rfl rfl rfl, ?_, rfl⟩
      intro event member _
      rw [List.mem_singleton.mp member]
      rfl
  | rejected reference cause =>
      have silent : events = [] := tale
      rw [silent]
      refine ⟨.refused rfl rfl rfl, ?_, rfl⟩
      intro event member _
      rw [List.mem_singleton.mp member]
      rfl
  | started assignment record named waits undecided =>
      have trace : Trace record (events.map Event.kind) := tale.trace
      have untold : (record.moved .running none now).outcome = none := by
        simp [TaskRecord.moved, undecided]
      rw [Tale]
      generalize kinds : events.map Event.kind = told at trace
      cases trace with
      | submitted _ known unstarted =>
          refine ⟨?_, ?_, ?_⟩
          · rw [List.map_append, kinds]
            exact .started rfl known rfl
          · intro event member _
            rw [untold]
            rcases List.mem_append.mp member with earlier | last
            · have first : event.kind = .taskSubmitted := by
                have listed := List.mem_map_of_mem (f := Event.kind) earlier
                simpa [kinds] using listed
              exact (tale.outcome event earlier (by rw [first, waits]; rfl)).trans undecided
            · rw [List.mem_singleton.mp last]
              rfl
          · rw [untold]
            rfl
      | started runs _ _ => simp [waits] at runs
      | ended ended _ _ => simp [waits, TaskState.isTerminal] at ended
      | finished ended _ _ => simp [waits, TaskState.isTerminal] at ended
      | refused failed _ _ => simp [waits] at failed
  | ended _ record reference next outcome closes active terminal undecided =>
      have trace : Trace record (events.map Event.kind) := tale.trace
      have shown : (record.moved next (some outcome) now).outcome = some outcome := by
        simp [TaskRecord.moved, undecided]
      refine ⟨?_, ?_, ?_⟩
      · rw [List.map_append]
        exact trace_moves record _ trace active next outcome terminal now
      · intro event member final
        rcases List.mem_append.mp member with earlier | last
        · have absent := trace_active record _ trace active next terminal
          exact absurd (final ▸ List.mem_map_of_mem earlier) absent
        · rw [List.mem_singleton.mp last, shown]
          rfl
      · rw [shown]
        exact terminal.symm
  | evicted record ended => exact lasts.elim

theorem tale_run (board : Board) (balanced : board.Balanced) (history : List (Instant × Call))
    (lawful : board.Lawful history) (lasting : ∀ entry ∈ history, entry.2.Lasts ∧ entry.2.Quiet)
    (id : TaskId) (tale : Tale (board.bus.told id) (board.store.find? id)) :
    Tale ((board.run history).bus.told id) ((board.run history).store.find? id) := by
  induction history generalizing board with
  | nil => exact tale
  | cons entry rest ih =>
      obtain ⟨lasts, quiet⟩ := lasting entry (by simp)
      obtain ⟨added, turn, told⟩ :=
        perform_turns board balanced entry.1 entry.2 lawful.1 quiet id
      refine ih (board.perform entry.1 entry.2)
        (balanced_perform board balanced entry.1 entry.2 lawful.1) lawful.2
        (fun other member => lasting other (by simp [member])) ?_
      rw [told]
      exact turn_tale entry.1 id entry.2 _ _ added _ lasts turn tale

section Reference

def Call.Refers (id : TaskId) (reference : String) : Call → Prop
  | .enroll assignment _ | .markRunning assignment | .finish assignment _ _ =>
      assignment.id = id → assignment.reference = reference
  | .reject task named _ => task = id → named = reference
  | _ => True

instance (id : TaskId) (reference : String) (call : Call) : Decidable (call.Refers id reference) :=
  match call with
  | .enroll assignment _ | .markRunning assignment | .finish assignment _ _ =>
      inferInstanceAs (Decidable (assignment.id = id → assignment.reference = reference))
  | .reject task named _ => inferInstanceAs (Decidable (task = id → named = reference))
  | .cancel _ | .cancelAll _ | .evict _ | .cancelToken _ | .setJobs _ | .setUtilization _ _
  | .publish _ => isTrue trivial

variable (id : TaskId) (reference : String)

def Referred (events : List Event) (record : Option TaskRecord) : Prop :=
  (∀ event ∈ events, event.reference = some reference) ∧
    ∀ stored, record = some stored → stored.id = id ∧ stored.reference = reference

theorem turn_referred (now : Instant) (call : Call) (before after : Option TaskRecord)
    (added events : List Event) (refers : call.Refers id reference)
    (turn : Turn now id call before after added) (referred : Referred id reference events before) :
    Referred id reference (events ++ added) after := by
  obtain ⟨told, stored⟩ := referred
  have append (event : Event) (one : added = [event]) (named : event.reference = some reference) :
      ∀ other ∈ events ++ added, other.reference = some reference := by
    intro other member
    rcases List.mem_append.mp member with earlier | last
    · exact told other earlier
    · rw [one] at last
      rw [List.mem_singleton.mp last, named]
  cases turn with
  | kept _ _ => exact ⟨(List.append_nil events).symm ▸ told, stored⟩
  | enrolled assignment capacity named =>
      have same : assignment.reference = reference := refers named
      refine ⟨append _ rfl (congrArg some same), ?_⟩
      rintro _ ⟨⟩
      exact ⟨named, same⟩
  | rejected spoken cause =>
      have same : spoken = reference := refers rfl
      refine ⟨append _ rfl (congrArg some same), ?_⟩
      rintro _ ⟨⟩
      exact ⟨rfl, same⟩
  | started assignment record named waits undecided =>
      have same : assignment.reference = reference := refers named
      refine ⟨append _ rfl (congrArg some same), ?_⟩
      rintro _ ⟨⟩
      exact stored record rfl
  | ended _ record spoken next outcome closes active terminal undecided =>
      obtain ⟨owner, own⟩ := stored record rfl
      have same : spoken = reference := by
        cases closes with
        | finished assignment state outcome named => exact refers (named.trans owner)
        | cancelled awaited => exact own
        | swept reason => exact own
      refine ⟨append _ rfl (congrArg some same), ?_⟩
      rintro _ ⟨⟩
      exact ⟨owner, own⟩
  | evicted record ended =>
      refine ⟨(List.append_nil events).symm ▸ told, ?_⟩
      rintro _ ⟨⟩

theorem referred_run (board : Board) (balanced : board.Balanced) (history : List (Instant × Call))
    (lawful : board.Lawful history)
    (refers : ∀ entry ∈ history, entry.2.Refers id reference ∧ entry.2.Quiet)
    (referred : Referred id reference (board.bus.told id) (board.store.find? id)) :
    Referred id reference ((board.run history).bus.told id) ((board.run history).store.find? id) := by
  induction history generalizing board with
  | nil => exact referred
  | cons entry rest ih =>
      obtain ⟨names, quiet⟩ := refers entry (by simp)
      obtain ⟨added, turn, told⟩ :=
        perform_turns board balanced entry.1 entry.2 lawful.1 quiet id
      refine ih (board.perform entry.1 entry.2)
        (balanced_perform board balanced entry.1 entry.2 lawful.1) lawful.2
        (fun other member => refers other (by simp [member])) ?_
      rw [told]
      exact turn_referred id reference entry.1 entry.2 _ _ added _ names turn referred

end Reference

theorem events_tell_records (room : Nat) (history : List (Instant × Call))
    (lawful : (Board.empty room).Lawful history)
    (lasting : ∀ entry ∈ history, entry.2.Lasts ∧ entry.2.Quiet) (id : TaskId) :
    let board := (Board.empty room).run history
    let events := board.bus.told id
    (board.store.find? id = none → events = []) ∧
      ∀ record, board.store.find? id = some record →
        Trace record (events.map Event.kind) ∧
          (events.map Event.kind).getLast? = some (.ofState record.state) ∧
          (record.state.isTerminal = true → record.outcome.isSome ∧
            (events.map Event.kind).count (.ofState record.state) = 1 ∧
            ∀ event ∈ events, event.kind = .ofState record.state →
              event.outcome = record.outcome) ∧
          ∀ reference, (∀ entry ∈ history, entry.2.Refers id reference) →
            record.reference = reference ∧ ∀ event ∈ events, event.reference = some reference := by
  intro board events
  have start := balanced_empty room
  have tale := tale_run (Board.empty room) start history lawful lasting id rfl
  refine ⟨fun absent => ?_, fun record found => ?_⟩
  · rw [absent] at tale
    exact tale
  · rw [found] at tale
    refine ⟨tale.trace, trace_last record _ tale.trace, ?_, ?_⟩
    · intro terminal
      exact ⟨tale.decided.trans terminal, trace_once record _ tale.trace terminal, tale.outcome⟩
    · intro reference refers
      have silent : Referred id reference ((Board.empty room).bus.told id)
          ((Board.empty room).store.find? id) := by
        refine ⟨?_, ?_⟩
        · rintro event ⟨⟩
        · rintro record ⟨⟩
      obtain ⟨told, stored⟩ := referred_run id reference (Board.empty room) start history lawful
        (fun entry member => ⟨refers entry member, (lasting entry member).2⟩) silent
      exact ⟨(stored record found).2, told⟩

def slowTask : Assignment :=
  Assignment.ofRequest (Request.new "tasks:slow") (TaskId.ofNumber 1) .async Instant.epoch

def idleTask : Assignment :=
  Assignment.ofRequest (Request.new "tasks:idle") (TaskId.ofNumber 2) .sync Instant.epoch

def slowDay : List (Instant × Call) :=
  let late := Outcome.failure (Failure.new "Task timed out" .async Instant.epoch)
  let calls : List Call :=
    [.enroll slowTask (some 2), .enroll idleTask (some 2),
      .reject (TaskId.ofNumber 3) "tasks:none" (.notFound "tasks:none"), .markRunning slowTask,
      .finish slowTask .timedOut late, .cancelAll "Scheduler stopped",
      .finish slowTask .succeeded (.success .null), .cancel slowTask.id]
  calls.map fun call => (Instant.epoch, call)

theorem slow_day_told :
    (Board.empty 4).Lawful slowDay ∧ (∀ entry ∈ slowDay, entry.2.Lasts ∧ entry.2.Quiet) ∧
      let board := (Board.empty 4).run slowDay
      (board.bus.told slowTask.id).map Event.kind =
          [.taskSubmitted, .taskStarted, .taskTimedOut] ∧
        (board.bus.told idleTask.id).map Event.kind = [.taskSubmitted, .taskCancelled] ∧
        (board.bus.told (TaskId.ofNumber 3)).map Event.kind = [.taskFailed] ∧
        ∃ record, board.store.find? slowTask.id = some record ∧ record.state = .timedOut ∧
          record.outcome.isSome ∧
          ∀ event ∈ board.bus.told slowTask.id, event.reference = some "tasks:slow" ∧
            (event.kind = .taskTimedOut → event.outcome = record.outcome) := by
  have lawful : (Board.empty 4).Lawful slowDay := by decide +kernel
  have lasting : ∀ entry ∈ slowDay, entry.2.Lasts ∧ entry.2.Quiet := by
    simp [slowDay, Call.Lasts, Call.Quiet]
  have refers : ∀ entry ∈ slowDay, entry.2.Refers slowTask.id "tasks:slow" := by decide +kernel
  obtain ⟨record, found, state⟩ : ∃ record,
      ((Board.empty 4).run slowDay).store.find? slowTask.id = some record ∧
        record.state = .timedOut := ⟨_, rfl, rfl⟩
  obtain ⟨_, _, ends, named⟩ := (events_tell_records 4 slowDay lawful lasting slowTask.id).2 record found
  obtain ⟨decided, _, same⟩ := ends (by rw [state]; rfl)
  rw [state] at same
  exact ⟨lawful, lasting, by decide +kernel, by decide +kernel, by decide +kernel, record, found,
    state, decided, fun event member => ⟨(named _ refers).2 event member, same event member⟩⟩

end Foreman.Board
