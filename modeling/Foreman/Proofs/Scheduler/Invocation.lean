import Foreman.Proofs.Scheduler.Orders
import Foreman.Proofs.Scheduler.Shutdown

set_option autoImplicit false

namespace Foreman.Round

def Wins (round next : Round) (id : TaskId) : Prop :=
  ∃ record later, round.board.store.find? id = some record ∧ record.state = .pending ∧
    next.board.store.find? id = some later ∧ later.state = .running

def Opens (round : Round) (id : TaskId) : Prop :=
  ∃ activity ∈ round.scheduler.shop.activities,
    let assignment := activity.ticket.assignment
    assignment.id = id ∧ activity.wait = .turn ∧
      activity.process = activity.ticket.callable.body
        (round.scheduler.shop.calls assignment.reference) assignment.arguments

structure Tallies (record : TaskRecord) (calls : Nat) : Prop where
  count : calls = if record.startedAt.isSome then 1 else 0
  waits : record.state = .pending → record.startedAt = none
  unresolved : record.kind = none → record.state.isTerminal = true ∧ record.startedAt = none

theorem tallies_once (record : TaskRecord) (calls : Nat) (tallies : Tallies record calls) :
    calls = 1 ↔ record.startedAt.isSome := by
  rw [tallies.count]
  by_cases begun : record.startedAt.isSome <;> simp [begun]

structure Invoked (round : Round) (used : List TaskId) : Prop where
  once : ∀ id, round.callsOf id ≤ 1
  known : ∀ id, id ∉ used → round.callsOf id = 0
  tallies : ∀ id record, round.board.store.find? id = some record →
    Tallies record (round.callsOf id)

section Steps

variable (round : Round) (used : List TaskId) (now : Instant)

theorem tallies_turned (step : Step) (call : Board.Call)
    (orders : Scheduler.Orders round.scheduler now step call) (id : TaskId)
    (before after : Option TaskRecord) (added : List Event)
    (turn : Board.Turn now id call before after added) (calls : Nat)
    (unmade : id ∈ step.ids → calls = 0)
    (tallies : ∀ record, before = some record → Tallies record calls) :
    ∀ record, after = some record → Tallies record calls := by
  intro later stored
  cases turn with
  | kept _ _ => exact tallies later stored
  | enrolled assignment capacity named =>
      cases stored
      cases orders with
      | entered _ _ own _ =>
          refine ⟨unmade (named ▸ own), fun _ => rfl, fun unresolved => ?_⟩
          cases unresolved
  | rejected reference cause =>
      cases stored
      cases orders with
      | refused _ _ _ own => exact ⟨unmade own, fun _ => rfl, fun _ => ⟨rfl, rfl⟩⟩
  | started _ _ _ _ _ => cases orders
  | ended _ record reference next outcome closes active terminal undecided =>
      cases stored
      have before := tallies record rfl
      have resting : next ≠ .running := by
        rintro rfl
        cases terminal
      have still : (record.moved next (some outcome) now).startedAt = record.startedAt :=
        if_neg resting
      refine ⟨still ▸ before.count, fun waits => ?_, fun unresolved => ?_⟩
      · change next = .pending at waits
        rw [waits] at terminal
        cases terminal
      · rw [(before.unresolved unresolved).1] at active
        cases active
  | evicted _ _ => cases stored

theorem invoked_perform (steady : round.Steady used) (invoked : round.Invoked used) (step : Step)
    (fresh : ∀ id ∈ step.ids, id ∉ used) :
    (round.perform now step).Invoked (used ++ step.ids) := by
  have steps := task_step round used now steady step fresh
  -- A task whose body is called waits, and its body has not been called before.
  have first (ticket : Ticket) (record : TaskRecord)
      (found : round.board.store.find? ticket.id = some record) (waits : record.state = .pending) :
      round.callsOf ticket.id = 0 := by
    have tallies := invoked.tallies ticket.id record found
    rw [tallies.count, tallies.waits waits]
    rfl
  refine ⟨fun id => ?_, fun id unused => ?_, fun id later found => ?_⟩
  · cases steps id with
    | rests _ called => exact called ▸ invoked.once id
    | ordered _ _ _ _ called => exact called ▸ invoked.once id
    | began ticket record _ named stored waits _ called =>
        subst named
        have none := first ticket record stored waits
        omega
  · have old : id ∉ used := fun member => unused (List.mem_append_left _ member)
    cases steps id with
    | rests _ called => exact called.trans (invoked.known id old)
    | ordered _ _ _ _ called => exact called.trans (invoked.known id old)
    | began _ record _ _ stored _ _ _ => exact absurd (steady.sound.known id record stored) old
  · cases steps id with
    | rests same called =>
        rw [same] at found
        exact called ▸ invoked.tallies id later found
    | ordered call added orders turn called =>
        have unmade (own : id ∈ step.ids) : round.callsOf id = 0 :=
          invoked.known id (fresh id own)
        rw [called]
        exact tallies_turned round now step call orders id _ _ added turn (round.callsOf id) unmade
          (invoked.tallies id) later found
    | began ticket record given named stored waits moved called =>
        subst named
        rw [moved, Option.some.injEq] at found
        subst found
        have none := first ticket record stored waits
        have before := invoked.tallies ticket.id record stored
        refine ⟨?_, fun waiting => ?_, fun unresolved => ?_⟩
        · rw [called, none]
          rfl
        · cases waiting
        · have ended := (before.unresolved unresolved).1
          rw [waits] at ended
          cases ended

theorem call_wins (steady : round.Steady used) (step : Step)
    (fresh : ∀ id ∈ step.ids, id ∉ used) (id : TaskId) :
    let next := round.perform now step
    round.Wins next id ∧ next.callsOf id = round.callsOf id + 1 ∧ next.Opens id ∨
      ¬ round.Wins next id ∧ next.callsOf id = round.callsOf id := by
  intro next
  cases task_step round used now steady step fresh id with
  | rests same called =>
      refine .inr ⟨?_, called⟩
      rintro ⟨record, later, found, waits, stored, runs⟩
      rw [same, found, Option.some.injEq] at stored
      rw [← stored, waits] at runs
      cases runs
  | ordered call added orders turn called =>
      refine .inr ⟨?_, called⟩
      rintro ⟨record, later, found, waits, stored, runs⟩
      rw [found, stored] at turn
      cases turn with
      | kept _ _ =>
          rw [waits] at runs
          cases runs
      | started _ _ _ _ _ => cases orders
      | ended _ _ _ _ _ _ _ terminal _ =>
          change _ = TaskState.running at runs
          simp only [TaskRecord.moved] at runs
          rw [runs] at terminal
          cases terminal
  | began ticket record given named found waits later called carried =>
      exact .inl ⟨⟨record, _, found, waits, later, rfl⟩, called, _, carried, named, rfl, rfl⟩

theorem cut_off (steady : round.Steady used) (invoked : round.Invoked used) (step : Step)
    (fresh : ∀ id ∈ step.ids, id ∉ used) (id : TaskId) (record later : TaskRecord)
    (found : round.board.store.find? id = some record) (waits : record.state = .pending)
    (stored : (round.perform now step).board.store.find? id = some later)
    (terminal : later.state.isTerminal = true) : (round.perform now step).callsOf id = 0 := by
  have tallies := invoked.tallies id record found
  rcases call_wins round used now steady step fresh id with ⟨wins, _⟩ | ⟨_, same⟩
  · obtain ⟨_, other, _, _, here, runs⟩ := wins
    rw [stored, Option.some.injEq] at here
    rw [here, runs] at terminal
    cases terminal
  · rw [same, tallies.count, tallies.waits waits]
    rfl

theorem over_perform (steady : round.Steady used) (step : Step)
    (fresh : ∀ id ∈ step.ids, id ∉ used) (id : TaskId) (member : id ∈ used)
    (past : round.board.Over id) : (round.perform now step).board.Over id := by
  intro later found
  have shifts := (continues_perform round used now steady step fresh).shifts
  obtain ⟨record, before, advances⟩ :=
    Desk.shifts_found _ _ steady.sound shifts id member later found
  have ended := past record before
  rcases advances with rfl | ⟨active, _⟩ | ⟨_, waits, _⟩
  · exact ended
  · rw [ended] at active
    cases active
  · rw [waits] at ended
    cases ended

end Steps

theorem found_over (round : Round) (id : TaskId) (record : TaskRecord)
    (found : round.board.store.find? id = some record) (terminal : record.state.isTerminal = true) :
    round.board.Over id := by
  intro other stored
  rw [found, Option.some.injEq] at stored
  exact stored ▸ terminal

theorem invoked_run (round : Round) (used : List TaskId) (steady : round.Steady used)
    (invoked : round.Invoked used) (history : List (Instant × Step))
    (fresh : (used ++ idsOf history).Nodup) :
    (round.run history).Invoked (used ++ idsOf history) := by
  refine (run_keeps (fun round used _ => round.Invoked used) ?_ round used steady history fresh
    invoked).2
  intro round used steady entry _ unused invoked
  exact invoked_perform round used entry.1 steady invoked entry.2 unused

theorem over_uncalled (round : Round) (used : List TaskId) (steady : round.Steady used)
    (history : List (Instant × Step)) (fresh : (used ++ idsOf history).Nodup) (id : TaskId)
    (member : id ∈ used) (past : round.board.Over id) :
    (round.run history).callsOf id = round.callsOf id := by
  let keeps (last : Round) (known : List TaskId) (_ : List (Instant × Step)) : Prop :=
    id ∈ known ∧ last.board.Over id ∧ last.callsOf id = round.callsOf id
  refine (run_keeps keeps ?_ round used steady history fresh ⟨member, past, rfl⟩).2.2.2
  intro between known steady entry _ unused ⟨member, past, same⟩
  refine ⟨List.mem_append_left _ member,
    over_perform between known entry.1 steady entry.2 unused id member past, ?_⟩
  rcases call_wins between known entry.1 steady entry.2 unused id with ⟨wins, _⟩ | ⟨_, still⟩
  · obtain ⟨record, _, found, waits, _, _⟩ := wins
    have ended := past record found
    rw [waits] at ended
    cases ended
  · exact still.trans same

theorem run_final (round : Round) (used : List TaskId) (steady : round.Steady used)
    (history : List (Instant × Step)) (fresh : (used ++ idsOf history).Nodup) (id : TaskId)
    (record : TaskRecord) (found : round.board.store.find? id = some record)
    (final : record.state.isTerminal = true) (later : TaskRecord)
    (stored : (round.run history).board.store.find? id = some later) : later = record := by
  have member := steady.sound.known id record found
  obtain ⟨same, before, advances⟩ := run_found round used steady history fresh id member later stored
  have one : same = record := Option.some.inj (before.symm.trans found)
  subst one
  rcases advances with rfl | ⟨active, _⟩ | ⟨_, waits, _⟩
  · rfl
  · rw [final] at active
    cases active
  · rw [waits] at final
    cases final

theorem invoked_new (settings : Settings) (registry : Registry Callable) (cores : Nat)
    (scheduler : Scheduler) (built : Scheduler.new settings registry cores = .ok scheduler) :
    (ofScheduler scheduler).Invoked [] := by
  rw [Scheduler.new_cases settings registry cores scheduler built]
  refine ⟨fun _ => Nat.zero_le 1, fun _ _ => rfl, ?_⟩
  intro id record found
  cases found

theorem bodies_called_once (settings : Settings) (registry : Registry Callable) (cores : Nat)
    (scheduler : Scheduler) (built : Scheduler.new settings registry cores = .ok scheduler)
    (history : List (Instant × Step)) (fresh : Fresh history) :
    let round := (ofScheduler scheduler).run history
    (∀ id, round.callsOf id ≤ 1) ∧
      (∀ id record, round.board.store.find? id = some record →
        (round.callsOf id = 1 ↔ record.startedAt.isSome)) ∧
      (∀ before now step after, history = before ++ (now, step) :: after →
        let start := (ofScheduler scheduler).run before
        let next := start.perform now step
        ∀ id, (start.Wins next id ∧ next.callsOf id = start.callsOf id + 1 ∧ next.Opens id ∨
            ¬ start.Wins next id ∧ next.callsOf id = start.callsOf id) ∧
          ∀ record later, start.board.store.find? id = some record → record.state = .pending →
            next.board.store.find? id = some later → later.state.isTerminal = true →
            round.callsOf id = 0) ∧
      ∀ before after, history = before ++ after →
        ∀ id record, ((ofScheduler scheduler).run before).board.store.find? id = some record →
          record.state.isTerminal = true →
            (record.kind = none ∨ record.startedAt = none → round.callsOf id = 0) ∧
            ∀ later, round.board.store.find? id = some later → later = record := by
  intro round
  have start := steady_new settings registry cores scheduler built
  have new := invoked_new settings registry cores scheduler built
  have invoked : round.Invoked ([] ++ idsOf history) := invoked_run _ [] start new history fresh
  refine ⟨invoked.once, fun id record found => tallies_once record _ (invoked.tallies id record found),
    ?_, ?_⟩
  · rintro before now step after rfl earlier next id
    obtain ⟨first, whole⟩ := fresh_split before ((now, step) :: after) fresh
    rw [ids_cons] at whole
    have unused := fresh_head _ step.ids (idsOf after) whole
    have steady : earlier.Steady ([] ++ idsOf before) := steady_run _ [] start before first
    refine ⟨call_wins earlier _ now steady step unused id, ?_⟩
    intro record later found waits stored terminal
    have settled : next.Steady (([] ++ idsOf before) ++ step.ids) :=
      steady_perform earlier _ now steady step unused
    have none := cut_off earlier _ now steady (invoked_run _ [] start new before first) step unused id
      record later found waits stored terminal
    have same := over_uncalled next _ settled after whole id (settled.sound.known id later stored)
      (found_over next id later stored terminal)
    change ((ofScheduler scheduler).run (before ++ (now, step) :: after)).callsOf id = 0
    rw [run_append]
    exact same.trans none
  · rintro before after rfl id record found terminal
    obtain ⟨first, whole⟩ := fresh_split before after fresh
    have steady : ((ofScheduler scheduler).run before).Steady ([] ++ idsOf before) :=
      steady_run _ [] start before first
    have tallies := (invoked_run _ [] start new before first).tallies id record found
    have member := steady.sound.known id record found
    have past := found_over _ id record found terminal
    refine ⟨fun unstarted => ?_, fun later stored => ?_⟩
    · have never : record.startedAt = none := by
        rcases unstarted with unresolved | never
        · exact (tallies.unresolved unresolved).2
        · exact never
      change ((ofScheduler scheduler).run (before ++ after)).callsOf id = 0
      rw [run_append, over_uncalled _ _ steady after whole id member past, tallies.count, never]
      rfl
    · change ((ofScheduler scheduler).run (before ++ after)).board.store.find? id = some later at stored
      rw [run_append] at stored
      exact run_final _ _ steady after whole id record found terminal later stored

def sleepingTask : Registry Callable :=
  ⟨[("tasks:sleep", .always .sync fun _ => .sleep 3000 (.finish (.value .null)))]⟩

def sleepingScheduler : Scheduler :=
  (Scheduler.new Settings.default sleepingTask 1).toOption.getD default

def overslept : List (Instant × Step) :=
  let request := (Request.new "tasks:sleep").withTimeout (Span.ofMillis 1000)
  let moves : List (Int × Move) :=
    [(0, .start), (0, .submit request (TaskId.ofNumber 1)), (0, .receive), (0, .work (.take 0)),
      (0, .work (.work 0 0)), (1, .submit request (TaskId.ofNumber 2)),
      (1, .cancel (TaskId.ofNumber 2)), (1, .receive),
      (1, .submit (Request.new "tasks:none") (TaskId.ofNumber 3)), (2, .expireWatch 0),
      (5, .work (.work 0 0)), (5, .completeWatch 0)]
  moves.map fun entry => ((Instant.ofUnix? entry.1 0).getD Instant.epoch, .move entry.2)

theorem overslept_value_dropped :
    Scheduler.new Settings.default sleepingTask 1 = .ok sleepingScheduler ∧ Fresh overslept ∧
      let round := (ofScheduler sleepingScheduler).run overslept
      round.callsOf (TaskId.ofNumber 1) = 1 ∧ round.callsOf (TaskId.ofNumber 2) = 0 ∧
        round.callsOf (TaskId.ofNumber 3) = 0 ∧
        ((round.scheduler.shop.end? 0).bind End.outcome).any Outcome.isSuccess = true ∧
        ∃ record, round.board.store.find? (TaskId.ofNumber 1) = some record ∧
          record.state = .timedOut ∧ record.startedAt.isSome := by
  have built : Scheduler.new Settings.default sleepingTask 1 = .ok sleepingScheduler := rfl
  have fresh : Fresh overslept := by
    unfold Fresh
    decide +kernel
  obtain ⟨_, begun, _, past⟩ := bodies_called_once _ _ _ sleepingScheduler built overslept fresh
  let early := (ofScheduler sleepingScheduler).run (overslept.take 10)
  have final := past (overslept.take 10) (overslept.drop 10) rfl
  have slept : ∃ record, early.board.store.find? (TaskId.ofNumber 1) = some record ∧
      (record.state == .timedOut && record.startedAt.isSome) = true :=
    Option.map_eq_some_iff.mp (by decide +kernel)
  have waited : ∃ record, early.board.store.find? (TaskId.ofNumber 2) = some record ∧
      (record.state == .cancelled && record.startedAt.isNone) = true :=
    Option.map_eq_some_iff.mp (by decide +kernel)
  have unknown : ∃ record, early.board.store.find? (TaskId.ofNumber 3) = some record ∧
      (record.state == .failed && record.kind.isNone) = true :=
    Option.map_eq_some_iff.mp (by decide +kernel)
  obtain ⟨record, found, facts⟩ := slept
  obtain ⟨waiting, foundWaiting, factsWaiting⟩ := waited
  obtain ⟨failed, foundFailed, factsFailed⟩ := unknown
  simp only [Bool.and_eq_true, beq_iff_eq, Option.isNone_iff_eq_none] at facts factsWaiting factsFailed
  have kept : (((ofScheduler sleepingScheduler).run overslept).board.store.find?
      (TaskId.ofNumber 1)).isSome := by decide +kernel
  obtain ⟨later, stored⟩ := Option.isSome_iff_exists.mp kept
  have same := (final _ record found (by rw [facts.1]; rfl)).2 later stored
  refine ⟨built, fresh, (begun _ later stored).mpr (same ▸ facts.2), ?_, ?_, by decide +kernel, later,
    stored, same ▸ facts.1, same ▸ facts.2⟩
  · exact (final _ waiting foundWaiting (by rw [factsWaiting.1]; rfl)).1 (.inr factsWaiting.2)
  · exact (final _ failed foundFailed (by rw [factsFailed.1]; rfl)).1 (.inl factsFailed.2)

end Foreman.Round
