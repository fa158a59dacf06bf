import Foreman.Proofs.Board.Coherence
import Foreman.Proofs.Scheduler.Custody
import Foreman.Proofs.Scheduler.Invocation

set_option autoImplicit false

namespace Foreman.Round

def Onward (history : List (Instant × Step)) : Prop :=
  (history.map Prod.fst).Pairwise (· ≤ ·)

structure Coherent (round : Round) (used : List TaskId) : Prop where
  steady : round.Steady used
  invoked : round.Invoked used
  custody : round.Custody used
  records : ∀ id record, round.board.store.find? id = some record → record.Coherent

def Dated (round : Round) (now : Instant) : Prop :=
  ∀ id record, round.board.store.find? id = some record → record.Dated now

section Steps

variable (round : Round) (used : List TaskId) (now : Instant)

theorem ended_begun (coherent : round.Coherent used) (ticket : Ticket)
    (watched : ticket ∈ round.scheduler.watched) (result : End) (outcome : Outcome)
    (ended : round.scheduler.shop.end? ticket.token = some result)
    (given : result.outcome = some outcome) (record : TaskRecord)
    (found : round.board.store.find? ticket.id = some record) :
    record.startedAt.isSome ∧ ∃ kind, record.kind = some kind ∧ outcome.Suits kind := by
  have named : result.token = ticket.token := by simpa using List.find?_some ended
  obtain ⟨other, kind, runs, token, suits⟩ := coherent.custody.honest.ended result
    (List.mem_of_find?_eq_some ended) outcome given
  have own := coherent.steady.sound.stamped ticket (.inr (.inl watched))
  have one : other.stamp = ticket.stamp := List.inj_on_of_nodup_map coherent.steady.sound.oneToken
    runs.known.issued own (token.trans named)
  have id : other.id = ticket.id := congrArg Prod.fst one
  rw [← id] at found
  refine ⟨?_, kind, (runs.known.kind record found).trans (congrArg some runs.kind), suits⟩
  have called : 0 < round.callsOf other.id :=
    List.countP_pos_iff.mpr ⟨other.assignment, runs.called, by simp [Ticket.id]⟩
  have once := coherent.invoked.once other.id
  exact (tallies_once record _ (coherent.invoked.tallies other.id record found)).mp (by omega)

theorem verdict_decides (coherent : round.Coherent used) (ticket : Ticket) (state : TaskState)
    (outcome : Outcome) (watched : ticket ∈ round.scheduler.watched)
    (verdict : Scheduler.Verdict round.scheduler now ticket state outcome) (record : TaskRecord)
    (found : round.board.store.find? ticket.id = some record) :
    Board.Decides record state outcome := by
  have own : record.kind = some ticket.assignment.kind :=
    coherent.custody.kinds ticket (.inr (.inl watched)) record found
  have origin : ticket.assignment.kind.origin = Board.originOf record := by
    rw [Board.originOf, own]
  cases verdict with
  | completed result outcome ended given =>
      obtain ⟨begun, kind, known, suits⟩ :=
        ended_begun round used coherent ticket watched result outcome ended given record found
      cases outcome with
      | success value => exact .success value begun
      | failure reason =>
          have suited : reason.origin = Board.originOf record := by
            rw [suits reason rfl, Board.originOf, known]
          exact .failure .failed reason rfl (by simp) suited
  | lost => exact .failure .failed _ rfl (by simp) origin
  | expired => exact .failure .timedOut _ rfl (by simp) origin

theorem records_perform (coherent : round.Coherent used) (dated : round.Dated now) (step : Step)
    (fresh : ∀ id ∈ step.ids, id ∉ used) (id : TaskId) (record : TaskRecord)
    (stored : (round.perform now step).board.store.find? id = some record) :
    record.Coherent ∧ record.Dated now := by
  have before (other : TaskRecord) (found : round.board.store.find? id = some other) :
      other.Coherent ∧ other.Dated now :=
    ⟨coherent.records id other found, dated id other found⟩
  cases task_step round used now coherent.steady step fresh id with
  | rests same _ => exact before record (same ▸ stored)
  | ordered call added orders turn _ =>
      refine Board.turn_coherent now id call _ _ added turn ?_ ?_ before record stored
      · rintro assignment capacity rfl
        cases orders with
        | entered _ _ _ stamped => exact stamped
      · rintro assignment state outcome rfl other found named _
        cases orders with
        | decided ticket _ _ watched verdict =>
            have has := Store.find_has_id _ _ other found
            have same : id = ticket.id := has.symm.trans named.symm
            subst same
            exact verdict_decides round used now coherent ticket state outcome watched verdict other
              found
  | began ticket other _ _ found waits later _ =>
      obtain ⟨sound, past⟩ := before other found
      rw [later, Option.some.injEq] at stored
      subst stored
      exact Board.started_coherent now other sound past waits

theorem coherent_perform (coherent : round.Coherent used) (dated : round.Dated now) (step : Step)
    (fresh : ∀ id ∈ step.ids, id ∉ used) :
    (round.perform now step).Coherent (used ++ step.ids) ∧ (round.perform now step).Dated now := by
  have records := records_perform round used now coherent dated step fresh
  exact ⟨⟨steady_perform round used now coherent.steady step fresh,
    invoked_perform round used now coherent.steady coherent.invoked step fresh,
    custody_perform round used now coherent.steady coherent.custody step fresh,
    fun id record stored => (records id record stored).1⟩,
    fun id record stored => (records id record stored).2⟩

end Steps

theorem coherent_run (round : Round) (used : List TaskId) (coherent : round.Coherent used)
    (history : List (Instant × Step)) (fresh : (used ++ idsOf history).Nodup)
    (onward : Onward history) (dated : ∀ entry ∈ history, round.Dated entry.1) :
    (round.run history).Coherent (used ++ idsOf history) := by
  let keeps (round : Round) (used : List TaskId) (rest : List (Instant × Step)) : Prop :=
    round.Coherent used ∧ Onward rest ∧ ∀ entry ∈ rest, round.Dated entry.1
  refine (run_keeps keeps ?_ round used coherent.steady history fresh ⟨coherent, onward, dated⟩).2.1
  intro round used _ entry rest unused ⟨coherent, onward, dated⟩
  obtain ⟨next, past⟩ := coherent_perform round used entry.1 coherent
    (dated entry List.mem_cons_self) entry.2 unused
  obtain ⟨first, later⟩ := List.pairwise_cons.mp onward
  refine ⟨next, later, fun other member id record stored => ?_⟩
  exact TaskRecord.dated_later record entry.1 other.1 (past id record stored)
    (first other.1 (List.mem_map_of_mem member))

theorem coherent_new (settings : Settings) (registry : Registry Callable) (cores : Nat)
    (scheduler : Scheduler) (built : Scheduler.new settings registry cores = .ok scheduler) :
    (ofScheduler scheduler).Coherent [] ∧ ∀ now, (ofScheduler scheduler).Dated now := by
  have empty (id : TaskId) : (ofScheduler scheduler).board.store.find? id = none := by
    rw [Scheduler.new_cases settings registry cores scheduler built]
    rfl
  refine ⟨⟨steady_new settings registry cores scheduler built,
    invoked_new settings registry cores scheduler built,
    custody_new settings registry cores scheduler built, ?_⟩, ?_⟩
  · intro id record found
    rw [empty id] at found
    cases found
  · intro now id record found
    rw [empty id] at found
    cases found

theorem records_cohere (settings : Settings) (registry : Registry Callable) (cores : Nat)
    (scheduler : Scheduler) (built : Scheduler.new settings registry cores = .ok scheduler)
    (history : List (Instant × Step)) (fresh : Fresh history) (onward : Onward history) :
    let board := ((ofScheduler scheduler).run history).board
    ∀ record ∈ board.store.records, record.Coherent ∧
      (record.state.isTerminal = true → ∃ outcome, record.outcome = some outcome ∧
        ∀ now, Board.outcomeOf record now = outcome ∧ board.result record.id now = .ok outcome) := by
  intro board record stored
  obtain ⟨start, dated⟩ := coherent_new settings registry cores scheduler built
  have last : ((ofScheduler scheduler).run history).Coherent ([] ++ idsOf history) :=
    coherent_run _ [] start history fresh onward fun entry _ => dated entry.1
  have intact : board.store.Intact := last.steady.sound.balanced.intact
  have found := Store.member_found board.store intact record stored
  have coherent := last.records record.id record found
  refine ⟨coherent, fun terminal => ?_⟩
  obtain ⟨outcome, decided, answers⟩ :=
    Board.coherent_result board intact record.id record found coherent terminal
  exact ⟨outcome, decided, fun now => ⟨by rw [Board.outcomeOf, decided], answers now⟩⟩

def rested : List (Instant × Step) :=
  let moves : List (Int × Move) :=
    [(6, .submit (Request.new "tasks:sleep") (TaskId.ofNumber 4)), (6, .receive),
      (6, .work (.take 0)), (6, .work (.work 0 2)), (9, .work (.work 0 2)), (9, .completeWatch 2)]
  overslept ++
    moves.map fun entry => ((Instant.ofUnix? entry.1 0).getD Instant.epoch, .move entry.2)

theorem rested_records :
    Scheduler.new Settings.default sleepingTask 1 = .ok sleepingScheduler ∧ Fresh rested ∧
      Onward rested ∧
      let board := ((ofScheduler sleepingScheduler).run rested).board
      (∃ record, board.store.find? (TaskId.ofNumber 1) = some record ∧ record.state = .timedOut ∧
        ∃ reason, board.result (TaskId.ofNumber 1) Instant.epoch = .ok (.failure reason) ∧
          reason.origin = .sync) ∧
      (∃ record, board.store.find? (TaskId.ofNumber 3) = some record ∧ record.state = .failed ∧
        ∃ reason, board.result (TaskId.ofNumber 3) Instant.epoch = .ok (.failure reason) ∧
          reason.origin = .resolver) ∧
      ∃ record, board.store.find? (TaskId.ofNumber 4) = some record ∧ record.state = .succeeded ∧
        record.startedAt.isSome ∧
        ∃ value, board.result (TaskId.ofNumber 4) Instant.epoch = .ok (.success value) := by
  have built : Scheduler.new Settings.default sleepingTask 1 = .ok sleepingScheduler := rfl
  have fresh : Fresh rested := by
    unfold Fresh
    decide +kernel
  have onward : Onward rested := by
    unfold Onward
    decide +kernel
  have cohere := records_cohere _ _ _ sleepingScheduler built rested fresh onward
  let board := ((ofScheduler sleepingScheduler).run rested).board
  have stored (id : TaskId) (record : TaskRecord) (found : board.store.find? id = some record) :
      record.Coherent ∧ (record.state.isTerminal = true →
        ∃ outcome, record.outcome = some outcome ∧ board.result id Instant.epoch = .ok outcome) := by
    have has := Store.find_has_id board.store id record found
    obtain ⟨coherent, answers⟩ := cohere record (Store.find_member board.store id record found)
    refine ⟨coherent, fun terminal => ?_⟩
    obtain ⟨outcome, decided, read⟩ := answers terminal
    exact ⟨outcome, decided, has ▸ (read Instant.epoch).2⟩
  have slept : ∃ record, board.store.find? (TaskId.ofNumber 1) = some record ∧
      (record.state == .timedOut && record.kind == some .sync) = true :=
    Option.map_eq_some_iff.mp (by decide +kernel)
  have unknown : ∃ record, board.store.find? (TaskId.ofNumber 3) = some record ∧
      (record.state == .failed && record.kind == none) = true :=
    Option.map_eq_some_iff.mp (by decide +kernel)
  have done : ∃ record, board.store.find? (TaskId.ofNumber 4) = some record ∧
      (record.state == .succeeded) = true :=
    Option.map_eq_some_iff.mp (by decide +kernel)
  simp only [Bool.and_eq_true, beq_iff_eq] at slept unknown done
  obtain ⟨late, foundLate, isLate, isSync⟩ := slept
  obtain ⟨failed, foundFailed, isFailed, isNone⟩ := unknown
  obtain ⟨record, found, succeeded⟩ := done
  refine ⟨built, fresh, onward, ⟨late, foundLate, isLate, ?_⟩, ⟨failed, foundFailed, isFailed, ?_⟩,
    record, found, succeeded, ?_, ?_⟩
  · obtain ⟨coherent, answers⟩ := stored _ late foundLate
    obtain ⟨outcome, decided, read⟩ := answers (by rw [isLate]; rfl)
    obtain ⟨reason, failure⟩ := coherent.failure.mp (.inr (.inl isLate))
    have same : outcome = .failure reason := Option.some.inj (decided.symm.trans failure)
    exact ⟨reason, same ▸ read, (coherent.origin reason failure).1 .sync isSync⟩
  · obtain ⟨coherent, answers⟩ := stored _ failed foundFailed
    obtain ⟨outcome, decided, read⟩ := answers (by rw [isFailed]; rfl)
    obtain ⟨reason, failure⟩ := coherent.failure.mp (.inl isFailed)
    have same : outcome = .failure reason := Option.some.inj (decided.symm.trans failure)
    exact ⟨reason, same ▸ read, (coherent.origin reason failure).2.mpr isNone⟩
  · exact (stored _ record found).1.begun (.inr succeeded)
  · obtain ⟨coherent, answers⟩ := stored _ record found
    obtain ⟨outcome, decided, read⟩ := answers (by rw [succeeded]; rfl)
    obtain ⟨value, success⟩ := coherent.success.mp succeeded
    have same : outcome = .success value := Option.some.inj (decided.symm.trans success)
    exact ⟨value, same ▸ read⟩

end Foreman.Round
