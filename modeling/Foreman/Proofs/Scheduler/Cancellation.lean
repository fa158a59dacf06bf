import Foreman.Proofs.Board.Abort
import Foreman.Proofs.Board.Race
import Foreman.Proofs.Board.Refusal
import Foreman.Proofs.Scheduler.Custody
import Foreman.Proofs.Scheduler.Shutdown

set_option autoImplicit false

namespace Foreman

namespace Board

def Withdrawable (record : TaskRecord) : Prop :=
  record.state = .pending ∨ record.kind = some .async ∧ record.state = .running

theorem withdrawable_iff (record : TaskRecord) :
    record.state ∈ cancellable record ↔ Withdrawable record := by
  by_cases suspends : record.kind = some .async
  · rw [cancellable, if_pos suspends, TaskState.active, Withdrawable]
    simp [suspends]
  · rw [cancellable, if_neg suspends, Withdrawable]
    simp [suspends]

theorem withdrawable_active (record : TaskRecord) (withdrawable : Withdrawable record) :
    record.state.isTerminal = false :=
  cancellable_active record record.state ((withdrawable_iff record).mpr withdrawable)

structure Withdrawn (board : Board) (record : TaskRecord) (kind : Kind) (token : Nat)
    (now : Instant) (after : Board) : Prop where
  records : after.store.records = board.store.records.map fun old =>
    if old.id = record.id then
      { record with
        state := .cancelled
        outcome := some (.failure (Failure.ofKind (some kind) "Task cancelled" now))
        finishedAt := some now }
    else old
  serving : after.store.refused = board.store.refused
  tokens : after.tokens =
    { held := board.tokens.held.filter fun entry => entry.1 != record.id
      cancelled := board.tokens.cancelled ++ [token]
      fresh := board.tokens.fresh }
  unheld : after.tokens.find? record.id = none
  spared : ∀ id, id ≠ record.id →
    after.store.find? id = board.store.find? id ∧ after.tokens.find? id = board.tokens.find? id
  bus : after.bus =
    { board.bus with
      published := board.bus.published ++
        [{ kind := .taskCancelled
           time := now
           job := none
           task := some record.id
           reference := some record.reference
           outcome := some (.failure (Failure.ofKind (some kind) "Task cancelled" now)) }] }
  waiting : after.waiting = board.waiting - if record.state = .pending then 1 else 0
  metrics : after.metrics =
    measured (board.metrics.recordTransition record.state .cancelled) record.reference now
      (lapse now record)
  submitted : after.metrics.submitted = board.metrics.submitted
  gauges :
    after.metrics.pending = board.metrics.pending - (if record.state = .pending then 1 else 0) ∧
      after.metrics.running = board.metrics.running - if record.state = .running then 1 else 0
  finished : ∀ state, after.metrics.finishedIn state =
    board.metrics.finishedIn state + if state = .cancelled then 1 else 0
  executions : ∀ reference, after.metrics.executions reference =
    board.metrics.executions reference +
      if record.reference = reference ∧ (lapse now record).isSome then 1 else 0
  announcements : after.announcements = board.announcements + 1
  jobs : after.jobs = board.jobs

section Cancel

variable (board : Board) (record : TaskRecord) (now : Instant)

theorem cancel_refused (intact : board.store.Intact)
    (found : board.store.find? record.id = some record) (barred : ¬ Withdrawable record) :
    board.cancel record.id now = (board, .ok false) :=
  cancel_lost board now intact record.id record found
    (.inr fun awaited => barred ((withdrawable_iff record).mp awaited))

theorem cancel_accepted (balanced : board.Balanced)
    (found : board.store.find? record.id = some record) (withdrawable : Withdrawable record) :
    ∃ token, board.tokens.find? record.id = some token ∧
      board.cancel record.id now =
        ((board.moved record record.reference .cancelled
          (some (abortion "Task cancelled" record now)) now).cancelToken token, .ok true) := by
  have active := withdrawable_active record withdrawable
  obtain ⟨token, held⟩ := (held_iff board balanced record.id).mpr ⟨record, found, active⟩
  obtain ⟨other, holds⟩ := Tokens.held_found board.tokens record.id token held
  refine ⟨other, holds, ?_⟩
  rw [cancel_won board now balanced.intact record.id record found active
    ((withdrawable_iff record).mpr withdrawable), holds]
  rfl

-- A token that is held is not cancelled yet, so it comes to the end of the list.
theorem cancel_live (tokens : Tokens) (guarded : tokens.Guarded) (id : TaskId) (token : Nat)
    (holds : tokens.find? id = some token) :
    (tokens.remove id).cancel token =
      { held := tokens.held.filter fun entry => entry.1 != id
        cancelled := tokens.cancelled ++ [token]
        fresh := tokens.fresh } := by
  have live : ¬ token ∈ tokens.cancelled := guarded.live _ (find_held tokens id token holds)
  have unspent : (tokens.remove id).isCancelled token = false := by
    simpa [Tokens.isCancelled, Tokens.remove] using live
  rw [Tokens.cancel, unspent, if_neg (by simp)]
  rfl

theorem accepted_withdrawn (balanced : board.Balanced) (kind : Kind) (token : Nat)
    (found : board.store.find? record.id = some record) (active : record.state.isTerminal = false)
    (known : record.kind = some kind) (holds : board.tokens.find? record.id = some token) :
    Withdrawn board record kind token now
      ((board.moved record record.reference .cancelled
        (some (abortion "Task cancelled" record now)) now).cancelToken token) := by
  have tokens : ((board.moved record record.reference .cancelled
      (some (abortion "Task cancelled" record now)) now).cancelToken token).tokens =
        (board.tokens.remove record.id).cancel token := by
    rw [cancelToken, moved_tokens]
    rfl
  have aborts := aborts_told _ _ _ _ _
    (moved_aborts board record "Task cancelled" now balanced found active) token
  generalize (board.moved record record.reference .cancelled
    (some (abortion "Task cancelled" record now)) now).cancelToken token = after at aborts tokens ⊢
  have distinct : TaskState.cancelled ≠ .pending := by simp
  have gauges := transition_gauges record.state .cancelled board.metrics distinct
  have same := measured_gauges record.reference now
    (board.metrics.recordTransition record.state .cancelled) (lapse now record)
  refine ⟨?_, aborts.serving, ?_, ?_, ?_, ?_, aborts.waiting, aborts.metrics,
    aborts_submitted aborts, ?_, ?_, aborts_executions aborts, aborts.announcements, aborts.jobs⟩
  · rw [aborts.records]
    apply List.map_congr_left
    intro old member
    by_cases own : old.id = record.id
    · have stored := Store.member_found board.store balanced.intact old member
      rw [own, found, Option.some.injEq] at stored
      rw [if_pos own, if_pos own, ← stored, aborted, if_neg (by simp [active]), abortion,
        Failure.of_kind_new, known]
    · rw [if_neg own, if_neg own]
  · rw [tokens]
    exact cancel_live board.tokens balanced.guarded record.id token holds
  · rw [tokens, Tokens.find?, (Tokens.cancel_held _ token).1]
    exact Tokens.find_removed board.tokens record.id
  · intro id different
    refine ⟨?_, ?_⟩
    · rw [aborts_found aborts]
      cases stored : board.store.find? id with
      | none => rfl
      | some old =>
          have has := Store.find_has_id board.store id old stored
          rw [Option.map_some, if_neg (has ▸ different)]
    · rw [tokens, Tokens.find?, (Tokens.cancel_held _ token).1]
      exact Tokens.find_kept board.tokens record.id id different
  · rw [aborts.bus, obituary, known]
  · rw [aborts.metrics, same.1, same.2, gauges.1, gauges.2]
    exact ⟨rfl, rfl⟩
  · intro state
    rw [Metrics.finishedIn, aborts_finished aborts, Metrics.finished_in_added]
    by_cases own : state = .cancelled
    · rw [if_pos own, if_pos own.symm]
      rfl
    · rw [if_neg own, if_neg (Ne.symm own)]
      rfl

end Cancel

end Board

namespace Round

open Board (Withdrawable)

section Kinds

variable (round : Round) (used : List TaskId)

theorem active_typed (steady : round.Steady used) (kinds : (round.desk used).Kinds)
    (record : TaskRecord) (found : round.board.store.find? record.id = some record)
    (active : record.state.isTerminal = false) : ∃ kind, record.kind = some kind := by
  rcases steady.sound.covered record.id record found active with
    ⟨_, ticket, queued, named⟩ | ⟨ticket, watched, named⟩
  · exact ⟨_, kinds ticket (.inl queued) record (named ▸ found)⟩
  · exact ⟨_, kinds ticket (.inr (.inl watched)) record (named ▸ found)⟩

theorem kinds_run (steady : round.Steady used) (kinds : (round.desk used).Kinds)
    (history : List (Instant × Step)) (fresh : (used ++ idsOf history).Nodup) :
    ((round.run history).desk (used ++ idsOf history)).Kinds := by
  let keeps (last : Round) (known : List TaskId) (_ : List (Instant × Step)) : Prop :=
    (last.desk known).Kinds
  refine (run_keeps keeps ?_ round used steady history fresh kinds).2
  intro between known steady entry _ unused kinds
  exact Desk.kinds_shifts _ _ steady.sound kinds
    (continues_perform between known entry.1 steady entry.2 unused).shifts

end Kinds

theorem cancel_performed (round : Round) (now : Instant) (id : TaskId) :
    round.perform now (.move (.cancel id)) =
      { round with scheduler := (round.scheduler.cancel id now).1 } :=
  move_desk round now (.cancel id) rfl (by simp)

theorem withdrawal_past (mayStart : Prop) (record later : TaskRecord)
    (barred : ¬ Withdrawable record) (descends : Board.Descends mayStart record later) :
    ¬ Withdrawable later := by
  obtain ⟨advances, kind⟩ := descends
  rcases advances with rfl | ⟨_, ended⟩ | ⟨_, waits, _⟩
  · exact barred
  · intro withdrawable
    rw [Board.withdrawable_active later withdrawable] at ended
    cases ended
  · exact absurd (.inl waits) barred

theorem cancel_barred (round : Round) (used : List TaskId) (steady : round.Steady used)
    (id : TaskId) (now : Instant)
    (barred : ∀ record, round.board.store.find? id = some record → ¬ Withdrawable record) :
    round.scheduler.cancel id now =
      (round.scheduler,
        if (round.board.store.find? id).isSome then .ok false else .error (.notFound id)) := by
  have intact := steady.sound.balanced.intact
  have unmoved : round.board.cancel id now =
      (round.board,
        if (round.board.store.find? id).isSome then .ok false else .error (.notFound id)) := by
    cases found : round.board.store.find? id with
    | none => exact Board.cancel_absent round.board now intact id found
    | some record =>
        obtain rfl := Store.find_has_id round.board.store id record found
        exact Board.cancel_refused round.board record now intact found (barred record found)
  rw [Scheduler.cancel]
  change (_, (round.board.cancel id now).2) = _
  rw [unmoved]
  change (round.scheduler.withBoard (round.board.cancel id now).1, _) = _
  rw [unmoved]
  rfl

theorem cancel_ended (round : Round) (used : List TaskId) (steady : round.Steady used)
    (id : TaskId) (now : Instant) (later : TaskRecord)
    (found : (round.perform now (.move (.cancel id))).board.store.find? id = some later) :
    ¬ Withdrawable later := by
  have balanced := steady.sound.balanced
  rw [cancel_performed] at found
  change (round.board.cancel id now).1.store.find? id = some later at found
  cases stored : round.board.store.find? id with
  | none =>
      rw [Board.cancel_absent round.board now balanced.intact id stored, stored] at found
      cases found
  | some record =>
      obtain rfl := Store.find_has_id round.board.store id record stored
      by_cases withdrawable : Withdrawable record
      · obtain ⟨token, _, done⟩ :=
          Board.cancel_accepted round.board record now balanced stored withdrawable
        rw [done, Board.cancelToken, Board.moved_found round.board record stored, if_pos rfl,
          Option.some.injEq] at found
        intro again
        have ended : later.state.isTerminal = true := by rw [← found]; rfl
        rw [Board.withdrawable_active later again] at ended
        cases ended
      · rw [Board.cancel_refused round.board record now balanced.intact stored withdrawable, stored,
          Option.some.injEq] at found
        exact found ▸ withdrawable

theorem cancel_once (round : Round) (used : List TaskId) (steady : round.Steady used)
    (id : TaskId) (known : id ∈ used) (now : Instant) (later : List (Instant × Step))
    (fresh : (used ++ idsOf later).Nodup) (again : Instant) :
    let last := (round.perform now (.move (.cancel id))).run later
    last.scheduler.cancel id again =
      (last.scheduler,
        if (last.board.store.find? id).isSome then .ok false else .error (.notFound id)) := by
  intro last
  have after : (round.perform now (.move (.cancel id))).Steady used := by
    have kept := steady_perform round used now steady (.move (.cancel id)) (by simp [Step.ids])
    simpa [Step.ids] using kept
  refine cancel_barred last (used ++ idsOf later) (steady_run _ used after later fresh) id again ?_
  intro record found
  obtain ⟨earlier, before, descends⟩ := run_descends _ used after later fresh id known record found
  exact withdrawal_past True earlier record (cancel_ended round used steady id now earlier before)
    descends

theorem cancel_withdraws (settings : Settings) (registry : Registry Callable) (cores : Nat)
    (scheduler : Scheduler) (built : Scheduler.new settings registry cores = .ok scheduler)
    (history : List (Instant × Step)) (fresh : Fresh history) (id : TaskId) (now : Instant) :
    let round := (ofScheduler scheduler).run history
    let result := round.scheduler.cancel id now
    (round.board.store.find? id = none → result = (round.scheduler, .error (.notFound id))) ∧
      ∀ record, round.board.store.find? id = some record →
        (record.state = .pending ∨ record.kind = some .async ∧ record.state = .running →
          result.2 = .ok true ∧ ∃ kind token, record.kind = some kind ∧
            round.board.tokens.find? id = some token ∧
            result.1 = round.scheduler.withBoard result.1.board ∧
            Board.Withdrawn round.board record kind token now result.1.board) ∧
        (¬ (record.state = .pending ∨ record.kind = some .async ∧ record.state = .running) →
          result = (round.scheduler, .ok false)) ∧
        (round.perform now (.move (.cancel id))).scheduler = result.1 ∧
        ∀ later, Fresh (history ++ later) →
          let last := (round.perform now (.move (.cancel id))).run later
          ∀ again, last.scheduler.cancel id again =
            (last.scheduler,
              if (last.board.store.find? id).isSome then .ok false else .error (.notFound id)) := by
  intro round result
  have start := steady_new settings registry cores scheduler built
  have steady : round.Steady ([] ++ idsOf history) := steady_run _ [] start history fresh
  have kinds := kinds_run _ [] start (custody_new settings registry cores scheduler built).kinds
    history fresh
  have balanced : round.board.Balanced := steady.sound.balanced
  refine ⟨fun absent => ?_, fun record found => ⟨fun withdrawable => ?_, fun barred => ?_, ?_, ?_⟩⟩
  · have done := cancel_barred round _ steady id now (by simp [absent])
    rwa [absent] at done
  · obtain rfl := Store.find_has_id round.board.store id record found
    have active := Board.withdrawable_active record withdrawable
    obtain ⟨kind, known⟩ := active_typed round _ steady kinds record found active
    obtain ⟨token, holds, done⟩ :=
      Board.cancel_accepted round.board record now balanced found withdrawable
    have answer : result = (round.scheduler.withBoard (round.board.cancel record.id now).1,
        (round.board.cancel record.id now).2) := rfl
    rw [done] at answer
    rw [answer]
    refine ⟨rfl, kind, token, known, holds, rfl, ?_⟩
    exact Board.accepted_withdrawn round.board record now balanced kind token found active known holds
  · have done := cancel_barred round _ steady id now fun other stored => by
      rw [found, Option.some.injEq] at stored
      exact stored ▸ barred
    rwa [found] at done
  · rw [cancel_performed]
  · intro later whole last again
    obtain ⟨_, rest⟩ := fresh_split history later whole
    have known : id ∈ [] ++ idsOf history := steady.sound.known id record found
    exact cancel_once round _ steady id known now later rest again

theorem running_task_withdrawn :
    Scheduler.new Settings.default waitingTask 1 = .ok waitingScheduler ∧
      Fresh (cutShort.take 5) ∧ Fresh (cutShort.take 5 ++ [(Instant.epoch, .move (.releaseWatch 0))]) ∧
      let round := (ofScheduler waitingScheduler).run (cutShort.take 5)
      let id := TaskId.ofNumber 1
      (round.scheduler.cancel id Instant.epoch).2 = .ok true ∧
        round.board.tokens.find? id = some 0 ∧
        (round.scheduler.cancel id Instant.epoch).1.board.tokens.find? id = none ∧
        (round.scheduler.cancel id Instant.epoch).1.board.tokens.cancelled = [0] ∧
        let last := (round.perform Instant.epoch (.move (.cancel id))).run
          [(Instant.epoch, .move (.releaseWatch 0))]
        (last.scheduler.cancel id Instant.epoch).1 = last.scheduler ∧
          (last.scheduler.cancel id Instant.epoch).2 = .ok false := by
  have built : Scheduler.new Settings.default waitingTask 1 = .ok waitingScheduler := rfl
  have fresh : Fresh (cutShort.take 5) := by
    unfold Fresh
    decide +kernel
  have whole : Fresh (cutShort.take 5 ++ [(Instant.epoch, .move (.releaseWatch 0))]) := by
    unfold Fresh
    decide +kernel
  have runs : (((ofScheduler waitingScheduler).run (cutShort.take 5)).board.store.find?
      (TaskId.ofNumber 1)).map (fun record => (record.state, record.kind)) =
        some (.running, some .async) := by decide +kernel
  have holds : ((ofScheduler waitingScheduler).run (cutShort.take 5)).board.tokens.find?
      (TaskId.ofNumber 1) = some 0 := by decide +kernel
  obtain ⟨record, found, same⟩ := Option.map_eq_some_iff.mp runs
  obtain ⟨state, kind⟩ := Prod.mk.inj same
  obtain ⟨_, stored⟩ := cancel_withdraws _ _ _ waitingScheduler built (cutShort.take 5) fresh
    (TaskId.ofNumber 1) Instant.epoch
  obtain ⟨accepted, _, _, past⟩ := stored record found
  obtain ⟨answer, kind, token, _, held, _, withdrawn⟩ := accepted (.inr ⟨kind, state⟩)
  have named : token = 0 := Option.some.inj (held.symm.trans holds)
  have unheld := withdrawn.unheld
  rw [Store.find_has_id _ _ _ found] at unheld
  have cancelled : ((ofScheduler waitingScheduler).run (cutShort.take 5)).board.tokens.cancelled =
      [] := by decide +kernel
  have told := congrArg Tokens.cancelled withdrawn.tokens
  rw [cancelled, named] at told
  have kept : (((((ofScheduler waitingScheduler).run (cutShort.take 5)).perform Instant.epoch
      (.move (.cancel (TaskId.ofNumber 1)))).run
        [(Instant.epoch, .move (.releaseWatch 0))]).board.store.find? (TaskId.ofNumber 1)).isSome := by
    decide +kernel
  have again := past _ whole Instant.epoch
  simp only [if_pos kept] at again
  exact ⟨built, fresh, whole, answer, holds, unheld, told, congrArg Prod.fst again,
    congrArg Prod.snd again⟩

end Round

end Foreman
