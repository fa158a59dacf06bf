import Foreman.Proofs.Jobs.Table
import Foreman.Proofs.Store.Records
import Foreman.Scheduler.Move

set_option autoImplicit false

namespace Foreman

def JobTable.written (table : JobTable) (job : String) (id : TaskId) :
    Except SchedulerError Ticket → JobTable
  | .ok _ => table.recordFire job id
  | .error (.resolution task _) => table.recordFire job task
  | .error _ => table

def Move.IsPlanning : Move → Prop
  | .addJob _ | .removeJob _ | .setJobEnabled _ _ => True
  | _ => False

namespace Scheduler

theorem new_cases (settings : Settings) (registry : Registry Callable) (cores : Nat)
    (scheduler : Scheduler) (built : Scheduler.new settings registry cores = .ok scheduler) :
    scheduler = {
      settings := settings
      cores := cores
      registry := registry
      cache := ResolverCache.empty
      shop := Workshop.ofBoard (Board.empty settings.eventCapacity)
      isOpen := false
      phase := .off
      inbox := []
      watches := [] } := by
  rw [new] at built
  cases valid : settings.validate with
  | error error =>
      rw [valid] at built
      cases built
  | ok value =>
      rw [valid] at built
      cases built
      rfl

section Calls

variable (scheduler : Scheduler) (now : Instant)

theorem start_cases :
    (scheduler.start now).1 = scheduler ∨
      scheduler.phase = .off ∧ (scheduler.start now).1 = publish { scheduler with
        shop := { scheduler.shop with
          pools := scheduler.shop.pools ++ [Pool.ofSize scheduler.poolSize scheduler.cores] }
        isOpen := true
        phase := .on
        inbox := [] } (Event.ofScheduler .startup now) := by
  by_cases busy : (scheduler.isOpen || scheduler.phase != .off) = true
  · exact .inl (by rw [start, if_pos busy])
  · refine .inr ⟨?_, by rw [start, if_neg busy]⟩
    simp only [Bool.or_eq_true, bne_iff_ne, not_or, Decidable.not_not] at busy
    exact busy.2

theorem stop_cases (mode : ShutdownMode) :
    (scheduler.stop mode).1 = scheduler ∨
      scheduler.isOpen = true ∧ (scheduler.stop mode).1 =
        { scheduler with isOpen := false, inbox := scheduler.inbox ++ [.shutdown mode] } := by
  by_cases opened : scheduler.isOpen = true
  · exact .inr ⟨opened, by rw [stop, if_pos opened]⟩
  · exact .inl (by rw [stop, if_neg opened])

theorem dispatch_cases (ticket : Ticket) :
    scheduler.dispatch ticket now = scheduler ∧
        (scheduler.board.store.Intact → ticket.token ∈ scheduler.board.tokens.cancelled ∨
          ∀ record, scheduler.board.store.find? ticket.assignment.id = some record →
            record.state ≠ .pending) ∨
      scheduler.dispatch ticket now =
        { scheduler with
          shop := scheduler.shop.hand ticket
          watches := scheduler.watches ++ [Watch.begin ticket now] } := by
  by_cases cancelled : scheduler.board.tokens.isCancelled ticket.token = true
  · exact .inl ⟨by rw [dispatch, if_pos cancelled],
      fun _ => .inl (List.contains_iff_mem.mp cancelled)⟩
  · rw [dispatch, if_neg cancelled]
    cases got : scheduler.board.store.get ticket.assignment.id with
    | error error =>
        refine .inl ⟨rfl, fun intact => ?_⟩
        rw [Store.get_intact scheduler.board.store intact] at got
        cases got
    | ok stored =>
        cases stored with
        | none =>
            refine .inl ⟨rfl, fun intact => .inr fun record found => ?_⟩
            rw [Store.get_intact scheduler.board.store intact, found] at got
            cases got
        | some record =>
            by_cases waits : record.state = .pending
            · exact .inr (by simp only [if_pos waits])
            · refine .inl ⟨by simp only [if_neg waits], fun intact => .inr fun other found => ?_⟩
              rw [Store.get_intact scheduler.board.store intact, found] at got
              cases got
              exact waits

theorem receive_cases :
    scheduler.receive now = scheduler ∨
      (∃ ticket rest, scheduler.inbox = .dispatch ticket :: rest ∧
        scheduler.receive now = dispatch { scheduler with inbox := rest } ticket now) ∨
      ∃ mode rest, scheduler.inbox = .shutdown mode :: rest ∧
        scheduler.receive now = shutdown { scheduler with inbox := [] } mode now := by
  cases inbox : scheduler.inbox with
  | nil => exact .inl (by simp only [receive, inbox])
  | cons command rest =>
      cases command with
      | dispatch ticket => exact .inr (.inl ⟨ticket, rest, rfl, by simp only [receive, inbox]⟩)
      | shutdown mode => exact .inr (.inr ⟨mode, rest, rfl, by simp only [receive, inbox]⟩)

theorem close_cases :
    scheduler.close now = scheduler ∨
      scheduler.phase = .closing ∧ scheduler.watches = [] ∧
        scheduler.close now = publish { scheduler with
          shop := { scheduler.shop with spawned := [], fibers := [] }
          phase := .off } (Event.ofScheduler .shutdown now) := by
  by_cases past : scheduler.phase = .closing ∧ scheduler.watches.isEmpty = true
  · exact .inr ⟨past.1, List.isEmpty_iff.mp past.2, by rw [close, if_pos past]⟩
  · exact .inl (by rw [close, if_neg past])

theorem settle_fire_cases (due : DueJob) (id : TaskId) (result : Except SchedulerError Ticket) :
    let written := scheduler.withJobs (scheduler.board.jobs.written due.id id result)
    (∃ ticket event, result = .ok ticket ∧
        scheduler.settleFire due id now result = (written.publish event).dispatch ticket now) ∨
      (∃ error, result = .error error) ∧
        (scheduler.settleFire due id now result = written ∨
          ∃ event, scheduler.settleFire due id now result = written.publish event) := by
  intro written
  cases result with
  | ok ticket =>
      exact .inl ⟨ticket, (Event.ofJob .jobFired due.id now).withTask id due.request.reference, rfl,
        rfl⟩
  | error error =>
      refine .inr ⟨⟨error, rfl⟩, ?_⟩
      cases error with
      | resolution task cause => exact .inl rfl
      | _ => exact .inr ⟨Event.ofJob .jobMissed due.id now, rfl⟩

inductive Verdict (scheduler : Scheduler) (now : Instant) (ticket : Ticket) :
    TaskState → Outcome → Prop where
  | completed (result : End) (outcome : Outcome)
      (ended : scheduler.shop.end? ticket.token = some result)
      (given : result.outcome = some outcome) :
      Verdict scheduler now ticket outcome.completion outcome
  | lost : Verdict scheduler now ticket .failed (lost ticket now)
  | expired : Verdict scheduler now ticket .timedOut (timedOut ticket now)

theorem verdict_terminal (ticket : Ticket) (state : TaskState) (outcome : Outcome)
    (verdict : Verdict scheduler now ticket state outcome) : state.isTerminal = true := by
  cases verdict with
  | completed result outcome _ _ => cases outcome <;> rfl
  | lost => rfl
  | expired => rfl

theorem complete_watch_cases (token : Nat) :
    scheduler.completeWatch token now = scheduler ∨
      ∃ watch, scheduler.findWatch token = some watch ∧
        (scheduler.board.tokens.isCancelled watch.ticket.token = true ∧
            scheduler.completeWatch token now = scheduler.endWatch token ∨
          ∃ state outcome, Verdict scheduler now watch.ticket state outcome ∧
            scheduler.completeWatch token now =
              (scheduler.endWatch token).finish watch.ticket state outcome now) := by
  cases found : scheduler.findWatch token with
  | none => exact .inl (by simp only [completeWatch, found])
  | some watch =>
      cases ended : scheduler.shop.end? token with
      | none => exact .inl (by simp only [completeWatch, found, ended])
      | some result =>
          refine .inr ⟨watch, rfl, ?_⟩
          have named : watch.ticket.token = token := by simpa using List.find?_some found
          have done : scheduler.completeWatch token now =
              (scheduler.endWatch token).completed watch.ticket result.outcome now := by
            simp only [completeWatch, found, ended]
          rw [done]
          cases given : result.outcome with
          | some outcome =>
              exact .inr ⟨outcome.completion, outcome,
                .completed result outcome (named ▸ ended) given, rfl⟩
          | none =>
              by_cases cancelled : scheduler.board.tokens.isCancelled watch.ticket.token = true
              · exact .inl ⟨cancelled, if_pos cancelled⟩
              · exact .inr ⟨.failed, lost watch.ticket now, .lost, if_neg cancelled⟩

theorem expire_watch_cases (token : Nat) :
    scheduler.expireWatch token now = scheduler ∨
      ∃ watch, scheduler.findWatch token = some watch ∧
        let finished := (scheduler.endWatch token).finish watch.ticket .timedOut
          (timedOut watch.ticket now) now
        scheduler.expireWatch token now = finished.withBoard (finished.board.cancelToken token) := by
  cases found : scheduler.findWatch token with
  | none => exact .inl (by simp only [expireWatch, found])
  | some watch =>
      by_cases expired : watch.isExpired now = true
      · exact .inr ⟨watch, rfl, by simp only [expireWatch, found, if_pos expired]⟩
      · exact .inl (by simp only [expireWatch, found, if_neg expired])

theorem release_watch_cases (token : Nat) :
    scheduler.releaseWatch token = scheduler ∨
      scheduler.board.tokens.isCancelled token = true ∧
        scheduler.releaseWatch token = scheduler.endWatch token := by
  by_cases cancelled : scheduler.board.tokens.isCancelled token = true
  · exact .inr ⟨cancelled, if_pos cancelled⟩
  · exact .inl (if_neg cancelled)

theorem add_job_cases (definition : JobDefinition) :
    (scheduler.addJob definition now).1 = scheduler ∨
      ∃ event, (scheduler.addJob definition now).1 =
        (scheduler.withJobs (scheduler.board.jobs.upsert definition now).1).publish event := by
  cases valid : definition.validate with
  | error error => exact .inl (by simp only [addJob, valid])
  | ok value =>
      let existed := (scheduler.board.jobs.upsert definition now).2.1
      let kind := if existed then EventKind.jobUpdated else .jobAdded
      exact .inr ⟨Event.ofJob kind definition.id now, by simp only [addJob, valid, kind, existed]⟩

theorem remove_job_cases (id : String) :
    (scheduler.removeJob id now).1 = scheduler ∨
      ∃ event, (scheduler.removeJob id now).1 =
        (scheduler.withJobs (scheduler.board.jobs.remove id).1).publish event := by
  cases removed : scheduler.board.jobs.remove id with
  | mk jobs found =>
      cases found with
      | none => exact .inl (by simp only [removeJob, removed])
      | some job => exact .inr ⟨Event.ofJob .jobRemoved id now, by simp only [removeJob, removed]⟩

theorem set_job_cases (id : String) (enabled : Bool) :
    (scheduler.setJobEnabled id enabled now).1 = scheduler ∨
      ∃ event, (scheduler.setJobEnabled id enabled now).1 =
        (scheduler.withJobs (scheduler.board.jobs.setEnabled id enabled now).1).publish event := by
  cases changed : scheduler.board.jobs.setEnabled id enabled now with
  | mk jobs found =>
      cases found with
      | none => exact .inl (by simp only [setJobEnabled, changed])
      | some job =>
          exact .inr ⟨Event.ofJob .jobUpdated id now, by simp only [setJobEnabled, changed]⟩

theorem planning_cases (move : Move) (planning : move.IsPlanning) :
    scheduler.perform now move = scheduler ∨
      ∃ jobs event, scheduler.perform now move = (scheduler.withJobs jobs).publish event := by
  cases move with
  | addJob definition =>
      rcases add_job_cases scheduler now definition with same | ⟨event, same⟩
      · exact .inl same
      · exact .inr ⟨_, event, same⟩
  | removeJob id =>
      rcases remove_job_cases scheduler now id with same | ⟨event, same⟩
      · exact .inl same
      · exact .inr ⟨_, event, same⟩
  | setJobEnabled id enabled =>
      rcases set_job_cases scheduler now id enabled with same | ⟨event, same⟩
      · exact .inl same
      · exact .inr ⟨_, event, same⟩
  | _ => cases planning

end Calls

end Scheduler

end Foreman
