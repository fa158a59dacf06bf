import Foreman.Proofs.Scheduler.Checks
import Foreman.Proofs.Scheduler.Pass

set_option autoImplicit false

namespace Foreman

namespace Board

def taskEvents (board : Board) : List Event :=
  board.bus.published.filter fun event => event.kind.isTask

structure Alike (board other : Board) : Prop where
  store : board.store = other.store
  pending : board.pending = other.pending
  metrics : board.metrics = other.metrics
  tokens : board.tokens = other.tokens
  events : board.taskEvents = other.taskEvents

theorem alike_noted (board : Board) (due : DueJob) (id : TaskId) (now : Instant)
    (result : Except SchedulerError Ticket) : (board.noted due id now result).Alike board := by
  unfold noted
  split
  · refine ⟨rfl, rfl, rfl, rfl, ?_⟩
    exact (List.filter_append _ _).trans (List.append_nil _)
  · exact ⟨rfl, rfl, rfl, rfl, rfl⟩
  · refine ⟨rfl, rfl, rfl, rfl, ?_⟩
    exact (List.filter_append _ _).trans (List.append_nil _)

end Board

namespace Scheduler

section Accept

variable (scheduler : Scheduler) (request : Request) (id : TaskId) (now : Instant)

theorem accept_opened (isOpen : Bool) :
    ({ scheduler with isOpen := isOpen }.accept request id now).1.board =
      (scheduler.accept request id now).1.board := by
  unfold accept
  cases scheduler.cache.resolve scheduler.registry.resolve request.reference with
  | mk cache answer =>
      cases answer with
      | error cause =>
          simp only [board]
          cases scheduler.shop.board.reject id request.reference cause now with
          | mk last result => cases result <;> rfl
      | ok callable => rfl

theorem submit_board (opened : scheduler.isOpen = true) (valid : request.validate = .ok ()) :
    (scheduler.submit request id now).1.board = (scheduler.accept request id now).1.board := by
  simp only [submit, valid, if_pos opened]
  cases scheduler.accept request id now with
  | mk next result => cases result <;> rfl

end Accept

theorem fire_alike (scheduler : Scheduler) (due : DueJob) (id : TaskId) (now : Instant)
    (valid : due.request.validate = .ok ()) :
    (scheduler.fireJob due id now).board.Alike
      ({ scheduler with isOpen := true }.submit due.request id now).1.board := by
  rw [submit_board _ due.request id now rfl valid, accept_opened, fire_board]
  exact Board.alike_noted _ due id now _

end Scheduler

namespace Round

-- A fire of a job of the table, or of one that a round has taken from it.
def MayFire (round : Round) (due : DueJob) : Prop :=
  due ∈ round.due ∨
    ∃ job ∈ round.board.jobs.jobs, job.id = due.id ∧ job.definition.request = due.request

theorem may_fire_vetted (round : Round) (checked : round.Checked) (due : DueJob)
    (may : round.MayFire due) : due.request.Vetted := by
  rcases may with waits | ⟨job, listed, _, same⟩
  · exact checked.due due waits
  · exact same ▸ (job.definition.validate_iff.mp (checked.table job listed)).2

-- The coordinator still fires jobs while a stopped scheduler waits for its command, so the fire is
-- held against what `submit` would do if the scheduler was open.
theorem fires_as_submitted (settings : Settings) (registry : Registry Callable) (cores : Nat)
    (scheduler : Scheduler) (built : Scheduler.new settings registry cores = .ok scheduler)
    (history : List (Instant × Step)) (fresh : Fresh history) :
    let round := (ofScheduler scheduler).run history
    (∀ job ∈ round.board.jobs.jobs,
      Text.allBlank job.id = false ∧ job.definition.request.validate = .ok () ∧
        ∃ parsed, Reference.parse job.definition.request.reference = .ok parsed) ∧
    (∀ due, round.MayFire due → ∀ id now,
      let fired := round.scheduler.fireJob due id now
      let submitted := ({ round.scheduler with isOpen := true }.submit due.request id now).1
      fired.board.Alike submitted.board ∧
      ∀ task reference, (round.scheduler.accept due.request id now).2 ≠
        .error (.resolution task (.malformedReference reference))) ∧
    (∀ fire, round.hand = some fire → ∀ task reference,
      fire.result ≠ .error (.resolution task (.malformedReference reference))) ∧
    (∀ request, request.validate = .ok () → ∀ id now ticket,
      (round.scheduler.accept request id now).2 = .ok ticket →
        Span.Positive ticket.assignment.timeout) ∧
    ∀ ticket, round.Carries ticket → Span.Positive ticket.assignment.timeout := by
  intro round
  have checked := checked_run settings registry cores scheduler built history fresh
  refine ⟨?_, ?_, checked.hand, ?_, checked.timed⟩
  · intro job listed
    obtain ⟨named, vetted⟩ := job.definition.validate_iff.mp (checked.table job listed)
    exact ⟨named, vetted.valid, vetted.wellFormed⟩
  · intro due may id now fired submitted
    have vetted := may_fire_vetted round checked due may
    exact ⟨Scheduler.fire_alike round.scheduler due id now vetted.valid,
      Scheduler.accept_wellformed round.scheduler due.request id now vetted⟩
  · exact fun request valid id now =>
      Scheduler.accept_positive round.scheduler request id now valid checked.limit

theorem quick_fire_as_submitted :
    let round := (ofScheduler quickScheduler).run twoFires
    let now := (Instant.ofUnix? 4 0).getD Instant.epoch
    let due : DueJob := ⟨"quick", now, quickJob.request⟩
    let fired := round.scheduler.fireJob due (TaskId.ofNumber 4) now
    let submitted := (round.scheduler.submit quickJob.request (TaskId.ofNumber 4) now).1
    Scheduler.new Settings.default quickTask 1 = .ok quickScheduler ∧ Fresh twoFires ∧
      round.MayFire due ∧ round.scheduler.isOpen = true ∧
      fired.board.store = submitted.board.store ∧
      submitted.board.store.tally .pending = round.board.store.tally .pending + 1 ∧
      fired.board.taskEvents = submitted.board.taskEvents := by
  intro round now due fired submitted
  have built : Scheduler.new Settings.default quickTask 1 = .ok quickScheduler := rfl
  have fresh : Fresh twoFires := by
    unfold Fresh
    decide +kernel
  have listed : (round.board.jobs.find? "quick").map (fun job => job.definition.request) =
      some quickJob.request := by rfl
  obtain ⟨job, found, same⟩ := Option.map_eq_some_iff.mp listed
  have may : round.MayFire due := .inr ⟨job, JobTable.find_member _ "quick" job found,
    JobTable.find_named _ "quick" job found, same⟩
  have opened : round.scheduler.isOpen = true := by decide +kernel
  have running : { round.scheduler with isOpen := true } = round.scheduler := by rw [← opened]
  obtain ⟨_, fires, _⟩ :=
    fires_as_submitted Settings.default quickTask 1 quickScheduler built twoFires fresh
  have alike := (fires due may (TaskId.ofNumber 4) now).1
  rw [running] at alike
  exact ⟨built, fresh, may, opened, alike.store, by decide +kernel, alike.events⟩

end Round

end Foreman
