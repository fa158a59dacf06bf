import Foreman.Proofs.Scheduler.Desk
import Foreman.Proofs.Scheduler.Round

set_option autoImplicit false

namespace Foreman

def Command.ticket? : Command → Option Ticket
  | .dispatch ticket => some ticket
  | .shutdown _ => none

def ticketsOf : Except SchedulerError Ticket → List Ticket
  | .ok ticket => [ticket]
  | .error _ => []

theorem stamps_issued (tokens : Tokens) (id : TaskId) :
    (tokens.issue id).1.stamps [id] = [(id, tokens.fresh)] := by
  have absent : (tokens.remove id).held.find? (fun entry => entry.1 == id) = none := by
    apply List.find?_eq_none.mpr
    intro pair member
    simpa using (Tokens.remove_subset tokens id pair member).2
  have found : (tokens.issue id).1.find? id = some tokens.fresh := by
    simp [Tokens.find?, Tokens.issue, List.find?_append, absent]
  simp [Tokens.stamps, found]

theorem stamps_unheld (tokens : Tokens) (id : TaskId) (unheld : ∀ pair ∈ tokens.held, pair.1 ≠ id) :
    tokens.stamps [id] = [] := by
  have absent : tokens.held.find? (fun entry => entry.1 == id) = none := by
    apply List.find?_eq_none.mpr
    intro pair member
    simpa using unheld pair member
  simp [Tokens.stamps, Tokens.find?, absent]

inductive Accepted (board : Board) (id : TaskId) : Board → Except SchedulerError Ticket → Prop where
  | entered (ticket : Ticket) (now : Instant) (named : ticket.id = id)
      (token : ticket.token = board.tokens.fresh) :
      Accepted board id
        (board.enrolled ticket.assignment (board.stored (TaskRecord.pending ticket.assignment))
          (board.tokens.issue id).1 now) (.ok ticket)
  | refused (record : TaskRecord) (cause : ResolutionError) (last : Board) (named : record.id = id)
      (failed : record.state.isTerminal = true)
      (aside : Board.Change (board.rejected record) .aside last)
      (tokens : last.tokens = board.tokens) :
      Accepted board id last (.error (.resolution id cause))
  | full (capacity : Nat) : Accepted board id board (.error (.queueFull capacity))

theorem accepted_shifts {plans : Prop} (desk : Desk) (sound : desk.Sound) (id : TaskId)
    (fresh : id ∉ desk.used) (board : Board) (result : Except SchedulerError Ticket)
    (accepted : Accepted desk.board id board result) :
    Desk.Shifts plans desk
      { desk with
        board := board
        queued := desk.queued ++ ticketsOf result
        issued := desk.issued ++ board.tokens.stamps [id]
        used := desk.used ++ [id] } := by
  have unheld (pair : TaskId × Nat) (member : pair ∈ desk.board.tokens.held) : pair.1 ≠ id := by
    rintro rfl
    exact fresh (sound.given pair (sound.table pair member)).1
  cases accepted with
  | entered ticket now named token =>
      subst named
      have issued : (desk.board.enrolled ticket.assignment
          (desk.board.stored (TaskRecord.pending ticket.assignment))
          (desk.board.tokens.issue ticket.id).1 now).tokens.stamps [ticket.id] = [ticket.stamp] := by
        rw [Ticket.stamp, token]
        exact stamps_issued desk.board.tokens ticket.id
      rw [issued]
      exact Desk.shifts_one desk _ (.entered ticket now fresh token)
  | refused record cause last named failed aside tokens =>
      subst named
      have none := stamps_unheld desk.board.tokens record.id unheld
      have turned : Board.Evolves (· = .aside) (desk.board.rejected record) board :=
        Board.evolves_one _ _ _ rfl aside
      rw [tokens, none, ticketsOf, List.append_nil, List.append_nil]
      refine .step _ _ (Desk.shifts_one desk _ (.refused record fresh failed)) ?_
      exact .evolved board (· = .aside) (by simp) (by simp) (by simp) turned
  | full capacity =>
      rw [stamps_unheld desk.board.tokens id unheld, ticketsOf, List.append_nil, List.append_nil]
      exact Desk.shifts_one desk _ (.spent id)

namespace Scheduler

theorem accept_cases (scheduler : Scheduler) (request : Request) (id : TaskId) (now : Instant)
    (intact : scheduler.board.store.Intact) (absent : scheduler.board.store.find? id = none) :
    ∃ cache board result, scheduler.accept request id now =
        ({ scheduler with cache := cache, shop := { scheduler.shop with board := board } }, result) ∧
      Accepted scheduler.board id board result := by
  unfold accept
  cases resolved : scheduler.cache.resolve scheduler.registry.resolve request.reference with
  | mk cache answer =>
      cases answer with
      | error cause =>
          have done := Board.reject_done scheduler.board id request.reference cause now intact absent
          refine ⟨cache, _, _, ?_, .refused (Board.refusal id request.reference cause now) cause
            ((scheduler.board.reject id request.reference cause now).1) rfl rfl ?_ ?_⟩
          · simp only [board] at done ⊢
            simp only [done]
            rfl
          · rw [done]
            exact .aside _ rfl rfl rfl rfl rfl rfl
          · rw [done]
            rfl
      | ok callable =>
          let wanted := request.orTimeout scheduler.settings.defaultTimeout
          let assignment := Assignment.ofRequest wanted id callable.kind now
          cases full : scheduler.board.isFull scheduler.settings.queueCapacity with
          | true =>
              have done := Board.enroll_full scheduler.board assignment
                scheduler.settings.queueCapacity now full
              refine ⟨cache, _, _, ?_, .full (scheduler.settings.queueCapacity.getD 0)⟩
              simp only [Workshop.enroll, board] at done ⊢
              simp only [assignment, wanted] at done
              simp only [done]
          | false =>
              have done := Board.enroll_free scheduler.board assignment
                scheduler.settings.queueCapacity now intact absent full
              refine ⟨cache, _, _, ?_, .entered ⟨assignment, callable, scheduler.board.tokens.fresh⟩
                now rfl rfl⟩
              simp only [Workshop.enroll, board] at done ⊢
              simp only [assignment, wanted] at done ⊢
              simp only [done]
              rfl

end Scheduler

end Foreman
