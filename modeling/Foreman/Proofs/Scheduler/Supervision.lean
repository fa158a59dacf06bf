import Foreman.Proofs.Scheduler.Acceptance
import Foreman.Proofs.Scheduler.Calls

set_option autoImplicit false

namespace Foreman

namespace Workshop

theorem queue_waiting (ticket : Ticket) (pools : List Pool) (other : Ticket)
    (member : other ∈ (queue ticket pools).flatMap Pool.waiting) :
    other ∈ pools.flatMap Pool.waiting ∨ other = ticket := by
  induction pools with
  | nil => exact .inl member
  | cons pool rest ih =>
      cases rest with
      | nil => simpa [queue, Pool.add] using member
      | cons next later =>
          rw [queue, List.flatMap_cons, List.mem_append] at member
          · rcases member with own | behind
            · exact .inl (List.mem_append_left _ own)
            · rcases ih behind with before | same
              · exact .inl (List.mem_append_right _ before)
              · exact .inr same
          · exact List.cons_ne_nil next later

theorem hand_handed (shop : Workshop) (ticket other : Ticket)
    (member : other ∈ (shop.hand ticket).handed) : other ∈ shop.handed ∨ other = ticket := by
  unfold hand at member
  split at member
  · rcases List.mem_append.mp member with pooled | spawned
    · rcases queue_waiting ticket shop.pools other pooled with before | same
      · exact .inl (List.mem_append_left _ before)
      · exact .inr same
    · exact .inl (List.mem_append_right _ spawned)
  · simp only [handed, List.mem_append, List.mem_singleton] at member ⊢
    rcases member with pooled | spawned | same
    · exact .inl (.inl pooled)
    · exact .inl (.inr spawned)
    · exact .inr same

theorem hand_board (shop : Workshop) (ticket : Ticket) : (shop.hand ticket).board = shop.board := by
  unfold hand
  split <;> rfl

end Workshop

namespace Scheduler

def queued (scheduler : Scheduler) : List Ticket := scheduler.inbox.filterMap Command.ticket?

def watched (scheduler : Scheduler) : List Ticket := scheduler.watches.map Watch.ticket

def desk (scheduler : Scheduler) (hand : List Ticket) (issued : List (TaskId × Nat))
    (used : List TaskId) : Desk where
  board := scheduler.board
  queued := hand ++ scheduler.queued
  watched := scheduler.watched
  handed := scheduler.shop.handed
  issued := issued
  used := used

section Desk

variable {plans : Prop} (scheduler : Scheduler) (now : Instant) (hand : List Ticket)
  (issued : List (TaskId × Nat)) (used : List TaskId)

theorem dispatch_shifts (intact : scheduler.board.store.Intact) (ticket : Ticket)
    (queue : List Ticket)
    (before : ∀ other ∈ queue, other = ticket ∨ other ∈ hand ++ scheduler.queued)
    (after : ∀ other ∈ hand ++ scheduler.queued, other ∈ queue) (member : ticket ∈ queue) :
    Desk.Shifts plans { scheduler.desk hand issued used with queued := queue }
      ((scheduler.dispatch ticket now).desk hand issued used) := by
  have dropped (reason : ticket.token ∈ scheduler.board.tokens.cancelled ∨
      ∀ record, scheduler.board.store.find? ticket.id = some record → record.state ≠ .pending) :
      Desk.Shifts plans { scheduler.desk hand issued used with queued := queue }
        (scheduler.desk hand issued used) := by
    refine Desk.shifts_one _ _ (.passed (hand ++ scheduler.queued) scheduler.watched
      scheduler.shop.handed after (fun _ watching => .inl watching) (fun _ given => .inl given) ?_
      fun _ watching => .inl watching)
    intro other present
    rcases before other present with same | stays
    · exact .inr (.inr (same ▸ reason))
    · exact .inl stays
  rcases dispatch_cases scheduler now ticket with ⟨same, reason⟩ | handed
  · rw [same]
    exact dropped (reason intact)
  · have target : (scheduler.dispatch ticket now).desk hand issued used =
        { scheduler.desk hand issued used with
          watched := scheduler.watched ++ [ticket]
          handed := (scheduler.shop.hand ticket).handed } := by
      rw [handed]
      simp only [desk, board, watched, Workshop.hand_board, List.map_append]
      rfl
    rw [target]
    refine Desk.shifts_one _ _ ?_
    refine .passed (hand ++ scheduler.queued) (scheduler.watched ++ [ticket])
      (scheduler.shop.hand ticket).handed after ?_ ?_ ?_ ?_
    · intro other watching
      rcases List.mem_append.mp watching with earlier | last
      · exact .inl earlier
      · exact .inr (List.mem_singleton.mp last ▸ member)
    · intro other given
      rcases Workshop.hand_handed scheduler.shop ticket other given with earlier | same
      · exact .inl earlier
      · exact .inr (by simp [same])
    · intro other present
      rcases before other present with same | stays
      · exact .inr (.inl (by simp [same]))
      · exact .inl stays
    · exact fun other watching => .inl (List.mem_append_left _ watching)

theorem board_shifts (board : Board) (allowed : Board.Effect → Prop)
    (closed : ∀ id, ¬ allowed (.entered id)) (unplanned : ¬ allowed .planned)
    (unbegun : ∀ id, ¬ allowed (.started id))
    (evolves : Board.Evolves allowed scheduler.board board) :
    Desk.Shifts plans (scheduler.desk hand issued used)
      ((scheduler.withBoard board).desk hand issued used) :=
  Desk.shifts_one _ _ (.evolved board allowed closed unplanned
    (fun id starts => absurd starts (unbegun id)) evolves)

theorem publish_shifts (event : Event) :
    Desk.Shifts plans (scheduler.desk hand issued used)
      ((scheduler.publish event).desk hand issued used) :=
  board_shifts scheduler hand issued used _ (· = .aside) (by simp) (by simp) (by simp)
    (Board.evolves_one _ _ _ rfl (.aside _ rfl rfl rfl rfl rfl rfl))

theorem finish_shifts (balanced : scheduler.board.Balanced) (ticket : Ticket) (state : TaskState)
    (outcome : Outcome) (terminal : state.isTerminal = true) :
    Desk.Shifts plans (scheduler.desk hand issued used)
      ((scheduler.finish ticket state outcome now).desk hand issued used) :=
  board_shifts scheduler hand issued used _ (· = .ended ticket.assignment.id) (by simp) (by simp)
    (by simp)
    (Board.finish_evolves scheduler.board now balanced ticket.assignment state outcome terminal)

theorem finish_over (balanced : scheduler.board.Balanced) (ticket : Ticket) (state : TaskState)
    (outcome : Outcome) (terminal : state.isTerminal = true) :
    (scheduler.finish ticket state outcome now).board.Over ticket.id :=
  Board.finish_settles scheduler.board now balanced.intact ticket.assignment state outcome terminal

theorem find_watch (token : Nat) (watch : Watch) (found : scheduler.findWatch token = some watch) :
    watch.ticket ∈ scheduler.watched ∧ watch.ticket.token = token := by
  refine ⟨List.mem_map.mpr ⟨watch, List.mem_of_find?_eq_some found, rfl⟩, ?_⟩
  simpa using List.find?_some found

-- The watches under a token end, for a reason that was found on the board.
theorem end_watch_shifts (token : Nat)
    (reason : token ∈ scheduler.board.tokens.cancelled ∨
      ∃ ticket ∈ scheduler.watched, ticket.token = token ∧ scheduler.board.Over ticket.id) :
    Desk.Shifts plans (scheduler.desk hand issued used)
      ((scheduler.endWatch token).desk hand issued used) := by
  refine Desk.shifts_one _ _ (.passed (hand ++ scheduler.queued) (scheduler.endWatch token).watched
    scheduler.shop.handed (fun _ queued => queued) ?_ (fun _ given => .inl given)
    (fun _ queued => .inl queued) ?_)
  · intro ticket watching
    obtain ⟨watch, kept, rfl⟩ := List.mem_map.mp watching
    exact .inl (List.mem_map.mpr ⟨watch, (List.mem_filter.mp kept).1, rfl⟩)
  · intro ticket watching
    obtain ⟨watch, member, rfl⟩ := List.mem_map.mp watching
    by_cases same : watch.ticket.token = token
    · exact .inr (same ▸ reason)
    · exact .inl (List.mem_map.mpr
        ⟨watch, List.mem_filter.mpr ⟨member, by simpa using same⟩, rfl⟩)

theorem complete_watch_shifts (balanced : scheduler.board.Balanced) (token : Nat) :
    Desk.Shifts plans (scheduler.desk hand issued used)
      ((scheduler.completeWatch token now).desk hand issued used) := by
  rcases complete_watch_cases scheduler now token with same | ⟨watch, found, ways⟩
  · rw [same]
    exact .refl
  · obtain ⟨member, named⟩ := find_watch scheduler token watch found
    rcases ways with ⟨cancelled, same⟩ | ⟨state, outcome, verdict, same⟩
    · rw [same]
      rw [named] at cancelled
      exact end_watch_shifts scheduler hand issued used token
        (.inl (List.contains_iff_mem.mp cancelled))
    · have terminal := verdict_terminal scheduler now watch.ticket state outcome verdict
      rw [same]
      refine Desk.shifts_trans _ _ _
        (finish_shifts scheduler now hand issued used balanced watch.ticket state outcome terminal) ?_
      exact end_watch_shifts (scheduler.finish watch.ticket state outcome now) hand issued used token
        (.inr ⟨watch.ticket, member, named,
          finish_over scheduler now balanced watch.ticket state outcome terminal⟩)

theorem expire_watch_shifts (balanced : scheduler.board.Balanced) (token : Nat) :
    Desk.Shifts plans (scheduler.desk hand issued used)
      ((scheduler.expireWatch token now).desk hand issued used) := by
  rcases expire_watch_cases scheduler now token with same | ⟨watch, found, same⟩
  · rw [same]
    exact .refl
  · -- The watch is only dropped after its token was cancelled, which comes to the same.
    obtain ⟨member, named⟩ := find_watch scheduler token watch found
    let outcome := timedOut watch.ticket now
    let finished := scheduler.finish watch.ticket .timedOut outcome now
    have past : finished.board.Over watch.ticket.id :=
      finish_over scheduler now balanced watch.ticket .timedOut outcome rfl
    have told : Desk.Shifts plans (finished.desk hand issued used)
        ((finished.withBoard (finished.board.cancelToken token)).desk hand issued used) := by
      rw [← named]
      exact Desk.shifts_one _ _ (.told watch.ticket member past)
    rw [same]
    refine Desk.shifts_trans _ _ _ (finish_shifts scheduler now hand issued used balanced watch.ticket
      .timedOut outcome rfl) (Desk.shifts_trans _ _ _ told ?_)
    refine end_watch_shifts (finished.withBoard (finished.board.cancelToken token)) hand issued used
      token (.inl ?_)
    exact (Tokens.cancel_cancelled _ token token).mpr (.inr rfl)

theorem release_watch_shifts (token : Nat) :
    Desk.Shifts plans (scheduler.desk hand issued used)
      ((scheduler.releaseWatch token).desk hand issued used) := by
  rcases release_watch_cases scheduler token with same | ⟨cancelled, same⟩
  · rw [same]
    exact .refl
  · rw [same]
    exact end_watch_shifts scheduler hand issued used token
      (.inl (List.contains_iff_mem.mp cancelled))

end Desk

end Scheduler

end Foreman
