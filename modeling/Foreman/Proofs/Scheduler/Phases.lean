import Foreman.Proofs.Scheduler.Supervision

set_option autoImplicit false

namespace Foreman

-- An inbox takes tickets as long as it is open, and nothing comes after a shutdown.
inductive Inbox : Bool → List Command → Prop where
  | empty : Inbox true []
  | last (mode : ShutdownMode) : Inbox false [.shutdown mode]
  | next (ticket : Ticket) (isOpen : Bool) (rest : List Command) (tail : Inbox isOpen rest) :
      Inbox isOpen (.dispatch ticket :: rest)

theorem inbox_submit (inbox : List Command) (ticket : Ticket) (valid : Inbox true inbox) :
    Inbox true (inbox ++ [.dispatch ticket]) := by
  generalize opened : true = isOpen at valid ⊢
  induction valid with
  | empty => exact .next ticket true [] .empty
  | last mode => cases opened
  | next first isOpen rest _ ih => exact .next first isOpen _ (ih opened)

theorem inbox_stop (inbox : List Command) (mode : ShutdownMode) (valid : Inbox true inbox) :
    Inbox false (inbox ++ [.shutdown mode]) := by
  generalize opened : true = isOpen at valid
  induction valid with
  | empty => exact .last mode
  | last other => cases opened
  | next first isOpen rest _ ih => exact .next first false _ (ih opened)

theorem inbox_tail (ticket : Ticket) (rest : List Command) (isOpen : Bool)
    (valid : Inbox isOpen (.dispatch ticket :: rest)) : Inbox isOpen rest := by
  cases valid with
  | next _ _ _ tail => exact tail

theorem inbox_shutdown (mode : ShutdownMode) (rest : List Command) (isOpen : Bool)
    (valid : Inbox isOpen (.shutdown mode :: rest)) : isOpen = false ∧ rest = [] := by
  cases valid
  exact ⟨rfl, rfl⟩

def Move.IsPhasing : Move → Prop
  | .start | .stop _ | .submit _ _ | .receive | .fireDue _ | .close => True
  | _ => False

namespace Scheduler

structure Orderly (scheduler : Scheduler) : Prop where
  on : scheduler.phase = .on → Inbox scheduler.isOpen scheduler.inbox
  closed : scheduler.phase ≠ .on → scheduler.isOpen = false ∧ scheduler.inbox = []
  off : scheduler.phase = .off → scheduler.watches = []

structure Alike (scheduler next : Scheduler) : Prop where
  phase : next.phase = scheduler.phase
  isOpen : next.isOpen = scheduler.isOpen
  inbox : next.inbox = scheduler.inbox

theorem alike_trans (scheduler between last : Scheduler) (first : scheduler.Alike between)
    (second : between.Alike last) : scheduler.Alike last :=
  ⟨second.phase.trans first.phase, second.isOpen.trans first.isOpen, second.inbox.trans first.inbox⟩

theorem orderly_alike (scheduler next : Scheduler) (orderly : scheduler.Orderly)
    (alike : scheduler.Alike next)
    (watches : scheduler.phase = .off → scheduler.watches = [] → next.watches = []) :
    next.Orderly := by
  obtain ⟨phase, isOpen, inbox⟩ := alike
  refine ⟨?_, ?_, ?_⟩
  · rw [phase, isOpen, inbox]
    exact orderly.on
  · rw [phase, isOpen, inbox]
    exact orderly.closed
  · rw [phase]
    exact fun off => watches off (orderly.off off)

theorem orderly_on (scheduler : Scheduler) (on : scheduler.phase = .on)
    (inbox : Inbox scheduler.isOpen scheduler.inbox) : scheduler.Orderly := by
  refine ⟨fun _ => inbox, fun off => absurd on off, fun off => ?_⟩
  rw [on] at off
  cases off

theorem open_on (scheduler : Scheduler) (orderly : scheduler.Orderly)
    (opened : scheduler.isOpen = true) : scheduler.phase = .on := by
  by_contra closed
  rw [(orderly.closed closed).1] at opened
  cases opened

section Calls

variable (scheduler : Scheduler) (now : Instant)

theorem alike_dispatch (ticket : Ticket) : scheduler.Alike (scheduler.dispatch ticket now) := by
  rcases dispatch_cases scheduler now ticket with ⟨same, _⟩ | handed
  · rw [same]
    exact ⟨rfl, rfl, rfl⟩
  · rw [handed]
    exact ⟨rfl, rfl, rfl⟩

theorem alike_settle_fire (due : DueJob) (id : TaskId) (result : Except SchedulerError Ticket) :
    scheduler.Alike (scheduler.settleFire due id now result) := by
  let written := scheduler.withJobs (scheduler.board.jobs.written due.id id result)
  rcases settle_fire_cases scheduler now due id result with
    ⟨ticket, event, _, handed⟩ | ⟨_, same | ⟨event, told⟩⟩
  · rw [handed]
    exact alike_trans scheduler (written.publish event) _ ⟨rfl, rfl, rfl⟩
      (alike_dispatch (written.publish event) now ticket)
  · rw [same]
    exact ⟨rfl, rfl, rfl⟩
  · rw [told]
    exact ⟨rfl, rfl, rfl⟩

theorem end_watch_none (token : Nat) (none : scheduler.watches = []) :
    (scheduler.endWatch token).watches = [] := by
  rw [endWatch, none]
  rfl

theorem alike_complete_watch (token : Nat) :
    scheduler.Alike (scheduler.completeWatch token now) ∧
      (scheduler.watches = [] → (scheduler.completeWatch token now).watches = []) := by
  rcases complete_watch_cases scheduler now token with
    same | ⟨watch, _, ⟨_, same⟩ | ⟨state, outcome, _, same⟩⟩
  · rw [same]
    exact ⟨⟨rfl, rfl, rfl⟩, fun none => none⟩
  · rw [same]
    exact ⟨⟨rfl, rfl, rfl⟩, end_watch_none scheduler token⟩
  · rw [same]
    exact ⟨⟨rfl, rfl, rfl⟩, end_watch_none scheduler token⟩

theorem alike_expire_watch (token : Nat) :
    scheduler.Alike (scheduler.expireWatch token now) ∧
      (scheduler.watches = [] → (scheduler.expireWatch token now).watches = []) := by
  rcases expire_watch_cases scheduler now token with same | ⟨watch, _, same⟩
  · rw [same]
    exact ⟨⟨rfl, rfl, rfl⟩, fun none => none⟩
  · rw [same]
    exact ⟨⟨rfl, rfl, rfl⟩, end_watch_none scheduler token⟩

theorem alike_release_watch (token : Nat) :
    scheduler.Alike (scheduler.releaseWatch token) ∧
      (scheduler.watches = [] → (scheduler.releaseWatch token).watches = []) := by
  rcases release_watch_cases scheduler token with same | ⟨_, same⟩
  · rw [same]
    exact ⟨⟨rfl, rfl, rfl⟩, fun none => none⟩
  · rw [same]
    exact ⟨⟨rfl, rfl, rfl⟩, end_watch_none scheduler token⟩

theorem alike_move (move : Move) (aside : ¬ move.IsPhasing) :
    scheduler.Alike (scheduler.perform now move) ∧
      (scheduler.watches = [] → (scheduler.perform now move).watches = []) := by
  by_cases planning : move.IsPlanning
  · rcases planning_cases scheduler now move planning with same | ⟨jobs, event, same⟩
    · rw [same]
      exact ⟨⟨rfl, rfl, rfl⟩, fun none => none⟩
    · rw [same]
      exact ⟨⟨rfl, rfl, rfl⟩, fun none => none⟩
  · cases move with
    | completeWatch token =>
        rw [perform]
        split
        · exact alike_complete_watch scheduler now token
        · exact ⟨⟨rfl, rfl, rfl⟩, fun none => none⟩
    | expireWatch token =>
        rw [perform]
        split
        · exact alike_expire_watch scheduler now token
        · exact ⟨⟨rfl, rfl, rfl⟩, fun none => none⟩
    | releaseWatch token =>
        rw [perform]
        split
        · exact alike_release_watch scheduler token
        · exact ⟨⟨rfl, rfl, rfl⟩, fun none => none⟩
    | cancel id => exact ⟨⟨rfl, rfl, rfl⟩, fun none => none⟩
    | evict id => exact ⟨⟨rfl, rfl, rfl⟩, fun none => none⟩
    | work deed => exact ⟨⟨rfl, rfl, rfl⟩, fun none => none⟩
    | permit gate count => exact ⟨⟨rfl, rfl, rfl⟩, fun none => none⟩
    | addJob _ | removeJob _ | setJobEnabled _ _ => exact absurd trivial planning
    | _ => exact absurd trivial aside

end Calls

end Scheduler

end Foreman
