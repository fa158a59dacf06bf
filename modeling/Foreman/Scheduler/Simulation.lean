import Foreman.Scheduler.Move

/-!
A scheduler in virtual time. Whatever can happen at a time happens before time goes on; callers that
wait let it go on until what they wait for is there.
-/

set_option autoImplicit false

namespace Foreman

structure Simulation where
  scheduler : Scheduler
  issued : Nat

namespace Simulation

variable (idOf : Nat → TaskId)

def watchMove (scheduler : Scheduler) (now : Instant) (watch : Watch) : Option Move :=
  let token := watch.ticket.token
  if (scheduler.shop.end? token).isSome then some (.completeWatch token)
  else if watch.isExpired now then some (.expireWatch token)
  else if scheduler.board.tokens.isCancelled token then some (.releaseWatch token)
  else none

def watchMoves (scheduler : Scheduler) (now : Instant) : Option Move :=
  scheduler.watches.findSome? (watchMove scheduler now)

def hasDueJob (scheduler : Scheduler) (now : Instant) : Bool :=
  match scheduler.board.jobs.nextWake scheduler.board.isActive with
  | none => false
  | some time => decide (time ≤ now)

def coordinatorMove (simulation : Simulation) (now : Instant) : Option Move :=
  let scheduler := simulation.scheduler
  if scheduler.isListening && !scheduler.inbox.isEmpty then some .receive
  else if scheduler.isWatching then
    ((scheduler.shop.fiberDeed now).map Move.work).orElse fun _ =>
      (watchMoves scheduler now).orElse fun _ =>
        if scheduler.isListening && hasDueJob scheduler now then
          some (.fireDue fun index => idOf (simulation.issued + index))
        else if scheduler.phase = .closing ∧ scheduler.watches.isEmpty then some .close
        else none
  else if scheduler.phase = .off then none
  else (scheduler.shop.fiberDeed now).map Move.work

def nextMove? (simulation : Simulation) (now : Instant) : Option Move :=
  let shop := simulation.scheduler.shop
  ((shop.poolDeeds now 0 shop.pools).map Move.work).orElse fun _ =>
    coordinatorMove idOf simulation now

-- Ids that a fire may use up are not issued again.
def apply (simulation : Simulation) (now : Instant) (move : Move) : Simulation :=
  let issued := match move with
    | .fireDue _ => simulation.issued + simulation.scheduler.board.jobs.jobs.length
    | _ => simulation.issued
  ⟨simulation.scheduler.perform now move, issued⟩

def deadlines (scheduler : Scheduler) : Option Instant :=
  Workshop.earliest (scheduler.watches.map Watch.deadline)

def wake (simulation : Simulation) : Option Instant :=
  let scheduler := simulation.scheduler
  let coordinated :=
    if scheduler.isWatching then Instant.earliest? scheduler.shop.fiberWake (deadlines scheduler)
    else none
  let jobs :=
    if scheduler.isListening then scheduler.board.jobs.nextWake scheduler.board.isActive else none
  Instant.earliest? scheduler.shop.poolWake (Instant.earliest? coordinated jobs)

-- A job that fires goes on to a later time, or to none.
def future (job : Job) : Nat :=
  match job.nextFireAt with
  | none => 0
  | some time => time.left + 1

-- A ticket in the inbox has to be handed on before its body can be called.
def toil (simulation : Simulation) : Toil :=
  let scheduler := simulation.scheduler
  let closing := if scheduler.phase = .closing then 1 else 0
  ⟨Toil.total future scheduler.board.jobs.jobs,
    2 * scheduler.inbox.length + scheduler.shop.uncalled,
    scheduler.shop.efforts + scheduler.watches.length + closing⟩

def works : Clockwork Simulation :=
  .ofMoves toil
    (fun now simulation => (nextMove? idOf simulation now).map (simulation.apply now)) wake

def settle (moment : Moment Simulation) : Moment Simulation :=
  (works idOf).settle moment

def runUntil (goal : Scheduler → Bool) (limit : Option Instant) (moment : Moment Simulation) :
    Moment Simulation × Bool :=
  (works idOf).runUntil (fun simulation => goal simulation.scheduler) limit moment

def issue (moment : Moment Simulation) : Moment Simulation × TaskId :=
  let simulation := moment.state
  ({ moment with state := { simulation with issued := simulation.issued + 1 } },
    idOf simulation.issued)

def call {α : Type} (moment : Moment Simulation) (act : Scheduler → Instant → Scheduler × α) :
    Moment Simulation × α :=
  let (scheduler, result) := act moment.state.scheduler moment.now
  (settle idOf { moment with state := { moment.state with scheduler := scheduler } }, result)

def submit (moment : Moment Simulation) (request : Request) :
    Moment Simulation × TaskId × Except SchedulerError TaskId :=
  let (moment, id) := issue idOf moment
  let (moment, result) := call idOf moment fun scheduler now => scheduler.submit request id now
  (moment, id, result)

def stop (moment : Moment Simulation) (mode : ShutdownMode) :
    Moment Simulation × Except SchedulerError Unit :=
  match call idOf moment fun scheduler _ => scheduler.stop mode with
  | (moment, .error error) => (moment, .error error)
  | (moment, .ok ()) =>
      ((runUntil idOf (fun scheduler => scheduler.phase == .off) none moment).1, .ok ())

def limitOf (moment : Moment Simulation) : Option Span → Option Instant
  | none => none
  | some span => moment.now.add? span

-- Where a state is reached that was not there before, something has been done.
theorem reached_lowers (goal : Scheduler → Bool) (limit : Option Instant)
    (moment : Moment Simulation) (missed : goal moment.state.scheduler = false)
    (reached : (runUntil idOf goal limit moment).2 = true) :
    toil (runUntil idOf goal limit moment).1.state < toil moment.state := by
  have found := Clockwork.run_reached (works idOf) _ limit moment reached
  rcases Clockwork.run_lowers (works idOf) (fun simulation => goal simulation.scheduler) limit moment
    with unmoved | less
  · rw [unmoved, missed] at found
    cases found
  · exact less

def awaitLooks (id : TaskId) (wait : Option Span) (limit : Option Instant)
    (moment : Moment Simulation) : Moment Simulation × Except SchedulerError Outcome :=
  let board := moment.state.scheduler.board
  match board.look id with
  | .error error => (moment, .error error)
  | .ok (some record) => (moment, .ok (Board.outcomeOf record moment.now))
  | .ok none =>
      let seen := board.announcements
      let turn := runUntil idOf (fun scheduler => scheduler.board.announcements != seen) limit moment
      if turn.2 then awaitLooks id wait limit turn.1
      else (turn.1, .error (.waitTimeout id (wait.getD Span.zero)))
termination_by toil moment.state
decreasing_by
  rename_i heard
  exact reached_lowers idOf _ limit moment (by simp) heard

def await (moment : Moment Simulation) (id : TaskId) (wait : Option Span) :
    Moment Simulation × Except SchedulerError Outcome :=
  awaitLooks idOf id wait (limitOf moment wait) moment

def sleep (moment : Moment Simulation) (span : Span) : Moment Simulation :=
  (runUntil idOf (fun _ => false) (moment.now.add? span) moment).1

end Simulation

end Foreman
