import Foreman.Scheduler.Jobs

set_option autoImplicit false

namespace Foreman

namespace Watch

def begin (ticket : Ticket) (now : Instant) : Watch :=
  ⟨ticket, ticket.assignment.timeout.bind now.add?⟩

def isExpired (watch : Watch) (now : Instant) : Bool :=
  match watch.deadline with
  | none => false
  | some deadline => decide (deadline ≤ now)

end Watch

namespace Scheduler

def dispatch (scheduler : Scheduler) (ticket : Ticket) (now : Instant) : Scheduler :=
  if scheduler.board.tokens.isCancelled ticket.token then scheduler
  else
    match scheduler.board.store.get ticket.assignment.id with
    | .ok (some record) =>
        if record.state = .pending then
          { scheduler with
            shop := scheduler.shop.hand ticket
            watches := scheduler.watches ++ [Watch.begin ticket now] }
        else scheduler
    | _ => scheduler

def shutdown (scheduler : Scheduler) (mode : ShutdownMode) (now : Instant) : Scheduler :=
  let reason := "Scheduler shut down before the task finished"
  let scheduler := match mode with
    | .wait => scheduler
    | .cancel => scheduler.withBoard (scheduler.board.cancelAll reason now).1
  { scheduler with phase := .closing }

def receive (scheduler : Scheduler) (now : Instant) : Scheduler :=
  match scheduler.inbox with
  | [] => scheduler
  | .dispatch ticket :: inbox => { scheduler with inbox := inbox }.dispatch ticket now
  | .shutdown mode :: _ => { scheduler with inbox := [] }.shutdown mode now

def recordFire (scheduler : Scheduler) (job : String) (task : TaskId) : Scheduler :=
  scheduler.withJobs (scheduler.board.jobs.recordFire job task)

def settleFire (scheduler : Scheduler) (due : DueJob) (id : TaskId) (now : Instant) :
    Except SchedulerError Ticket → Scheduler
  | .ok ticket =>
      let event := (Event.ofJob .jobFired due.id now).withTask id due.request.reference
      ((scheduler.recordFire due.id id).publish event).dispatch ticket now
  | .error (.resolution task _) => scheduler.recordFire due.id task
  | .error _ => scheduler.publish (Event.ofJob .jobMissed due.id now)

def fireJob (scheduler : Scheduler) (due : DueJob) (id : TaskId) (now : Instant) : Scheduler :=
  let (scheduler, result) := scheduler.accept due.request id now
  scheduler.settleFire due id now result

def fireEach (scheduler : Scheduler) (ids : Nat → TaskId) (now : Instant) :
    Nat → List DueJob → Scheduler
  | _, [] => scheduler
  | index, due :: rest => fireEach (scheduler.fireJob due (ids index) now) ids now (index + 1) rest

def fireDue (scheduler : Scheduler) (ids : Nat → TaskId) (now : Instant) : Scheduler :=
  let (jobs, due) := scheduler.board.jobs.takeDue now scheduler.board.isActive
  (scheduler.withJobs jobs).fireEach ids now 0 due

def findWatch (scheduler : Scheduler) (token : Nat) : Option Watch :=
  scheduler.watches.find? fun watch => watch.ticket.token == token

def endWatch (scheduler : Scheduler) (token : Nat) : Scheduler :=
  { scheduler with
    watches := scheduler.watches.filter fun watch => watch.ticket.token != token }

def finish (scheduler : Scheduler) (ticket : Ticket) (state : TaskState) (outcome : Outcome)
    (now : Instant) : Scheduler :=
  scheduler.withBoard (scheduler.board.finish ticket.assignment state outcome now).1

def lost (ticket : Ticket) (now : Instant) : Outcome :=
  .failure (Failure.new "Task ended without producing an outcome"
    ticket.assignment.kind.origin now)

def timedOut (ticket : Ticket) (now : Instant) : Outcome :=
  let limit := ticket.assignment.timeout.getD Span.zero
  .failure (Failure.new ("Task timed out after " ++ limit.text) ticket.assignment.kind.origin now)

def completed (scheduler : Scheduler) (ticket : Ticket) (outcome : Option Outcome)
    (now : Instant) : Scheduler :=
  match outcome with
  | some outcome => scheduler.finish ticket outcome.completion outcome now
  | none =>
      if scheduler.board.tokens.isCancelled ticket.token then scheduler
      else scheduler.finish ticket .failed (lost ticket now) now

def completeWatch (scheduler : Scheduler) (token : Nat) (now : Instant) : Scheduler :=
  match scheduler.findWatch token, scheduler.shop.end? token with
  | some watch, some result =>
      (scheduler.endWatch token).completed watch.ticket result.outcome now
  | _, _ => scheduler

def expireWatch (scheduler : Scheduler) (token : Nat) (now : Instant) : Scheduler :=
  match scheduler.findWatch token with
  | none => scheduler
  | some watch =>
      if watch.isExpired now then
        let finished := (scheduler.endWatch token).finish watch.ticket .timedOut
          (timedOut watch.ticket now) now
        finished.withBoard (finished.board.cancelToken token)
      else scheduler

def releaseWatch (scheduler : Scheduler) (token : Nat) : Scheduler :=
  if scheduler.board.tokens.isCancelled token then scheduler.endWatch token else scheduler

-- The end of a coordinator. Fibers that are still there are dropped.
def close (scheduler : Scheduler) (now : Instant) : Scheduler :=
  if scheduler.phase = .closing ∧ scheduler.watches.isEmpty then
    let closed := { scheduler with
      shop := { scheduler.shop with spawned := [], fibers := [] }
      phase := .off }
    closed.publish (Event.ofScheduler .shutdown now)
  else scheduler

end Scheduler

end Foreman
