import Foreman.Scheduler.Submission

set_option autoImplicit false

namespace Foreman

def JobDefinition.validate (definition : JobDefinition) : Except SchedulerError Unit :=
  if Text.allBlank definition.id then .error (.invalidArgument "job id must not be empty")
  else
    match definition.request.validate with
    | .error error => .error error
    | .ok () =>
        match Reference.parse definition.request.reference with
        | .error cause => .error (.invalidArgument cause.message)
        | .ok _ => .ok ()

namespace Scheduler

def addJob (scheduler : Scheduler) (definition : JobDefinition) (now : Instant) :
    Scheduler × Except SchedulerError (Option Instant) :=
  match definition.validate with
  | .error error => (scheduler, .error error)
  | .ok () =>
      let (jobs, existed, next) := scheduler.board.jobs.upsert definition now
      let kind := if existed then EventKind.jobUpdated else .jobAdded
      ((scheduler.withJobs jobs).publish (Event.ofJob kind definition.id now), .ok next)

def removeJob (scheduler : Scheduler) (id : String) (now : Instant) :
    Scheduler × Except SchedulerError Job :=
  match scheduler.board.jobs.remove id with
  | (_, none) => (scheduler, .error (.jobNotFound id))
  | (jobs, some job) =>
      ((scheduler.withJobs jobs).publish (Event.ofJob .jobRemoved id now), .ok job)

def setJobEnabled (scheduler : Scheduler) (id : String) (enabled : Bool) (now : Instant) :
    Scheduler × Except SchedulerError Job :=
  match scheduler.board.jobs.setEnabled id enabled now with
  | (_, none) => (scheduler, .error (.jobNotFound id))
  | (jobs, some job) =>
      ((scheduler.withJobs jobs).publish (Event.ofJob .jobUpdated id now), .ok job)

def job (scheduler : Scheduler) (id : String) : Except SchedulerError Job :=
  match scheduler.board.jobs.find? id with
  | none => .error (.jobNotFound id)
  | some job => .ok job

end Scheduler

end Foreman
