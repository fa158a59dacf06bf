import Foreman.Scheduler.Basic

set_option autoImplicit false

namespace Foreman

def Request.validate (request : Request) : Except SchedulerError Unit :=
  if Text.allBlank request.reference then
    .error (.invalidArgument "task reference must not be empty")
  else if request.timeout = some Span.zero then
    .error (.invalidArgument "timeout must be greater than zero")
  else .ok ()

namespace Scheduler

def accept (scheduler : Scheduler) (request : Request) (id : TaskId) (now : Instant) :
    Scheduler × Except SchedulerError Ticket :=
  let (cache, resolved) := scheduler.cache.resolve scheduler.registry.resolve request.reference
  let scheduler := { scheduler with cache := cache }
  match resolved with
  | .error cause =>
      match scheduler.board.reject id request.reference cause now with
      | (board, .error error) => (scheduler.withBoard board, .error error)
      | (board, .ok ()) => (scheduler.withBoard board, .error (.resolution id cause))
  | .ok callable =>
      let request := request.orTimeout scheduler.settings.defaultTimeout
      let (shop, result) :=
        scheduler.shop.enroll request id callable scheduler.settings.queueCapacity now
      ({ scheduler with shop := shop }, result)

def submit (scheduler : Scheduler) (request : Request) (id : TaskId) (now : Instant) :
    Scheduler × Except SchedulerError TaskId :=
  match request.validate with
  | .error error => (scheduler, .error error)
  | .ok () =>
      if scheduler.isOpen then
        match scheduler.accept request id now with
        | (scheduler, .error error) => (scheduler, .error error)
        | (scheduler, .ok ticket) =>
            ({ scheduler with inbox := scheduler.inbox ++ [.dispatch ticket] }, .ok id)
      else (scheduler, .error .notRunning)

def cancel (scheduler : Scheduler) (id : TaskId) (now : Instant) :
    Scheduler × Except SchedulerError Bool :=
  let (board, result) := scheduler.board.cancel id now
  (scheduler.withBoard board, result)

def evict (scheduler : Scheduler) (id : TaskId) : Scheduler × Except SchedulerError TaskRecord :=
  let (board, result) := scheduler.board.evict id
  (scheduler.withBoard board, result)

end Scheduler

end Foreman
