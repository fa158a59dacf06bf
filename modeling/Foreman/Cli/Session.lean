import Foreman.Scheduler.Move

set_option autoImplicit false

namespace Foreman.Cli

-- The task of an answer. There is one as well if its reference did not resolve.
def taskOf? : Except SchedulerError TaskId → Option TaskId
  | .ok id => some id
  | .error (.resolution id _) => some id
  | .error _ => none

def refusal? : Except SchedulerError TaskId → Option SchedulerError
  | .ok _ => none
  | .error (.resolution _ _) => none
  | .error error => some error

inductive Stage where
  | submitting (requests : List Request)
  | waiting (ids : List TaskId)
  | stopping
  | printing (ids : List TaskId)
  | ended (failure : Option SchedulerError)

structure Session where
  scheduler : Scheduler
  answers : List (Except SchedulerError TaskId)
  records : List TaskRecord
  stage : Stage

namespace Session

def ids (session : Session) : List TaskId := session.answers.filterMap taskOf?

def begin (scheduler : Scheduler) (requests : List Request) (now : Instant) : Session :=
  match scheduler.start now with
  | (scheduler, .ok ()) => ⟨scheduler, [], [], .submitting requests⟩
  | (scheduler, .error error) => ⟨scheduler, [], [], .ended (some error)⟩

def submit (session : Session) (request : Request) (rest : List Request) (id : TaskId)
    (now : Instant) : Session :=
  let (scheduler, answer) := session.scheduler.submit request id now
  { session with
    scheduler := scheduler
    answers := session.answers ++ [answer]
    stage := match refusal? answer with
      | none => .submitting rest
      | some error => .ended (some error) }

def look (session : Session) (id : TaskId) (rest : List TaskId) : Session :=
  match session.scheduler.board.look id with
  | .ok none => session
  | .ok (some _) => { session with stage := .waiting rest }
  | .error error => { session with stage := .ended (some error) }

def stop (session : Session) : Session :=
  match session.scheduler.stop .cancel with
  | (scheduler, .ok ()) => { session with scheduler := scheduler, stage := .stopping }
  | (scheduler, .error error) => { session with scheduler := scheduler, stage := .ended (some error) }

def print (session : Session) (id : TaskId) (rest : List TaskId) : Session :=
  match session.scheduler.board.record id with
  | .ok record => { session with records := session.records ++ [record], stage := .printing rest }
  | .error error => { session with stage := .ended (some error) }

end Session

end Foreman.Cli
