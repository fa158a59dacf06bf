import Foreman.Reference
import Foreman.Store
import Foreman.Trigger.Error

set_option autoImplicit false

namespace Foreman

inductive SchedulerError where
  | invalidArgument (reason : String)
  | notFound (id : TaskId)
  | jobNotFound (job : String)
  | trigger (cause : TriggerError)
  | notReady (id : TaskId) (state : TaskState)
  | resolution (id : TaskId) (cause : ResolutionError)
  | queueFull (capacity : Nat)
  | notRunning
  | alreadyRunning
  | waitTimeout (id : TaskId) (waited : Span)
  | config (reason : String)
  | store (cause : StoreError)
  | startFailed (reason : String)
deriving DecidableEq, Inhabited

namespace SchedulerError

def kind : SchedulerError → String
  | invalidArgument _ => "InvalidArgument"
  | notFound _ => "NotFound"
  | jobNotFound _ => "JobNotFound"
  | trigger _ => "Trigger"
  | notReady _ _ => "NotReady"
  | resolution _ _ => "Resolution"
  | queueFull _ => "QueueFull"
  | notRunning => "NotRunning"
  | alreadyRunning => "AlreadyRunning"
  | waitTimeout _ _ => "WaitTimeout"
  | config _ => "Config"
  | store _ => "Store"
  | startFailed _ => "StartFailed"

def message : SchedulerError → String
  | invalidArgument reason => "Invalid argument: " ++ reason
  | notFound id => "Task not found: " ++ id.text
  | jobNotFound job => "Job not found: " ++ job
  | trigger cause => "Invalid trigger: " ++ cause.message
  | notReady id state =>
      "Task " ++ id.text ++ " has not finished yet (state: " ++ state.name ++ ")"
  | resolution id cause => "Task " ++ id.text ++ " could not be resolved: " ++ cause.message
  | queueFull capacity => "Scheduler queue is full (capacity " ++ Number.natText capacity ++ ")"
  | notRunning => "Scheduler not running"
  | alreadyRunning => "Scheduler already running"
  | waitTimeout id waited => "Gave up waiting for task " ++ id.text ++ " after " ++ waited.text
  | config reason => "Config error: " ++ reason
  | store cause => "Store error: " ++ cause.message
  | startFailed reason => "Failed to start scheduler: " ++ reason

def source? : SchedulerError → Option String
  | trigger cause => some cause.message
  | resolution _ cause => some cause.message
  | store cause => some cause.message
  | _ => none

end SchedulerError

end Foreman
