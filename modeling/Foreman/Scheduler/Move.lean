import Foreman.Scheduler.Coordinator
import Foreman.Workshop.Deed

set_option autoImplicit false

namespace Foreman

inductive Move where
  | start
  | stop (mode : ShutdownMode)
  | submit (request : Request) (id : TaskId)
  | cancel (id : TaskId)
  | evict (id : TaskId)
  | addJob (definition : JobDefinition)
  | removeJob (id : String)
  | setJobEnabled (id : String) (enabled : Bool)
  | receive
  | fireDue (ids : Nat → TaskId)
  | completeWatch (token : Nat)
  | expireWatch (token : Nat)
  | releaseWatch (token : Nat)
  | close
  | work (deed : Deed)
  | permit (gate : String) (count : Nat)

namespace Scheduler

def isListening (scheduler : Scheduler) : Bool :=
  scheduler.phase == .on && !scheduler.shop.isHeld

def isWatching (scheduler : Scheduler) : Bool :=
  scheduler.phase != .off && !scheduler.shop.isHeld

def permit (scheduler : Scheduler) (gate : String) (count : Nat) : Scheduler :=
  { scheduler with
    shop := { scheduler.shop with gates := scheduler.shop.gates.permit gate count } }

-- Without a coordinator no fiber moves, but workers do.
def performDeed (scheduler : Scheduler) (now : Instant) (deed : Deed) : Scheduler :=
  { scheduler with shop := scheduler.shop.perform now deed }

def perform (scheduler : Scheduler) (now : Instant) : Move → Scheduler
  | .start => (scheduler.start now).1
  | .stop mode => (scheduler.stop mode).1
  | .submit request id => (scheduler.submit request id now).1
  | .cancel id => (scheduler.cancel id now).1
  | .evict id => (scheduler.evict id).1
  | .addJob definition => (scheduler.addJob definition now).1
  | .removeJob id => (scheduler.removeJob id now).1
  | .setJobEnabled id enabled => (scheduler.setJobEnabled id enabled now).1
  | .receive => if scheduler.isListening then scheduler.receive now else scheduler
  | .fireDue ids => if scheduler.isListening then scheduler.fireDue ids now else scheduler
  | .completeWatch token =>
      if scheduler.isWatching then scheduler.completeWatch token now else scheduler
  | .expireWatch token =>
      if scheduler.isWatching then scheduler.expireWatch token now else scheduler
  | .releaseWatch token =>
      if scheduler.isWatching then scheduler.releaseWatch token else scheduler
  | .close => if scheduler.isWatching then scheduler.close now else scheduler
  | .work deed => scheduler.performDeed now deed
  | .permit gate count => scheduler.permit gate count

def run (scheduler : Scheduler) (history : List (Instant × Move)) : Scheduler :=
  history.foldl (fun scheduler entry => scheduler.perform entry.1 entry.2) scheduler

end Scheduler

end Foreman
