import Foreman.Board.Calls
import Foreman.Config.Settings
import Foreman.Registry
import Foreman.Workshop.Basic

set_option autoImplicit false

namespace Foreman

inductive ShutdownMode where
  | wait
  | cancel
deriving DecidableEq, Repr, Inhabited

inductive Command where
  | dispatch (ticket : Ticket)
  | shutdown (mode : ShutdownMode)
deriving Inhabited

-- A closing coordinator only waits for its watches to end.
inductive Phase where
  | off
  | on
  | closing
deriving DecidableEq, Repr, Inhabited

structure Watch where
  ticket : Ticket
  deadline : Option Instant
deriving Inhabited

structure Scheduler where
  settings : Settings
  cores : Nat
  registry : Registry Callable
  cache : ResolverCache Callable
  shop : Workshop
  isOpen : Bool
  phase : Phase
  inbox : List Command
  watches : List Watch
deriving Inhabited

namespace Scheduler

def new (settings : Settings) (registry : Registry Callable) (cores : Nat) :
    Except SchedulerError Scheduler :=
  match settings.validate with
  | .error error => .error error
  | .ok () => .ok {
      settings := settings
      cores := cores
      registry := registry
      cache := ResolverCache.empty
      shop := Workshop.ofBoard (Board.empty settings.eventCapacity)
      isOpen := false
      phase := .off
      inbox := []
      watches := [] }

def board (scheduler : Scheduler) : Board := scheduler.shop.board

def withBoard (scheduler : Scheduler) (board : Board) : Scheduler :=
  { scheduler with shop := { scheduler.shop with board := board } }

def withJobs (scheduler : Scheduler) (jobs : JobTable) : Scheduler :=
  scheduler.withBoard { scheduler.board with jobs := jobs }

def publish (scheduler : Scheduler) (event : Event) : Scheduler :=
  scheduler.withBoard (scheduler.board.publish event)

def poolSize (scheduler : Scheduler) : Nat :=
  if scheduler.settings.workers = 0 then max scheduler.cores 1 else scheduler.settings.workers

-- There is one coordinator at a time: no history starts a second one beside a first one that is no
-- longer open but still waits for its tasks.
def start (scheduler : Scheduler) (now : Instant) : Scheduler × Except SchedulerError Unit :=
  if scheduler.isOpen || scheduler.phase != .off then (scheduler, .error .alreadyRunning)
  else
    let pools := scheduler.shop.pools ++ [Pool.ofSize scheduler.poolSize scheduler.cores]
    let started := { scheduler with
      shop := { scheduler.shop with pools := pools }
      isOpen := true
      phase := .on
      inbox := [] }
    (started.publish (Event.ofScheduler .startup now), .ok ())

def stop (scheduler : Scheduler) (mode : ShutdownMode) : Scheduler × Except SchedulerError Unit :=
  if scheduler.isOpen then
    ({ scheduler with
       isOpen := false
       inbox := scheduler.inbox ++ [.shutdown mode] }, .ok ())
  else (scheduler, .error .notRunning)

def abandon (scheduler : Scheduler) : Scheduler :=
  (scheduler.stop .cancel).1

end Scheduler

end Foreman
