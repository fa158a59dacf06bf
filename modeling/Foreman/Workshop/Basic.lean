import Foreman.Board
import Foreman.Workshop.Activity

set_option autoImplicit false

namespace Foreman

structure Pool where
  size : Nat
  workers : Nat
  busy : Nat
  waiting : List Ticket
  working : List Activity
deriving Inhabited

-- The end of a ticket. There is no outcome if it was skipped or unwound.
structure End where
  token : Nat
  outcome : Option Outcome
  time : Instant
deriving Inhabited

/-- Pools are never closed; the last one is the one in use. -/
structure Workshop where
  board : Board
  gates : Gates
  called : List Assignment
  pools : List Pool
  spawned : List Ticket
  fibers : List Activity
  ended : List End
deriving Inhabited

namespace Activity

def put (activity : Activity) (activities : List Activity) : List Activity :=
  activities.map fun other => if other.token = activity.token then activity else other

def drop (token : Nat) (activities : List Activity) : List Activity :=
  activities.filter fun activity => activity.token != token

def find? (token : Nat) (activities : List Activity) : Option Activity :=
  activities.find? fun activity => activity.token == token

end Activity

namespace Pool

def ofSize (size cores : Nat) : Pool :=
  ⟨size, if size = 0 then max cores 1 else size, 0, [], []⟩

def add (pool : Pool) (ticket : Ticket) : Pool :=
  { pool with waiting := pool.waiting ++ [ticket] }

def hasFreeWorker (pool : Pool) : Bool :=
  decide (pool.working.length < pool.workers)

def next? (pool : Pool) : Option (Ticket × Pool) :=
  match pool.waiting with
  | [] => none
  | ticket :: waiting =>
      if pool.hasFreeWorker then some (ticket, { pool with waiting := waiting }) else none

def employ (pool : Pool) (activity : Activity) : Pool :=
  { pool with busy := pool.busy + 1, working := pool.working ++ [activity] }

def update (pool : Pool) (activity : Activity) : Pool :=
  { pool with working := activity.put pool.working }

def discharge (pool : Pool) (token : Nat) : Pool :=
  { pool with busy := pool.busy - 1, working := Activity.drop token pool.working }

end Pool

namespace Workshop

def ofBoard (board : Board) : Workshop := ⟨board, [], [], [], [], [], []⟩

def setPool (shop : Workshop) (index : Nat) (pool : Pool) : Workshop :=
  { shop with pools := shop.pools.set index pool }

def enroll (shop : Workshop) (request : Request) (id : TaskId) (callable : Callable)
    (capacity : Option Nat) (now : Instant) : Workshop × Except SchedulerError Ticket :=
  let assignment := Assignment.ofRequest request id callable.kind now
  match shop.board.enroll assignment capacity now with
  | (board, .error error) => ({ shop with board := board }, .error error)
  | (board, .ok token) => ({ shop with board := board }, .ok ⟨assignment, callable, token⟩)

def queue (ticket : Ticket) : List Pool → List Pool
  | [] => []
  | [pool] => [pool.add ticket]
  | pool :: rest => pool :: queue ticket rest

def hand (shop : Workshop) (ticket : Ticket) : Workshop :=
  match ticket.assignment.kind with
  | .sync => { shop with pools := queue ticket shop.pools }
  | .async => { shop with spawned := shop.spawned ++ [ticket] }

def showBusy (shop : Workshop) (pool : Pool) : Workshop :=
  { shop with board := shop.board.setUtilization pool.busy pool.size }

def report (shop : Workshop) (token : Nat) (outcome : Option Outcome) (now : Instant) : Workshop :=
  { shop with ended := shop.ended ++ [⟨token, outcome, now⟩] }

def end? (shop : Workshop) (token : Nat) : Option End :=
  shop.ended.find? fun entry => entry.token == token

def calls (shop : Workshop) (reference : String) : Nat :=
  shop.called.countP fun assignment => assignment.reference == reference

def claim (shop : Workshop) (ticket : Ticket) (now : Instant) : Workshop × Bool :=
  if shop.board.tokens.isCancelled ticket.token then (shop, false)
  else
    let (board, won) := shop.board.markRunning ticket.assignment now
    ({ shop with board := board }, won)

def call (shop : Workshop) (ticket : Ticket) : Workshop × Activity :=
  let assignment := ticket.assignment
  let shop := { shop with called := shop.called ++ [assignment] }
  let process := ticket.callable.body (shop.calls assignment.reference) assignment.arguments
  (shop, ⟨ticket, process, .turn⟩)

def take (shop : Workshop) (index : Nat) (now : Instant) : Workshop :=
  match shop.pools[index]?.bind Pool.next? with
  | none => shop
  | some (ticket, pool) =>
      let (shop, won) := (shop.setPool index pool).claim ticket now
      if won then
        let (shop, activity) := shop.call ticket
        let pool := pool.employ activity
        (shop.setPool index pool).showBusy pool
      else shop.report ticket.token none now

def conclude (shop : Workshop) (index : Nat) (pool : Pool) (token : Nat) (ending : Ending)
    (now : Instant) : Workshop :=
  let pool := pool.discharge token
  ((shop.setPool index pool).showBusy pool).report token (some (ending.outcome .sync now)) now

def work (shop : Workshop) (index token : Nat) (now : Instant) : Workshop :=
  match shop.pools[index]? with
  | none => shop
  | some pool =>
      match Activity.find? token pool.working with
      | none => shop
      | some activity =>
          match activity.resume shop.gates now with
          | none => shop
          | some (gates, .ended ending) =>
              { shop with gates := gates }.conclude index pool token ending now
          | some (gates, .waits process wait) =>
              let activity := { activity with process := process, wait := wait }
              { shop with gates := gates }.setPool index (pool.update activity)

def isHeld (shop : Workshop) : Bool :=
  shop.fibers.any Activity.isHolding

def launch (shop : Workshop) (now : Instant) : Workshop :=
  match shop.spawned with
  | [] => shop
  | ticket :: spawned =>
      let (shop, won) := { shop with spawned := spawned }.claim ticket now
      if won then
        let (shop, activity) := shop.call ticket
        { shop with fibers := shop.fibers ++ [activity] }
      else shop.report ticket.token none now

def unwind (shop : Workshop) (token : Nat) (outcome : Option Outcome) (now : Instant) : Workshop :=
  { shop with fibers := Activity.drop token shop.fibers }.report token outcome now

-- A turn of a fiber. A cancelled fiber is unwound instead, except where it holds the thread.
def poll (shop : Workshop) (token : Nat) (now : Instant) : Workshop :=
  match Activity.find? token shop.fibers with
  | none => shop
  | some activity =>
      if shop.board.tokens.isCancelled token && !activity.isHolding then shop.unwind token none now
      else
        match activity.resume shop.gates now with
        | none => shop
        | some (gates, .ended ending) =>
            { shop with gates := gates }.unwind token (some (ending.outcome .async now)) now
        | some (gates, .waits process wait) =>
            let activity := { activity with process := process, wait := wait }
            { shop with gates := gates, fibers := activity.put shop.fibers }

end Workshop

end Foreman
