import Foreman.Number.Width
import Foreman.Scheduler.Simulation
import Foreman.Task.Probe

/-!
Scenarios: a simulated scheduler that runs the probe tasks, known by labels, with a reader of all
its events from the start. A label that was not given to a task stands for an id that nobody has.
-/

set_option autoImplicit false

namespace Foreman

structure Runs where
  reference : String
  count : Nat
  mean : Span
  lastEnd : Instant

namespace Executions

def runs? (executed : Executions) (reference : String) : Option Runs := do
  let count ← Json.member? reference executed.counts
  let mean ← Json.member? reference executed.means
  let lastEnd ← Json.member? reference executed.lastEnds
  return ⟨reference, count, mean, lastEnd⟩

def map {α : Type} (view : Runs → α) (executed : Executions) : List α :=
  executed.means.filterMap fun (reference, _) => (executed.runs? reference).map view

end Executions

namespace Metrics

def runs? (metrics : Metrics) (reference : String) : Option Runs :=
  metrics.executed.runs? reference

def overview (metrics : Metrics) : Json :=
  .object
    [("executed", membersOf (fun count : Nat => .int count) metrics.executed.counts),
     ("finished", Json.ofMembers (metrics.finished.map fun (state, count) =>
       (state.name, .int count))),
     ("last_run", .array (metrics.executed.lastEnds.map fun (reference, _) => .text reference)),
     ("pending", .int metrics.pending), ("running", .int metrics.running),
     ("submitted", .int metrics.submitted), ("utilization", .float metrics.utilization)]

end Metrics

structure Scenario where
  moment : Moment Simulation
  labels : List (String × TaskId)

namespace Scenario

-- Ids far from those that anybody would write down.
def issued (number : Nat) : TaskId := TaskId.ofNumber (27934 * Number.twoTo 112 + number)

def reader : String := "log"

def new (settings : Settings) (now : Instant) : Except SchedulerError Scenario :=
  (Scheduler.new settings Probe.registry 1).map fun scheduler =>
    let board := scheduler.board
    let scheduler := scheduler.withBoard { board with bus := board.bus.subscribe reader }
    ⟨⟨⟨scheduler, 0⟩, now⟩, []⟩

def scheduler (scenario : Scenario) : Scheduler := scenario.moment.state.scheduler

def board (scenario : Scenario) : Board := scenario.scheduler.board

def now (scenario : Scenario) : Instant := scenario.moment.now

def assign (scenario : Scenario) (label : String) (id : TaskId) : Scenario :=
  { scenario with labels := (label, id) :: scenario.labels }

def isLabelled (scenario : Scenario) (id : TaskId) : Bool :=
  scenario.labels.any fun entry => entry.2 == id

def idOf (scenario : Scenario) (label : String) : Scenario × TaskId :=
  match scenario.labels.find? fun entry => entry.1 == label with
  | some entry => (scenario, entry.2)
  | none =>
      let (moment, id) := Simulation.issue issued scenario.moment
      ({ scenario with moment := moment }.assign label id, id)

def relabel (scenario : Scenario) (shown : String) : String :=
  scenario.labels.foldl (fun shown entry => shown.replace entry.2.text entry.1) shown

def call {α : Type} (scenario : Scenario) (act : Scheduler → Instant → Scheduler × α) :
    Scenario × α :=
  let (moment, result) := Simulation.call issued scenario.moment act
  ({ scenario with moment := moment }, result)

def submit (scenario : Scenario) (label : String) (request : Request) :
    Scenario × Except SchedulerError TaskId :=
  let (moment, id, result) := Simulation.submit issued scenario.moment request
  let scenario := { scenario with moment := moment }
  match result with
  | .ok id => (scenario.assign label id, .ok id)
  | .error (.resolution _ cause) => (scenario.assign label id, .error (.resolution id cause))
  | .error error => (scenario, .error error)

def stop (scenario : Scenario) (mode : ShutdownMode) : Scenario × Except SchedulerError Unit :=
  let (moment, result) := Simulation.stop issued scenario.moment mode
  ({ scenario with moment := moment }, result)

def await (scenario : Scenario) (id : TaskId) (limit : Option Span) :
    Scenario × Except SchedulerError Outcome :=
  let (moment, result) := Simulation.await issued scenario.moment id limit
  ({ scenario with moment := moment }, result)

def sleep (scenario : Scenario) (span : Span) : Scenario :=
  { scenario with moment := Simulation.sleep issued scenario.moment span }

def reach (scenario : Scenario) (goal : Scheduler → Bool) : Scenario × Bool :=
  let (moment, reached) := Simulation.runUntil issued goal none scenario.moment
  ({ scenario with moment := moment }, reached)

def reachState (scenario : Scenario) (id : TaskId) (state : TaskState) : Scenario × Bool :=
  scenario.reach fun scheduler =>
    (scheduler.board.store.find? id).any fun record => record.state == state

def reachEntered (scenario : Scenario) (gate : String) (count : Nat) : Scenario × Bool :=
  scenario.reach fun scheduler => decide (count ≤ (scheduler.shop.gates.find gate).entered)

def reachFires (scenario : Scenario) (job : String) (count : Nat) : Scenario × Bool :=
  scenario.reach fun scheduler =>
    (scheduler.board.jobs.find? job).any fun job => decide (count ≤ job.fireCount)

def labelLast (scenario : Scenario) (job label : String) : Scenario × Bool :=
  match (scenario.board.jobs.find? job).bind Job.lastTask with
  | none => (scenario, false)
  | some task =>
      if scenario.isLabelled task then (scenario, false) else (scenario.assign label task, true)

def receive (scenario : Scenario) : Scenario × List Delivery :=
  scenario.call fun scheduler _ =>
    let (items, bus) := scheduler.board.bus.receive reader
    (scheduler.withBoard { scheduler.board with bus := bus }, items)

def withStore (scenario : Scenario) (store : Store) : Scenario :=
  (scenario.call fun scheduler _ =>
    (scheduler.withBoard { scheduler.board with store := store }, ())).1

end Scenario

end Foreman
