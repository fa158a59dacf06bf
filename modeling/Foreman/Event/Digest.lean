import Foreman.Event

set_option autoImplicit false

namespace Foreman

namespace Event

def brief (event : Event) : Json :=
  match event.job with
  | none => .object [("kind", .text event.kind.name)]
  | some job => .object
      [("job", .text job), ("kind", .text event.kind.name),
       ("reference", Json.ofOption Json.text event.reference),
       ("task", Json.ofOption TaskId.toJson event.task)]

def taskBrief (event : Event) : Json :=
  .object
    [("kind", .text event.kind.name), ("outcome", Json.ofOption Outcome.toJson event.outcome),
     ("reference", Json.ofOption Json.text event.reference)]

def about (task : TaskId) (events : List Event) : List Event :=
  events.filter fun event => event.subject == some task

end Event

namespace Delivery

def event? : Delivery → Option Event
  | .event published => some published
  | _ => none

def isCancellation : Delivery → Bool
  | .event published => published.kind == .taskCancelled
  | _ => false

def task : Delivery → Option TaskId
  | .event published => published.task
  | _ => none

def before (a b : Delivery) : Bool :=
  match a.task, b.task with
  | some task, some other => task.before other
  | some _, none => true
  | none, _ => false

def place (item : Delivery) : List Delivery → List Delivery
  | [] => [item]
  | other :: rest =>
      if item.isCancellation && other.isCancellation && other.before item then
        other :: place item rest
      else item :: other :: rest

-- Cancellations that follow one another have no order of their own; here they are put in that of
-- the tasks.
def arranged (items : List Delivery) : List Delivery :=
  items.foldr place []

def digest (items : List Delivery) : Json :=
  let events := items.filterMap event?
  let tasks := (events.filterMap Event.subject).eraseDups.map fun task =>
    (task.text, Json.array ((Event.about task events).map Event.taskBrief))
  let others := events.filter fun event => event.subject.isNone
  .object
    [("lagged", .bool (items.length != events.length)),
     ("scheduler", .array (others.map Event.brief)), ("tasks", Json.ofMembers tasks)]

end Delivery

end Foreman
