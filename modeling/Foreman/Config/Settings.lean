import Foreman.Number.Width
import Foreman.Scheduler.Error

set_option autoImplicit false

namespace Foreman

structure Settings where
  workers : Nat
  defaultTimeoutMs : Option Nat
  queueCapacity : Option Nat
  eventCapacity : Nat
deriving DecidableEq, Repr

namespace Settings

def defaultEventCapacity : Nat := 256

def default : Settings := ⟨0, none, none, defaultEventCapacity⟩

instance : Inhabited Settings := ⟨default⟩

def withWorkers (settings : Settings) (workers : Nat) : Settings :=
  { settings with workers := workers }

def longestMillis : Nat := Number.bound64 - 1

-- Whole milliseconds, rounded up, so that a timeout never becomes zero.
def withDefaultTimeout (settings : Settings) (timeout : Span) : Settings :=
  { settings with defaultTimeoutMs := some (min timeout.millisUp longestMillis) }

def withQueueCapacity (settings : Settings) (capacity : Nat) : Settings :=
  { settings with queueCapacity := some capacity }

def defaultTimeout (settings : Settings) : Option Span :=
  settings.defaultTimeoutMs.map Span.ofMillis

def validate (settings : Settings) : Except SchedulerError Unit :=
  if settings.queueCapacity = some 0 then
    .error (.config "queue_capacity must be greater than 0 when set")
  else if settings.defaultTimeoutMs = some 0 then
    .error (.config "default_timeout_ms must be greater than 0 when set")
  else .ok ()

def toJson (settings : Settings) : Json :=
  .object
    [("default_timeout_ms", Json.ofOption (fun millis : Nat => .int millis)
       settings.defaultTimeoutMs),
     ("event_capacity", .int settings.eventCapacity),
     ("queue_capacity", Json.ofOption (fun capacity : Nat => .int capacity)
       settings.queueCapacity),
     ("worker_pool_size", .int settings.workers)]

def ofMembers (members : List (String × Json)) : Decoded Settings := do
  let timeout := Json.field members "default_timeout_ms" (Json.toNullable Json.toMillis)
  let events := Json.field members "event_capacity" Json.toSize
  let capacity := Json.field members "queue_capacity" (Json.toNullable Json.toSize)
  let workers := Json.field members "worker_pool_size" Json.toSize
  Json.checked timeout
  Json.checked events
  Json.checked capacity
  Json.checked workers
  return {
    workers := ← Json.defaulted 0 workers
    defaultTimeoutMs := ← Json.defaulted none timeout
    queueCapacity := ← Json.defaulted none capacity
    eventCapacity := ← Json.defaulted defaultEventCapacity events }

def ofJson : Json → Decoded Settings
  | .object members => ofMembers members
  | .array items => do
      let workers ← Json.elementOr items 0 0 Json.toSize
      let timeout ← Json.elementOr items 1 none (Json.toNullable Json.toMillis)
      let capacity ← Json.elementOr items 2 none (Json.toNullable Json.toSize)
      let events ← Json.elementOr items 3 defaultEventCapacity Json.toSize
      Json.atMost items 4
      return ⟨workers, timeout, capacity, events⟩
  | other => other.unexpected "struct SchedulerConfig"

end Settings

end Foreman
