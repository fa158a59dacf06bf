import Foreman.Config.Settings
import Foreman.Number.Width
import Foreman.Text.Blank
import Foreman.Text.Case
import Foreman.Text.Log

set_option autoImplicit false

namespace Foreman

inductive EnvironmentError where
  | invalidValue (key value : String)
  | logging (reason : String)
deriving DecidableEq, Repr, Inhabited

def EnvironmentError.kind : EnvironmentError → String
  | .invalidValue _ _ => "InvalidValue"
  | .logging _ => "Logging"

def EnvironmentError.message : EnvironmentError → String
  | .invalidValue key value => "Invalid value for " ++ key ++ ": " ++ value
  | .logging reason => "Logging init failed: " ++ reason

inductive LogFormat where
  | text
  | json
deriving DecidableEq, Repr, Inhabited

namespace LogFormat

def name : LogFormat → String
  | .text => "text"
  | .json => "json"

def label : LogFormat → String
  | .text => "Text"
  | .json => "Json"

def names : List (String × LogFormat) :=
  [LogFormat.text, .json].map fun format => (format.name, format)

def parse (raw : String) : Except EnvironmentError LogFormat :=
  match Text.lowerAscii raw with
  | "text" => .ok .text
  | "pretty" => .ok .text
  | "json" => .ok .json
  | other => .error (.invalidValue "LOG_FORMAT" other)

def toJson (format : LogFormat) : Json :=
  .object [("format", .text format.name)]

def ofJson : Json → Decoded LogFormat
  | .object members =>
      Json.required "format" (Json.field members "format" (Json.toName names))
  | .array items => do
      let format ← Json.element items 0 "struct LogConfig with 1 element" (Json.toName names)
      Json.atMost items 1
      return format
  | other => other.unexpected "struct LogConfig"

end LogFormat

structure GivenSettings where
  workers : Nat
  defaultTimeoutMs : Option Nat
  queueCapacity : Option Nat
  eventCapacity : Option Nat
deriving DecidableEq, Repr, Inhabited

structure Environment where
  profile : String
  scheduler : GivenSettings
  log : LogFormat
deriving DecidableEq, Repr, Inhabited

abbrev Lookup := String → Option String

namespace Environment

def present (lookup : Lookup) (key : String) : Option String :=
  (lookup key).filter fun value => !value.isEmpty

def effective (lookup : Lookup) (profile key : String) : Option String :=
  if profile.isEmpty then present lookup key
  else (present lookup (profile ++ "_" ++ key)).or (present lookup key)

def number (lookup : Lookup) (profile key : String) : Except EnvironmentError (Option Nat) :=
  match effective lookup profile key with
  | none => .ok none
  | some raw =>
      match Number.readBelow Number.bound64 (Text.trimmed raw.toList) with
      | some value => .ok (some value)
      | none => .error (.invalidValue key raw)

def logFormat (lookup : Lookup) (profile : String) : Except EnvironmentError LogFormat :=
  match effective lookup profile "LOG_FORMAT" with
  | none => .ok .text
  | some raw => LogFormat.parse raw

def ofLookup (profile : String) (lookup : Lookup) : Except EnvironmentError Environment := do
  let profile := Text.upper profile
  let workers ← number lookup profile "SCHEDULER_WORKER_POOL_SIZE"
  let timeout ← number lookup profile "SCHEDULER_DEFAULT_TIMEOUT_MS"
  let capacity ← number lookup profile "SCHEDULER_QUEUE_CAPACITY"
  let events ← number lookup profile "SCHEDULER_EVENT_CAPACITY"
  let log ← logFormat lookup profile
  return ⟨profile, ⟨workers.getD 0, timeout, capacity, events⟩, log⟩

def ofVariables (lookup : Lookup) : Except EnvironmentError Environment :=
  ofLookup ((present lookup "TASKHUB_PROFILE").getD "") lookup

def label (environment : Environment) : String :=
  if environment.profile.isEmpty then "default" else environment.profile

def shown (value : Option Nat) (absent : String) : String :=
  match value with
  | some value => Number.natText value
  | none => absent

def messages (environment : Environment) : List String :=
  let scheduler := environment.scheduler
  ["Config loaded (profile: " ++ environment.label ++ "):",
   "  scheduler:   workers=" ++ Number.natText scheduler.workers ++ ", default_timeout_ms=" ++
     shown scheduler.defaultTimeoutMs "(none)" ++ ", queue_capacity=" ++
     shown scheduler.queueCapacity "(unbounded)",
   "  log:         format=" ++ environment.log.label]

def summary (environment : Environment) : List String :=
  environment.messages.flatMap Text.logLines

end Environment

namespace GivenSettings

def settings (given : GivenSettings) : Settings :=
  ⟨given.workers, given.defaultTimeoutMs, given.queueCapacity,
   given.eventCapacity.getD Settings.defaultEventCapacity⟩

def number (value : Option Nat) : Json :=
  Json.ofOption (fun value : Nat => .int value) value

def toJson (given : GivenSettings) : Json :=
  .object
    [("default_timeout_ms", number given.defaultTimeoutMs),
     ("event_capacity", number given.eventCapacity),
     ("queue_capacity", number given.queueCapacity),
     ("worker_pool_size", .int given.workers)]

def ofJson : Json → Decoded GivenSettings
  | .object members => do
      let timeout := Json.field members "default_timeout_ms" (Json.toNullable Json.toMillis)
      let events := Json.field members "event_capacity" (Json.toNullable Json.toSize)
      let capacity := Json.field members "queue_capacity" (Json.toNullable Json.toSize)
      let workers := Json.field members "worker_pool_size" Json.toSize
      Json.checked timeout
      Json.checked events
      Json.checked capacity
      Json.checked workers
      return {
        workers := ← Json.required "worker_pool_size" workers
        defaultTimeoutMs := ← Json.defaulted none timeout
        queueCapacity := ← Json.defaulted none capacity
        eventCapacity := ← Json.defaulted none events }
  | .array items => do
      let expected := "struct SchedulerSettings with 4 elements"
      let workers ← Json.element items 0 expected Json.toSize
      let timeout ← Json.element items 1 expected (Json.toNullable Json.toMillis)
      let capacity ← Json.element items 2 expected (Json.toNullable Json.toSize)
      let events ← Json.element items 3 expected (Json.toNullable Json.toSize)
      Json.atMost items 4
      return ⟨workers, timeout, capacity, events⟩
  | other => other.unexpected "struct SchedulerSettings"

end GivenSettings

namespace Environment

def toJson (environment : Environment) : Json :=
  .object
    [("log", environment.log.toJson), ("profile", .text environment.profile),
     ("scheduler", environment.scheduler.toJson)]

def ofJson : Json → Decoded Environment
  | .object members => do
      let log := Json.field members "log" LogFormat.ofJson
      let profile := Json.field members "profile" Json.toText
      let scheduler := Json.field members "scheduler" GivenSettings.ofJson
      Json.checked log
      Json.checked profile
      Json.checked scheduler
      return {
        profile := ← Json.required "profile" profile
        scheduler := ← Json.required "scheduler" scheduler
        log := ← Json.required "log" log }
  | .array items => do
      let expected := "struct Config with 3 elements"
      let profile ← Json.element items 0 expected Json.toText
      let scheduler ← Json.element items 1 expected GivenSettings.ofJson
      let log ← Json.element items 2 expected LogFormat.ofJson
      Json.atMost items 3
      return ⟨profile, scheduler, log⟩
  | other => other.unexpected "struct Config"

end Environment

end Foreman
