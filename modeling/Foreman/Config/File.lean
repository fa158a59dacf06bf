import Foreman.Config.Settings
import Foreman.Toml.Reader

set_option autoImplicit false

namespace Foreman.Settings

def syntaxError : SchedulerError :=
  .config "TOML parse error"

def count (members : Toml.Members) (name : String) : Except SchedulerError (Option Nat) :=
  match Toml.find? name members with
  | none => .ok none
  | some (.int value) => if value < 0 then .error syntaxError else .ok (some value.toNat)
  | some _ => .error syntaxError

def ofToml (members : Toml.Members) : Except SchedulerError Settings := do
  let workers ← count members "worker_pool_size"
  let timeout ← count members "default_timeout_ms"
  let capacity ← count members "queue_capacity"
  let events ← count members "event_capacity"
  return ⟨workers.getD 0, timeout, capacity, events.getD defaultEventCapacity⟩

def ofDocument (document : String) : Except SchedulerError Settings := do
  match Toml.read document with
  | none => .error syntaxError
  | some members => do
      let settings ← ofToml members
      settings.validate
      return settings

inductive FileContent where
  | content (document : String)
  | failed (reason : String)

def ofFile (path : String) : FileContent → Except SchedulerError Settings
  | .content document => ofDocument document
  | .failed reason => .error (.config (path ++ ": " ++ reason))

end Foreman.Settings
