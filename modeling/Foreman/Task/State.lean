import Foreman.Json.Decode

set_option autoImplicit false

namespace Foreman

inductive Kind where
  | sync
  | async
deriving DecidableEq, Repr, Inhabited

inductive TaskState where
  | pending
  | running
  | succeeded
  | failed
  | timedOut
  | cancelled
deriving DecidableEq, Repr, Inhabited

-- A failure of the resolver means that the task never ran.
inductive Origin where
  | sync
  | async
  | resolver
deriving DecidableEq, Repr, Inhabited

namespace Kind

def name : Kind → String
  | .sync => "sync"
  | .async => "async"

def names : List (String × Kind) :=
  [.sync, .async].map fun kind => (kind.name, kind)

def origin : Kind → Origin
  | .sync => .sync
  | .async => .async

def toJson (kind : Kind) : Json := .text kind.name

def ofJson : Json → Decoded Kind := Json.toName names

end Kind

namespace TaskState

def name : TaskState → String
  | .pending => "PENDING"
  | .running => "RUNNING"
  | .succeeded => "SUCCEEDED"
  | .failed => "FAILED"
  | .timedOut => "TIMED_OUT"
  | .cancelled => "CANCELLED"

def all : List TaskState :=
  [.pending, .running, .succeeded, .failed, .timedOut, .cancelled]

def names : List (String × TaskState) :=
  all.map fun state => (state.name, state)

def isTerminal : TaskState → Bool
  | .pending => false
  | .running => false
  | _ => true

def active : List TaskState := [.pending, .running]

def toJson (state : TaskState) : Json := .text state.name

def ofJson : Json → Decoded TaskState := Json.toName names

end TaskState

namespace Origin

def name : Origin → String
  | .sync => "sync"
  | .async => "async"
  | .resolver => "resolver"

def names : List (String × Origin) :=
  [.sync, .async, .resolver].map fun origin => (origin.name, origin)

def toJson (origin : Origin) : Json := .text origin.name

def ofJson : Json → Decoded Origin := Json.toName names

end Origin

end Foreman
