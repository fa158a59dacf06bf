import Foreman.Task.Arguments
import Foreman.Task.State
import Foreman.TaskId
import Foreman.Time.Codec

set_option autoImplicit false

namespace Foreman

structure Request where
  reference : String
  arguments : Arguments
  timeout : Option Span
deriving Inhabited

namespace Request

def new (reference : String) : Request :=
  ⟨reference, Arguments.none, none⟩

def arg (request : Request) (value : Json) : Request :=
  { request with
    arguments := ⟨request.arguments.positional ++ [value], request.arguments.named⟩ }

def args (request : Request) (values : List Json) : Request :=
  { request with arguments := ⟨values, request.arguments.named⟩ }

def kwarg (request : Request) (name : String) (value : Json) : Request :=
  { request with
    arguments := ⟨request.arguments.positional, Json.put name value request.arguments.named⟩ }

def kwargs (request : Request) (members : List (String × Json)) : Request :=
  { request with arguments := ⟨request.arguments.positional, members⟩ }

def withTimeout (request : Request) (timeout : Span) : Request :=
  { request with timeout := some timeout }

def orTimeout (request : Request) (default : Option Span) : Request :=
  { request with timeout := request.timeout.or default }

end Request

structure Assignment where
  id : TaskId
  reference : String
  arguments : Arguments
  kind : Kind
  timeout : Option Span
  submittedAt : Instant
deriving Inhabited

namespace Assignment

def ofRequest (request : Request) (id : TaskId) (kind : Kind) (now : Instant) : Assignment :=
  ⟨id, request.reference, request.arguments, kind, request.timeout, now⟩

def toJson (assignment : Assignment) : Json :=
  .object
    [("args", assignment.arguments.toJson), ("id", assignment.id.toJson),
     ("kind", assignment.kind.toJson), ("reference", .text assignment.reference),
     ("submitted_at", assignment.submittedAt.toJson),
     ("timeout", Json.ofOption Span.toJson assignment.timeout)]

end Assignment

end Foreman
