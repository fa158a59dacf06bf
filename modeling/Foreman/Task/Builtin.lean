import Foreman.Registry
import Foreman.Task.Process

set_option autoImplicit false

namespace Foreman.Builtin

def defaultMillis : Nat := 100

def millis (arguments : Arguments) : Except TaskError Nat := do
  match ← arguments.named? Json.toMillis "ms" with
  | some millis => return millis
  | none =>
      if arguments.positional.isEmpty then return defaultMillis
      else arguments.arg Json.toMillis 0

def echo (arguments : Arguments) : Process :=
  .finish (.value arguments.toJson)

def pause (arguments : Arguments) : Process :=
  .ofExcept <| (millis arguments).map fun millis =>
    .sleep millis (.finish (.value (.int millis)))

def fail (arguments : Arguments) : Process :=
  .ofResult <| (arguments.namedOr Json.toText "message" "requested").bind fun message =>
    .error (.failed message)

def tasks : List (String × Callable) :=
  [("builtin:echo", .always .sync echo), ("builtin:sleep", .always .async pause),
   ("builtin:block", .always .sync pause), ("builtin:fail", .always .sync fail)]

def registerAll (tasks : List (String × Callable)) (registry : Registry Callable) :
    Registry Callable × Except ResolutionError Unit :=
  match tasks with
  | [] => (registry, .ok ())
  | (reference, callable) :: rest =>
      match registry.register reference callable with
      | .ok registry => registerAll rest registry
      | .error error => (registry, .error error)

def register (registry : Registry Callable) : Registry Callable × Except ResolutionError Unit :=
  registerAll tasks registry

def registry : Registry Callable :=
  (register Registry.empty).1

end Foreman.Builtin
