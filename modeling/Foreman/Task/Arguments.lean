import Foreman.Task.Error
import Foreman.Json.Decode

set_option autoImplicit false

namespace Foreman

structure Arguments where
  positional : List Json
  named : List (String × Json)
deriving Inhabited

namespace Arguments

def none : Arguments := ⟨[], []⟩

def arg {α : Type} (arguments : Arguments) (decode : Json → Decoded α) (index : Nat) :
    Except TaskError α :=
  match arguments.positional[index]? with
  | .none =>
      .error (.invalidArgument ("missing positional argument " ++ Number.natText index ++
        " (got " ++ Number.natText arguments.positional.length ++ ")"))
  | some raw =>
      (decode raw).mapError fun error =>
        .invalidArgument ("argument " ++ Number.natText index ++ ": " ++ error.message)

def named? {α : Type} (arguments : Arguments) (decode : Json → Decoded α) (name : String) :
    Except TaskError (Option α) :=
  match Json.member? name arguments.named with
  | .none => .ok .none
  | some raw =>
      match decode raw with
      | .ok value => .ok (some value)
      | .error error => .error (.invalidArgument ("argument '" ++ name ++ "': " ++ error.message))

def namedOr {α : Type} (arguments : Arguments) (decode : Json → Decoded α) (name : String)
    (default : α) : Except TaskError α :=
  (arguments.named? decode name).map fun value => value.getD default

def toJson (arguments : Arguments) : Json :=
  .object [("args", .array arguments.positional), ("kwargs", .object arguments.named)]

def ofJson : Json → Decoded Arguments
  | .object members => do
      let args := Json.field members "args" (Json.toList .ok)
      let kwargs := Json.field members "kwargs" Json.toMembers
      return ⟨← Json.defaulted [] args, ← Json.defaulted [] kwargs⟩
  | .array items => do
      let args ← Json.elementOr items 0 [] (Json.toList .ok)
      let kwargs ← Json.elementOr items 1 [] Json.toMembers
      Json.atMost items 2
      return ⟨args, kwargs⟩
  | other => other.unexpected "struct TaskArgs"

end Arguments

end Foreman
