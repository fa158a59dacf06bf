import Foreman.Number.Width
import Foreman.Task.Builtin

set_option autoImplicit false

namespace Foreman.Probe

def long : Json → Decoded Int := Json.toWhole (-Number.bound63) (Number.bound63 - 1) "i64"

def combined (combine : Int → Int → Int) (arguments : Arguments) : Process :=
  .ofResult do
    let first ← arguments.arg long 0
    let second ← arguments.arg long 1
    let result := combine first second
    if Number.isSigned64 result then return .int result
    else .error (.failed "overflow")

def failing (error : String → TaskError) (arguments : Arguments) : Process :=
  .ofResult <| (arguments.arg Json.toText 0).bind fun message => .error (error message)

def textsFrom (arguments : Arguments) : Nat → Nat → Except TaskError (List String)
  | _, 0 => .ok []
  | index, count + 1 => do
      let first ← arguments.arg Json.toText index
      return first :: (← textsFrom arguments (index + 1) count)

def chained (arguments : Arguments) : Process :=
  .ofResult do
    let outermost ← arguments.arg Json.toText 0
    let causes ← textsFrom arguments 1 (arguments.positional.length - 1)
    .error (.chain outermost causes)

def panicking (arguments : Arguments) : Process :=
  .ofExcept <| (arguments.arg Json.toText 0).map fun message => .finish (.panic (some message))

def panickingLater (arguments : Arguments) : Process :=
  .ofExcept <| (arguments.arg Json.toText 0).map fun message =>
    .rest (.finish (if message.isEmpty then .value .null else .panic (some message)))

def second (arguments : Arguments) : Json :=
  arguments.positional[1]?.getD .null

def waiting (wait : String → Process → Process) (arguments : Arguments) : Process :=
  .ofExcept <| (arguments.arg Json.toText 0).map fun gate =>
    wait gate (.finish (.value (second arguments)))

def later (arguments : Arguments) : Process :=
  .ofExcept <| (arguments.arg Json.toMillis 0).map fun millis =>
    .sleep millis (.finish (.value (second arguments)))

def counting (run : Nat) (_ : Arguments) : Process :=
  .finish (.value (.int run))

def tasks : List (String × Callable) :=
  [("fx:mul", .always .sync (combined (· * ·))),
   ("fx:fail", .always .sync (failing .failed)),
   ("fx:invalid", .always .sync (failing .invalidArgument)),
   ("fx:chain", .always .sync chained),
   ("fx:panic", .always .sync panicking),
   ("fx:gate", .always .sync (waiting .gate)),
   ("fx:count", ⟨.sync, counting⟩),
   ("fx:add", .always .async (combined (· + ·))),
   ("fx:afail", .always .async (failing .failed)),
   ("fx:achain", .always .async chained),
   ("fx:apanic", .always .async panickingLater),
   ("fx:apanic_early", .always .async fun _ => .finish (.panic (some "no future"))),
   ("fx:later", .always .async later),
   ("fx:agate", .always .async (waiting .gate)),
   ("fx:hog", .always .async (waiting .hold))]

def registry : Registry Callable :=
  (Builtin.registerAll tasks Builtin.registry).1

end Foreman.Probe
