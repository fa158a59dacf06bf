import Foreman.Task.Arguments
import Foreman.Task.Outcome

set_option autoImplicit false

namespace Foreman

inductive Process where
  | finish (ending : Ending)
  | sleep (millis : Nat) (next : Process)
  | gate (name : String) (next : Process)
  | hold (name : String) (next : Process)
  | rest (next : Process)
deriving Inhabited

namespace Process

def longestSleep : Nat := 946080000000

def sleepLength (millis : Nat) : Nat :=
  min millis longestSleep

def pauses : Process → Nat
  | .finish _ => 0
  | .sleep _ next => next.pauses + 1
  | .gate _ next => next.pauses + 1
  | .hold _ next => next.pauses + 1
  | .rest next => next.pauses + 1

def ofResult : Except TaskError Json → Process
  | .ok value => .finish (.value value)
  | .error error => .finish (.error error)

-- How a body ends where every gate is open, and the milliseconds that it sleeps.
def alone : Process → Ending × Nat
  | .finish ending => (ending, 0)
  | .sleep millis next => (next.alone.1, next.alone.2 + sleepLength millis)
  | .gate _ next => next.alone
  | .hold _ next => next.alone
  | .rest next => next.alone

def ofExcept : Except TaskError Process → Process
  | .ok process => process
  | .error error => .finish (.error error)

end Process

-- A task body with its way of running. A body is told how often it has been called by now.
structure Callable where
  kind : Kind
  body : Nat → Arguments → Process

namespace Callable

instance : Inhabited Callable := ⟨⟨.sync, fun _ _ => default⟩⟩

def always (kind : Kind) (body : Arguments → Process) : Callable :=
  ⟨kind, fun _ => body⟩

def constant (kind : Kind) (value : Json) : Callable :=
  always kind fun _ => .finish (.value value)

def callAlone (callable : Callable) (arguments : Arguments) : Ending × Nat :=
  (callable.body 1 arguments).alone

end Callable

end Foreman
