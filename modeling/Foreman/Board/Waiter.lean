import Foreman.Board

set_option autoImplicit false

namespace Foreman

structure Waiter where
  task : TaskId
  seen : Nat
  found : Except SchedulerError (Option TaskRecord)
deriving Inhabited

namespace Waiter

def begin (board : Board) (task : TaskId) : Waiter :=
  ⟨task, board.announcements, board.look task⟩

def isWaiting (waiter : Waiter) : Bool :=
  match waiter.found with
  | .ok none => true
  | _ => false

def turn (board : Board) (waiter : Waiter) : Waiter :=
  if waiter.isWaiting && waiter.seen < board.announcements then begin board waiter.task else waiter

end Waiter

end Foreman
