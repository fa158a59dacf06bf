import Foreman.Proofs.Board.Sweep

set_option autoImplicit false

namespace Foreman.Board

inductive Call where
  | enroll (assignment : Assignment) (capacity : Option Nat)
  | reject (id : TaskId) (reference : String) (cause : ResolutionError)
  | markRunning (assignment : Assignment)
  | finish (assignment : Assignment) (state : TaskState) (outcome : Outcome)
  | cancel (id : TaskId)
  | cancelAll (reason : String)
  | evict (id : TaskId)
  | cancelToken (token : Nat)
  | setJobs (jobs : JobTable)
  | setUtilization (busy size : Nat)
  | publish (event : Event)

def perform (board : Board) (now : Instant) : Call → Board
  | .enroll assignment capacity => (board.enroll assignment capacity now).1
  | .reject id reference cause => (board.reject id reference cause now).1
  | .markRunning assignment => (board.markRunning assignment now).1
  | .finish assignment state outcome => (board.finish assignment state outcome now).1
  | .cancel id => (board.cancel id now).1
  | .cancelAll reason => (board.cancelAll reason now).1
  | .evict id => (board.evict id).1
  | .cancelToken token => board.cancelToken token
  | .setJobs jobs => { board with jobs := jobs }
  | .setUtilization busy size => board.setUtilization busy size
  | .publish event => board.publish event

def run (board : Board) (history : List (Instant × Call)) : Board :=
  history.foldl (fun board entry => board.perform entry.1 entry.2) board

def Call.Lawful (board : Board) : Call → Prop
  | .enroll assignment _ => board.store.find? assignment.id = none
  | .reject id _ _ => board.store.find? id = none
  | .finish _ state _ => state.isTerminal = true
  | .cancelToken token =>
      token < board.tokens.fresh ∧ ∀ pair ∈ board.tokens.held, pair.2 ≠ token
  | _ => True

def Lawful (board : Board) : List (Instant × Call) → Prop
  | [] => True
  | (now, call) :: rest => call.Lawful board ∧ (board.perform now call).Lawful rest

instance (board : Board) (call : Call) : Decidable (call.Lawful board) :=
  match call with
  | .enroll assignment _ => inferInstanceAs (Decidable (board.store.find? assignment.id = none))
  | .reject id _ _ => inferInstanceAs (Decidable (board.store.find? id = none))
  | .finish _ state _ => inferInstanceAs (Decidable (state.isTerminal = true))
  | .cancelToken token => inferInstanceAs (Decidable (token < board.tokens.fresh ∧
      ∀ pair ∈ board.tokens.held, pair.2 ≠ token))
  | .markRunning _ | .cancel _ | .cancelAll _ | .evict _ | .setJobs _ | .setUtilization _ _
  | .publish _ => isTrue trivial

instance decideLawful (board : Board) : (history : List (Instant × Call)) →
    Decidable (board.Lawful history)
  | [] => isTrue trivial
  | (now, call) :: rest =>
      have := decideLawful (board.perform now call) rest
      inferInstanceAs (Decidable (call.Lawful board ∧ (board.perform now call).Lawful rest))

def Call.May : Call → Effect → Prop
  | .enroll assignment _, effect => effect = .entered assignment.id
  | .reject id _ _, effect => effect = .entered id ∨ effect = .aside
  | .markRunning assignment, effect => effect = .started assignment.id
  | .finish assignment _ _, effect => effect = .ended assignment.id
  | .cancel id, effect => effect = .ended id ∨ effect = .aside
  | .cancelAll _, effect => Swept effect
  | .evict id, effect => effect = .removed id
  | .setJobs _, effect => effect = .planned
  | .cancelToken _, effect | .setUtilization _ _, effect | .publish _, effect => effect = .aside

theorem perform_evolves (board : Board) (balanced : board.Balanced) (now : Instant) (call : Call)
    (lawful : call.Lawful board) : Evolves call.May board (board.perform now call) := by
  cases call with
  | enroll assignment capacity => exact enroll_evolves board assignment capacity now balanced lawful
  | reject id reference cause => exact reject_evolves board id reference cause now balanced lawful
  | markRunning assignment => exact mark_running_evolves board now balanced assignment
  | finish assignment state outcome =>
      exact finish_evolves board now balanced assignment state outcome lawful
  | cancel id => exact cancel_evolves board now balanced id
  | cancelAll reason => exact cancel_all_evolves reason now board balanced
  | evict id => exact evict_evolves board id balanced
  | cancelToken token => exact evolves_one _ _ _ rfl (.cancelled token lawful.1 lawful.2)
  | setJobs jobs => exact evolves_one _ _ _ rfl (.planned jobs)
  | setUtilization busy size =>
      exact evolves_one _ _ _ rfl (.aside _ rfl rfl rfl rfl rfl rfl)
  | publish event => exact evolves_one _ _ _ rfl (.aside _ rfl rfl rfl rfl rfl rfl)

theorem balanced_perform (board : Board) (balanced : board.Balanced) (now : Instant) (call : Call)
    (lawful : call.Lawful board) : (board.perform now call).Balanced :=
  balanced_evolves _ _ (perform_evolves board balanced now call lawful) balanced

theorem balanced_run (board : Board) (balanced : board.Balanced)
    (history : List (Instant × Call)) (lawful : board.Lawful history) :
    (board.run history).Balanced := by
  induction history generalizing board with
  | nil => exact balanced
  | cons entry rest ih =>
      exact ih (board.perform entry.1 entry.2)
        (balanced_perform board balanced entry.1 entry.2 lawful.1) lawful.2

end Foreman.Board
