import Foreman.Scheduler.Move

/-!
A scheduler at the finest grain. Jobs that are due are taken in one step, and then each of them has
its task made in a second step and written down in a third one, while callers and workers go on in
between. Only the next command and the end of the coordinator wait until a round of fires is over.
There is one coordinator at a time.
-/

set_option autoImplicit false

namespace Foreman

def Tokens.stamps (tokens : Tokens) (ids : List TaskId) : List (TaskId × Nat) :=
  ids.filterMap fun id => (tokens.find? id).map fun token => (id, token)

structure Fire where
  due : DueJob
  id : TaskId
  result : Except SchedulerError Ticket

-- Next to the scheduler and what is left of a round stand the tokens and the tasks of the past: the
-- token that each task was given, and the job that each task of a fire was made for.
structure Round where
  scheduler : Scheduler
  due : List DueJob
  hand : Option Fire
  issued : List (TaskId × Nat)
  made : List (String × TaskId)

inductive Step where
  | move (move : Move)
  | take
  | accept (id : TaskId)
  | settle

def Step.ids : Step → List TaskId
  | .move (.submit _ id) => [id]
  | .accept id => [id]
  | _ => []

namespace Round

def ofScheduler (scheduler : Scheduler) : Round := ⟨scheduler, [], none, [], []⟩

def board (round : Round) : Board := round.scheduler.board

def isIdle (round : Round) : Bool := round.due.isEmpty && round.hand.isNone

-- Jobs are fired by the other steps.
def allows (round : Round) : Move → Bool
  | .fireDue _ => false
  | .receive => round.isIdle
  | .close => round.isIdle
  | _ => true

def take (round : Round) (now : Instant) : Round :=
  let (jobs, due) := round.board.jobs.takeDue now round.board.isActive
  { round with scheduler := round.scheduler.withJobs jobs, due := due }

def accept (round : Round) (id : TaskId) (now : Instant) : Round :=
  match round.hand, round.due with
  | none, due :: rest =>
      let (scheduler, result) := round.scheduler.accept due.request id now
      { round with
        scheduler := scheduler
        due := rest
        hand := some ⟨due, id, result⟩
        made := round.made ++ [(due.id, id)] }
  | _, _ => round

def settle (round : Round) (now : Instant) : Round :=
  match round.hand with
  | some fire =>
      { round with
        scheduler := round.scheduler.settleFire fire.due fire.id now fire.result
        hand := none }
  | none => round

def act (round : Round) (now : Instant) : Step → Round
  | .move move =>
      if round.allows move then { round with scheduler := round.scheduler.perform now move }
      else round
  | .take => if round.isIdle && round.scheduler.isListening then round.take now else round
  | .accept id => round.accept id now
  | .settle => round.settle now

def note (round : Round) (ids : List TaskId) : Round :=
  { round with issued := round.issued ++ round.board.tokens.stamps ids }

def perform (round : Round) (now : Instant) (step : Step) : Round :=
  (round.act now step).note step.ids

def run (round : Round) (history : List (Instant × Step)) : Round :=
  history.foldl (fun round entry => round.perform entry.1 entry.2) round

theorem run_append (round : Round) (first second : List (Instant × Step)) :
    round.run (first ++ second) = (round.run first).run second :=
  List.foldl_append

def idsOf (history : List (Instant × Step)) : List TaskId :=
  history.flatMap fun entry => entry.2.ids

def Fresh (history : List (Instant × Step)) : Prop := (idsOf history).Nodup

def fires (ids : Nat → TaskId) (now : Instant) : Nat → List DueJob → List (Instant × Step)
  | _, [] => []
  | index, _ :: rest =>
      (now, .accept (ids index)) :: (now, .settle) :: fires ids now (index + 1) rest

theorem fires_run (ids : Nat → TaskId) (now : Instant) (due : List DueJob) (index : Nat)
    (round : Round) (free : round.hand = none) (left : round.due = due) :
    (round.run (fires ids now index due)).scheduler =
        round.scheduler.fireEach ids now index due ∧
      (round.run (fires ids now index due)).isIdle = true := by
  induction due generalizing index round with
  | nil =>
      refine ⟨rfl, ?_⟩
      change round.isIdle = true
      simp [isIdle, left, free]
  | cons first rest ih =>
      have accepted : round.accept (ids index) now =
          { round with
            scheduler := (round.scheduler.accept first.request (ids index) now).1
            due := rest
            hand := some ⟨first, ids index, (round.scheduler.accept first.request (ids index) now).2⟩
            made := round.made ++ [(first.id, ids index)] } := by
        simp only [accept, free, left]
      have next : ((round.perform now (.accept (ids index))).perform now .settle).scheduler =
          round.scheduler.fireJob first (ids index) now := by
        simp only [perform, act, accepted]
        rfl
      obtain ⟨same, idle⟩ := ih (index + 1)
        ((round.perform now (.accept (ids index))).perform now .settle)
        (by simp only [perform, act, accepted]; rfl) (by simp only [perform, act, accepted]; rfl)
      rw [next] at same
      exact ⟨same, idle⟩

theorem fire_due_run (round : Round) (ids : Nat → TaskId) (now : Instant)
    (idle : round.isIdle = true) (listening : round.scheduler.isListening = true) :
    let due := (round.board.jobs.takeDue now round.board.isActive).2
    let last := round.run ((now, .take) :: fires ids now 0 due)
    last.scheduler = round.scheduler.perform now (.fireDue ids) ∧ last.isIdle = true := by
  intro due last
  have free : round.hand = none := by
    cases hand : round.hand with
    | none => rfl
    | some fire => simp [isIdle, hand] at idle
  have taken : round.perform now .take = (round.take now).note [] := by
    simp only [perform, act, idle, listening, Bool.and_self, if_true]
    rfl
  have rest := fires_run ids now due 0 (round.perform now .take) (by rw [taken]; exact free)
    (by rw [taken]; rfl)
  refine ⟨rest.1.trans ?_, rest.2⟩
  rw [taken, Scheduler.perform, if_pos listening]
  rfl

end Round

end Foreman
