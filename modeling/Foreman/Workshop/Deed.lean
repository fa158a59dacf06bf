import Foreman.Time.Clockwork
import Foreman.Workshop.Basic

set_option autoImplicit false

namespace Foreman

inductive Deed where
  | take (pool : Nat)
  | work (pool token : Nat)
  | launch
  | poll (token : Nat)
deriving DecidableEq, Repr

namespace Workshop

def holds (shop : Workshop) (token : Nat) : Bool :=
  (Activity.find? token shop.fibers).any Activity.isHolding

def perform (shop : Workshop) (now : Instant) : Deed → Workshop
  | .take pool => shop.take pool now
  | .work pool token => shop.work pool token now
  | .launch => if shop.isHeld then shop else shop.launch now
  | .poll token => if shop.isHeld && !shop.holds token then shop else shop.poll token now

def canPoll (shop : Workshop) (now : Instant) (activity : Activity) : Bool :=
  (shop.board.tokens.isCancelled activity.token && !activity.isHolding) ||
    activity.canResume shop.gates now

def poolDeed (shop : Workshop) (now : Instant) (index : Nat) (pool : Pool) : Option Deed :=
  match pool.next? with
  | some _ => some (.take index)
  | none =>
      (pool.working.find? fun activity => activity.canResume shop.gates now).map fun activity =>
        .work index activity.token

def poolDeeds (shop : Workshop) (now : Instant) : Nat → List Pool → Option Deed
  | _, [] => none
  | index, pool :: rest =>
      (shop.poolDeed now index pool).or (poolDeeds shop now (index + 1) rest)

def fiberDeed (shop : Workshop) (now : Instant) : Option Deed :=
  if shop.isHeld then
    (shop.fibers.find? fun activity => activity.isHolding && shop.canPoll now activity).map
      fun activity => .poll activity.token
  else if shop.spawned.isEmpty then
    (shop.fibers.find? (shop.canPoll now)).map fun activity => .poll activity.token
  else some .launch

def nextDeed? (shop : Workshop) (now : Instant) : Option Deed :=
  (shop.poolDeeds now 0 shop.pools).or (shop.fiberDeed now)

def earliest (times : List (Option Instant)) : Option Instant :=
  times.foldr Instant.earliest? none

def poolWake (shop : Workshop) : Option Instant :=
  earliest (shop.pools.map fun pool => earliest (pool.working.map Activity.wake))

def fiberWake (shop : Workshop) : Option Instant :=
  if shop.isHeld then none else earliest (shop.fibers.map Activity.wake)

def wake (shop : Workshop) : Option Instant :=
  Instant.earliest? shop.poolWake shop.fiberWake

def uncalled (shop : Workshop) : Nat :=
  Toil.total (fun pool => pool.waiting.length) shop.pools + shop.spawned.length

def efforts (shop : Workshop) : Nat :=
  Toil.total (fun pool => Toil.total Activity.effort pool.working) shop.pools +
    Toil.total Activity.effort shop.fibers

def works : Clockwork Workshop :=
  .ofMoves (fun shop => ⟨0, shop.uncalled, shop.efforts⟩)
    (fun now shop => (shop.nextDeed? now).map (shop.perform now)) wake

end Workshop

structure Rehearsal where
  shop : Workshop
  plan : List (Instant × Nat)
deriving Inhabited

namespace Rehearsal

def workshopMove? (rehearsal : Rehearsal) (now : Instant) : Option Rehearsal :=
  (Workshop.works.step? now rehearsal.shop).map fun shop => { rehearsal with shop := shop }

-- A cancellation comes before anything else at its time.
def move? (now : Instant) (rehearsal : Rehearsal) : Option Rehearsal :=
  match rehearsal.plan with
  | (time, token) :: plan =>
      if time ≤ now then
        let board := rehearsal.shop.board.cancelToken token
        some ⟨{ rehearsal.shop with board := board }, plan⟩
      else rehearsal.workshopMove? now
  | [] => rehearsal.workshopMove? now

def wake (rehearsal : Rehearsal) : Option Instant :=
  Instant.earliest? (rehearsal.plan.head?.map Prod.fst) rehearsal.shop.wake

def works : Clockwork Rehearsal :=
  .ofMoves (fun rehearsal =>
    ⟨rehearsal.plan.length, rehearsal.shop.uncalled, rehearsal.shop.efforts⟩) move? wake

def schedule (time : Instant) (token : Nat) : List (Instant × Nat) → List (Instant × Nat)
  | [] => [(time, token)]
  | entry :: rest =>
      if time < entry.1 then (time, token) :: entry :: rest else entry :: schedule time token rest

def cancelAt (rehearsal : Rehearsal) (time : Instant) (token : Nat) : Rehearsal :=
  { rehearsal with plan := schedule time token rehearsal.plan }

end Rehearsal

end Foreman
