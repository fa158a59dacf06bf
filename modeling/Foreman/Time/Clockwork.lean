import Foreman.Time.Instant

/-!
Systems that act by themselves: what they do next at a given time, and when they wake up again if
there is nothing to do. Time stands still while there is something to do. Every step leaves less to do,
so that a system comes to rest.
-/

set_option autoImplicit false

namespace Foreman

structure Toil where
  plans : Nat
  tickets : Nat
  efforts : Nat
deriving DecidableEq, Repr

namespace Toil

instance : LT Toil := ⟨fun a b => a.plans < b.plans ∨ a.plans = b.plans ∧
  (a.tickets < b.tickets ∨ a.tickets = b.tickets ∧ a.efforts < b.efforts)⟩

instance (a b : Toil) : Decidable (a < b) :=
  inferInstanceAs (Decidable (a.plans < b.plans ∨ a.plans = b.plans ∧
    (a.tickets < b.tickets ∨ a.tickets = b.tickets ∧ a.efforts < b.efforts)))

theorem less_trans (a b c : Toil) (first : a < b) (second : b < c) : a < c := by
  change a.plans < b.plans ∨ _ at first
  change b.plans < c.plans ∨ _ at second
  change a.plans < c.plans ∨ _
  omega

theorem less_irrefl (a : Toil) : ¬ a < a := by
  intro less
  change a.plans < a.plans ∨ _ at less
  omega

theorem less_founded : WellFounded fun a b : Toil => a < b := by
  let triple (toil : Toil) : Nat × Nat × Nat := (toil.plans, toil.tickets, toil.efforts)
  refine Subrelation.wf ?_ (InvImage.wf triple
    (Prod.lex Nat.lt_wfRel (Prod.lex Nat.lt_wfRel Nat.lt_wfRel)).wf)
  rintro ⟨_, _, _⟩ ⟨_, _, _⟩ (less | ⟨rfl, less | ⟨rfl, less⟩⟩)
  · exact .left _ _ less
  · exact .right _ (.left _ _ less)
  · exact .right _ (.right _ less)

instance : WellFoundedRelation Toil := ⟨fun a b => a < b, less_founded⟩

def total {α : Type} (count : α → Nat) (items : List α) : Nat :=
  items.foldr (fun item sum => count item + sum) 0

end Toil

structure Clockwork (α : Type) where
  step? : Instant → α → Option α
  wake : α → Option Instant
  toil : α → Toil
  lowers : ∀ now state next, step? now state = some next → toil next < toil state

structure Moment (α : Type) where
  state : α
  now : Instant

def Instant.left (time : Instant) : Nat := (8210266876800000000000 - time.nanos).toNat

theorem Instant.left_lt (now time : Instant) (later : now < time) : time.left < now.left := by
  have upper := time.upper
  change now.nanos < time.nanos at later
  unfold left
  omega

namespace Clockwork

variable {α : Type}

-- What leaves as much to do as before is no step.
def stepsOf (toil : α → Toil) (move? : Instant → α → Option α) (now : Instant) (state : α) :
    Option α :=
  (move? now state).filter fun next => decide (toil next < toil state)

theorem steps_lower (toil : α → Toil) (move? : Instant → α → Option α) (now : Instant)
    (state next : α) (stepped : stepsOf toil move? now state = some next) :
    toil next < toil state := by
  unfold stepsOf at stepped
  exact of_decide_eq_true (Option.filter_eq_some_iff.mp stepped).2

def ofMoves (toil : α → Toil) (move? : Instant → α → Option α) (wake : α → Option Instant) :
    Clockwork α :=
  ⟨stepsOf toil move?, wake, toil, steps_lower toil move?⟩

def isPast (time : Instant) : Option Instant → Bool
  | none => false
  | some limit => decide (limit < time)

def nextTime (works : Clockwork α) (limit : Option Instant) (state : α) : Option Instant :=
  match works.wake state with
  | none => limit
  | some wake => if isPast wake limit then limit else some wake

def settle (works : Clockwork α) (moment : Moment α) : Moment α :=
  match _ : works.step? moment.now moment.state with
  | none => moment
  | some state => settle works { moment with state := state }
termination_by works.toil moment.state
decreasing_by
  rename_i stepped
  exact works.lowers moment.now moment.state state stepped

def runUntil (works : Clockwork α) (goal : α → Bool) (limit : Option Instant)
    (moment : Moment α) : Moment α × Bool :=
  let settled := works.settle moment
  if goal settled.state then (settled, true)
  else
    match works.nextTime limit settled.state with
    | none => (settled, false)
    | some time =>
        if moment.now < time then runUntil works goal limit { settled with now := time }
        else (settled, false)
termination_by moment.now.left
decreasing_by
  rename_i later
  exact Instant.left_lt moment.now time later

def runOut (works : Clockwork α) (moment : Moment α) : Moment α :=
  (works.runUntil (fun _ => false) none moment).1

theorem settle_lowers (works : Clockwork α) (moment : Moment α) :
    (works.settle moment).state = moment.state ∨
      works.toil (works.settle moment).state < works.toil moment.state := by
  fun_induction settle works moment with
  | case1 moment rests => exact .inl rfl
  | case2 moment state stepped ih =>
      have first := works.lowers moment.now moment.state state stepped
      rcases ih with same | less
      · exact .inr (same ▸ first)
      · exact .inr (Toil.less_trans _ _ _ less first)

theorem run_lowers (works : Clockwork α) (goal : α → Bool) (limit : Option Instant)
    (moment : Moment α) :
    (works.runUntil goal limit moment).1.state = moment.state ∨
      works.toil (works.runUntil goal limit moment).1.state < works.toil moment.state := by
  fun_induction runUntil works goal limit moment with
  | case1 moment settled reached => exact settle_lowers works moment
  | case2 moment settled missed resting => exact settle_lowers works moment
  | case3 moment settled missed time next later ih =>
      have first := settle_lowers works moment
      rcases ih with same | less
      · rw [same]
        exact first
      · rcases first with unmoved | lowered
        · exact .inr (unmoved ▸ less)
        · exact .inr (Toil.less_trans _ _ _ less lowered)
  | case4 moment settled missed time next early => exact settle_lowers works moment

theorem run_reached (works : Clockwork α) (goal : α → Bool) (limit : Option Instant)
    (moment : Moment α) (reached : (works.runUntil goal limit moment).2 = true) :
    goal (works.runUntil goal limit moment).1.state = true := by
  fun_induction runUntil works goal limit moment with
  | case1 moment settled found => exact found
  | case2 moment settled missed resting => cases reached
  | case3 moment settled missed time next later ih => exact ih reached
  | case4 moment settled missed time next early => cases reached

end Clockwork

end Foreman
