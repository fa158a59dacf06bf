import Foreman.Proofs.Trigger.Onward

set_option autoImplicit false

namespace Foreman.Instant

structure FirstAfter (times : Instant → Prop) (now time : Instant) : Prop where
  listed : times time
  after : now < time
  least : ∀ other, times other → now < other → time ≤ other

theorem first_unique (times : Instant → Prop) (now first second : Instant)
    (one : FirstAfter times now first) (other : FirstAfter times now second) : first = second := by
  have below : first.nanos ≤ second.nanos := one.least second other.listed other.after
  have above : second.nanos ≤ first.nanos := other.least first one.listed one.after
  exact nanos_injective (Int.le_antisymm below above)

theorem first_exists (times : Instant → Prop) (now time : Instant) (listed : times time)
    (after : now < time) : ∃ first, FirstAfter times now first := by
  by_cases sooner : ∃ other, times other ∧ now < other ∧ other < time
  · obtain ⟨other, member, ahead, before⟩ := sooner
    exact first_exists times now other member ahead
  · refine ⟨time, listed, after, fun other member ahead => ?_⟩
    by_contra late
    exact sooner ⟨other, member, ahead, Int.not_le.mp late⟩
termination_by (time.nanos - now.nanos).toNat
decreasing_by
  change now.nanos < other.nanos at ahead
  change other.nanos < time.nanos at before
  omega

-- The times after a start that come of asking again at every answer.
inductive Orbit (answer : Instant → Option Instant) (start : Instant) : Instant → Prop where
  | first (time : Instant) (answered : answer start = some time) : Orbit answer start time
  | again (time later : Instant) (before : Orbit answer start time)
      (answered : answer time = some later) : Orbit answer start later

section Orbit

variable (answer : Instant → Option Instant)

theorem orbit_prepend (start next time : Instant) (answered : answer start = some next)
    (member : Orbit answer next time) : Orbit answer start time := by
  induction member with
  | first time reached => exact .again next time (.first next answered) reached
  | again time later _ reached ih => exact .again time later ih reached

theorem orbit_head (start time : Instant) (member : Orbit answer start time) :
    ∃ next, answer start = some next ∧ (time = next ∨ Orbit answer next time) := by
  induction member with
  | first time answered => exact ⟨time, answered, .inl rfl⟩
  | again time later _ reached ih =>
      obtain ⟨next, answered, rfl | further⟩ := ih
      · exact ⟨time, answered, .inr (.first later reached)⟩
      · exact ⟨next, answered, .inr (.again time later further reached)⟩

theorem orbit_total (start first second : Instant) (one : Orbit answer start first)
    (other : Orbit answer start second) :
    first = second ∨ Orbit answer first second ∨ Orbit answer second first := by
  induction one with
  | first time answered =>
      obtain ⟨next, reached, rest⟩ := orbit_head answer start second other
      rw [answered, Option.some.injEq] at reached
      subst reached
      rcases rest with rfl | further
      · exact .inl rfl
      · exact .inr (.inl further)
  | again time later _ answered ih =>
      rcases ih with rfl | further | before
      · exact .inr (.inr (.first later answered))
      · obtain ⟨next, reached, rest⟩ := orbit_head answer time second further
        rw [answered, Option.some.injEq] at reached
        subst reached
        rcases rest with rfl | beyond
        · exact .inl rfl
        · exact .inr (.inl beyond)
      · exact .inr (.inr (.again time later before answered))

theorem listed_reached (times : Instant → Prop) (start now time : Instant)
    (steps : ∀ now, (now = start ∨ times now) →
      ∀ time, answer now = some time ↔ FirstAfter times now time)
    (here : now = start ∨ times now) (listed : times time) (later : now < time) :
    Orbit answer now time := by
  obtain ⟨first, next⟩ := first_exists times now time listed later
  have answered := (steps now here first).mpr next
  by_cases same : first = time
  · exact same ▸ .first first answered
  · have least : first.nanos ≤ time.nanos := next.least time listed later
    have apart : first.nanos ≠ time.nanos := fun equal => same (nanos_injective equal)
    have before : first < time := by
      change first.nanos < time.nanos
      omega
    exact orbit_prepend answer now first time answered
      (listed_reached times start first time steps (.inr next.listed) listed before)
termination_by (time.nanos - now.nanos).toNat
decreasing_by
  have ahead : now.nanos < first.nanos := next.after
  change first.nanos < time.nanos at before
  omega

variable (ascends : ∀ now : Instant, now.Precedes (answer now)) (start : Instant)

include ascends

theorem orbit_after (time : Instant) (member : Orbit answer start time) : start < time := by
  induction member with
  | first time answered => exact ascends start time answered
  | again time later _ answered ih =>
      have next : time.nanos < later.nanos := ascends time later answered
      change start.nanos < time.nanos at ih
      change start.nanos < later.nanos
      omega

theorem orbit_onward (now time : Instant) (here : now = start ∨ Orbit answer start now)
    (member : Orbit answer start time) (later : now < time) : Orbit answer now time := by
  rcases here with rfl | reached
  · exact member
  · rcases orbit_total answer start now time reached member with rfl | further | back
    · exact absurd later (Int.lt_irrefl now.nanos)
    · exact further
    · have order : time.nanos < now.nanos := orbit_after answer ascends time now back
      change now.nanos < time.nanos at later
      omega

theorem orbit_next (now : Instant) (here : now = start ∨ Orbit answer start now) (time : Instant) :
    answer now = some time ↔ FirstAfter (Orbit answer start) now time := by
  constructor
  · intro answered
    refine ⟨?_, ascends now time answered, fun other member later => ?_⟩
    · rcases here with rfl | reached
      · exact .first time answered
      · exact .again now time reached answered
    · have further := orbit_onward answer ascends start now other here member later
      obtain ⟨next, reached, rest⟩ := orbit_head answer now other further
      rw [answered, Option.some.injEq] at reached
      subst reached
      rcases rest with rfl | beyond
      · exact Int.le_refl other.nanos
      · exact Int.le_of_lt (orbit_after answer ascends time other beyond)
  · intro next
    have further := orbit_onward answer ascends start now time here next.listed next.after
    obtain ⟨first, reached, rest⟩ := orbit_head answer now time further
    rcases rest with rfl | beyond
    · exact reached
    · have listed : Orbit answer start first := by
        rcases here with rfl | earlier
        · exact .first first reached
        · exact .again now first earlier reached
      have least : time.nanos ≤ first.nanos := next.least first listed (ascends now first reached)
      have order : first.nanos < time.nanos := orbit_after answer ascends first time beyond
      omega

theorem orbit_iff (times : Instant → Prop) (bound : ∀ time, times time → start < time) :
    (∀ time, Orbit answer start time ↔ times time) ↔
      ∀ now, (now = start ∨ times now) →
        ∀ time, answer now = some time ↔ FirstAfter times now time := by
  constructor
  · intro same now here time
    have equal : Orbit answer start = times := funext fun time => propext (same time)
    rw [← equal] at here ⊢
    exact orbit_next answer ascends start now here time
  · intro steps time
    refine ⟨fun member => ?_, fun listed =>
      listed_reached answer times start start time steps (.inl rfl) listed
        (bound time listed)⟩
    induction member with
    | first time answered => exact ((steps start (.inl rfl) time).mp answered).listed
    | again time later _ answered ih => exact ((steps time (.inr ih) later).mp answered).listed

end Orbit

end Foreman.Instant
