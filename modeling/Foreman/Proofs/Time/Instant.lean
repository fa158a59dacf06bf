import Foreman.Time.Instant
import Mathlib.Order.Bounds.Basic

set_option autoImplicit false

namespace Foreman.Instant

theorem nanos_injective : Function.Injective nanos := by
  intro a b same
  cases a
  cases b
  cases same
  rfl

theorem same_time (a b : Instant) (below : a ≤ b) (above : b ≤ a) : a = b :=
  nanos_injective (Int.le_antisymm below above)

theorem of_nanos_nanos (nanos : Int) (time : Instant) (made : ofNanos? nanos = some time) :
    time.nanos = nanos := by
  unfold ofNanos? at made
  split at made
  · cases made
    rfl
  · cases made

theorem of_nanos_own (time : Instant) : ofNanos? time.nanos = some time :=
  dif_pos ⟨time.lower, time.upper⟩

theorem of_nanos_iff (nanos : Int) (time : Instant) :
    ofNanos? nanos = some time ↔ time.nanos = nanos := by
  constructor
  · exact of_nanos_nanos nanos time
  · intro same
    rw [← same]
    exact of_nanos_own time

theorem of_nanos_none (nanos : Int) (above : -8334601228800000000000 ≤ nanos)
    (absent : ofNanos? nanos = none) : 8210266876800000000000 ≤ nanos := by
  unfold ofNanos? at absent
  split at absent
  · cases absent
  · rename_i outside
    omega

theorem least_answer (times : Set Instant) (answer : Option Instant)
    (given : ∀ time, answer = some time → time ∈ times)
    (bounded : ∀ time ∈ times, ∃ first, answer = some first ∧ first ≤ time) (time : Instant) :
    answer = some time ↔ IsLeast times time := by
  constructor
  · intro answered
    refine ⟨given time answered, fun other member => ?_⟩
    obtain ⟨first, same, bound⟩ := bounded other member
    rw [answered, Option.some.injEq] at same
    exact same ▸ bound
  · intro least
    obtain ⟨first, answered, bound⟩ := bounded time least.1
    have above := least.2 (given first answered)
    rw [answered, same_time first time bound above]

theorem earlier_le (a b : Instant) : earlier a b ≤ a ∧ earlier a b ≤ b := by
  by_cases before : b.nanos < a.nanos
  · rw [earlier, if_pos before]
    exact ⟨Int.le_of_lt before, Int.le_refl b.nanos⟩
  · rw [earlier, if_neg before]
    exact ⟨Int.le_refl a.nanos, Int.not_lt.mp before⟩

theorem earlier_given (a b : Instant) : earlier a b = a ∨ earlier a b = b := by
  by_cases before : b.nanos < a.nanos
  · rw [earlier, if_pos before]
    exact .inr rfl
  · rw [earlier, if_neg before]
    exact .inl rfl

section Earliest

variable (a b : Option Instant) (time : Instant)

theorem earliest_given (answered : earliest? a b = some time) : a = some time ∨ b = some time := by
  cases a with
  | none => exact .inr answered
  | some first =>
      cases b with
      | none => exact .inl answered
      | some second =>
          cases answered
          cases earlier_given first second with
          | inl left => exact .inl (congrArg some left.symm)
          | inr right => exact .inr (congrArg some right.symm)

theorem earliest_bounded (given : a = some time ∨ b = some time) :
    ∃ first, earliest? a b = some first ∧ first ≤ time := by
  cases a with
  | none =>
      cases given with
      | inl missing => cases missing
      | inr other => exact ⟨time, other, Int.le_refl time.nanos⟩
  | some first =>
      cases b with
      | none =>
          cases given with
          | inl own => exact ⟨time, own, Int.le_refl time.nanos⟩
          | inr missing => cases missing
      | some second =>
          obtain ⟨left, right⟩ := earlier_le first second
          refine ⟨earlier first second, rfl, ?_⟩
          cases given with
          | inl own =>
              cases own
              exact left
          | inr other =>
              cases other
              exact right

end Earliest

section Several

variable (times : List (Option Instant)) (time : Instant)

theorem first_given (answered : times.foldr earliest? none = some time) : some time ∈ times := by
  induction times with
  | nil => cases answered
  | cons entry rest ih =>
      cases earliest_given entry _ time answered with
      | inl own => exact own ▸ List.mem_cons_self
      | inr later => exact List.mem_cons_of_mem entry (ih later)

theorem first_bounded (given : some time ∈ times) :
    ∃ first, times.foldr earliest? none = some first ∧ first ≤ time := by
  induction times with
  | nil => cases given
  | cons entry rest ih =>
      cases List.mem_cons.mp given with
      | inl own => exact earliest_bounded entry _ time (.inl own.symm)
      | inr later =>
          obtain ⟨sooner, found, before⟩ := ih later
          obtain ⟨first, answered, bound⟩ := earliest_bounded entry _ sooner (.inr found)
          exact ⟨first, answered, Int.le_trans bound before⟩

theorem first_iff :
    times.foldr earliest? none = some time ↔ IsLeast {other | some other ∈ times} time :=
  least_answer {other | some other ∈ times} _ (first_given times) (first_bounded times) time

theorem first_none : times.foldr earliest? none = none ↔ ∀ entry ∈ times, entry = none := by
  constructor
  · intro absent entry member
    cases entry with
    | none => rfl
    | some given =>
        obtain ⟨first, found, _⟩ := first_bounded times given member
        rw [absent] at found
        cases found
  · intro missing
    cases found : times.foldr earliest? none with
    | none => rfl
    | some first => cases missing _ (first_given times first found)

theorem first_append (others : List (Option Instant)) :
    (times ++ others).foldr earliest? none =
      earliest? (times.foldr earliest? none) (others.foldr earliest? none) := by
  refine Option.ext fun time => (first_iff (times ++ others) time).trans
    (least_answer {other | some other ∈ times ++ others} _ ?given ?bounded time).symm
  case given =>
    intro time answered
    cases earliest_given _ _ time answered with
    | inl left => exact List.mem_append_left _ (first_given times time left)
    | inr right => exact List.mem_append_right _ (first_given others time right)
  case bounded =>
    intro time member
    have given : ∃ sooner, (times.foldr earliest? none = some sooner ∨
        others.foldr earliest? none = some sooner) ∧ sooner ≤ time := by
      cases List.mem_append.mp member with
      | inl left =>
          obtain ⟨sooner, found, order⟩ := first_bounded times time left
          exact ⟨sooner, .inl found, order⟩
      | inr right =>
          obtain ⟨sooner, found, order⟩ := first_bounded others time right
          exact ⟨sooner, .inr found, order⟩
    obtain ⟨sooner, found, order⟩ := given
    obtain ⟨first, least, bound⟩ := earliest_bounded _ _ sooner found
    exact ⟨first, least, Int.le_trans bound order⟩

end Several

def NoLater (a b : Option Instant) : Prop :=
  ∀ time, b = some time → ∃ sooner, a = some sooner ∧ sooner ≤ time

section NoLater

variable (a b : Option Instant)

theorem no_later_none : NoLater a none := by
  intro time missing
  cases missing

theorem no_later_refl : NoLater a a :=
  fun time same => ⟨time, same, Int.le_refl time.nanos⟩

theorem no_later_absent (order : NoLater a b) (absent : a = none) : b = none := by
  cases b with
  | none => rfl
  | some time =>
      obtain ⟨sooner, found, _⟩ := order time rfl
      rw [absent] at found
      cases found

theorem no_later_earliest (c d : Option Instant) (left : NoLater a c) (right : NoLater b d) :
    NoLater (earliest? a b) (earliest? c d) := by
  intro time answered
  have given : ∃ sooner, (a = some sooner ∨ b = some sooner) ∧ sooner ≤ time := by
    cases earliest_given c d time answered with
    | inl own =>
        obtain ⟨sooner, found, order⟩ := left time own
        exact ⟨sooner, .inl found, order⟩
    | inr other =>
        obtain ⟨sooner, found, order⟩ := right time other
        exact ⟨sooner, .inr found, order⟩
  obtain ⟨sooner, found, order⟩ := given
  obtain ⟨first, least, bound⟩ := earliest_bounded a b sooner found
  exact ⟨first, least, Int.le_trans bound order⟩

-- A later time is on the calendar only if the earlier one is, unless that lies before the calendar.
theorem no_later_nanos (first second : Int) (order : first ≤ second)
    (above : -8334601228800000000000 ≤ first) : NoLater (ofNanos? first) (ofNanos? second) := by
  intro time made
  have total := of_nanos_nanos second time made
  have top := time.upper
  refine ⟨⟨first, above, by omega⟩, of_nanos_own ⟨first, above, by omega⟩, ?_⟩
  change first ≤ time.nanos
  omega

end NoLater

end Foreman.Instant
