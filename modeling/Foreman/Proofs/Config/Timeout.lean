import Foreman.Config.Settings
import Mathlib.Order.Bounds.Basic

set_option autoImplicit false

namespace Foreman

namespace Span

theorem nanos_injective : Function.Injective nanos := by
  intro a b same
  cases a
  cases b
  cases same
  rfl

theorem of_millis_nanos (millis : Nat) (fits : millis < Number.bound64) :
    (ofMillis millis).nanos = millis * 1000000 := by
  unfold Number.bound64 at fits
  rw [ofMillis, ofNanos, ofNanos?, dif_pos (by omega), Option.getD_some]

section RoundedUp

variable (span : Span)

def CoveredBy (millis : Nat) : Prop := span.nanos ≤ millis * 1000000

theorem millis_up_least : IsLeast {millis | span.CoveredBy millis} span.millisUp := by
  constructor
  · change span.nanos ≤ (span.nanos + 999999) / 1000000 * 1000000
    omega
  · intro millis enough
    change span.nanos ≤ millis * 1000000 at enough
    change (span.nanos + 999999) / 1000000 ≤ millis
    omega

theorem millis_up_close : span.millisUp * 1000000 < span.nanos + 1000000 := by
  unfold millisUp
  omega

theorem millis_up_zero : span.millisUp = 0 ↔ span = zero := by
  constructor
  · intro none
    have covered : span.nanos ≤ span.millisUp * 1000000 := span.millis_up_least.1
    refine nanos_injective ?_
    change span.nanos = 0
    omega
  · rintro rfl
    rfl

theorem millis_up_monotone (longer : Span) (order : span ≤ longer) :
    span.millisUp ≤ longer.millisUp :=
  span.millis_up_least.2 (Nat.le_trans order longer.millis_up_least.1)

end RoundedUp

end Span

namespace Settings

section DefaultTimeout

variable (settings : Settings) (timeout : Span)

def keptMillis : Nat := min timeout.millisUp longestMillis

theorem kept_small : keptMillis timeout < Number.bound64 := by
  have bound : keptMillis timeout ≤ longestMillis := Nat.min_le_right _ _
  exact Nat.lt_of_le_of_lt bound (by decide)

theorem kept_fitting (fits : timeout.millisUp < Number.bound64) :
    keptMillis timeout = timeout.millisUp :=
  Nat.min_eq_left (Nat.le_pred_of_lt fits)

theorem kept_saturated (large : Number.bound64 ≤ timeout.millisUp) :
    keptMillis timeout = Number.bound64 - 1 :=
  Nat.min_eq_right (Nat.le_trans (Nat.sub_le _ _) large)

theorem kept_nanos : (Span.ofMillis (keptMillis timeout)).nanos = keptMillis timeout * 1000000 :=
  Span.of_millis_nanos _ (kept_small timeout)

theorem kept_close (fits : timeout.millisUp < Number.bound64) :
    timeout ≤ Span.ofMillis (keptMillis timeout) ∧
      (Span.ofMillis (keptMillis timeout)).nanos < timeout.nanos + 1000000 := by
  have total := kept_nanos timeout
  rw [kept_fitting timeout fits] at total ⊢
  constructor
  · change timeout.nanos ≤ (Span.ofMillis timeout.millisUp).nanos
    rw [total]
    exact timeout.millis_up_least.1
  · rw [total]
    exact timeout.millis_up_close

theorem kept_shorter (large : Number.bound64 ≤ timeout.millisUp) :
    Span.ofMillis (keptMillis timeout) < timeout := by
  have total := kept_nanos timeout
  rw [kept_saturated timeout large] at total ⊢
  change (Span.ofMillis (Number.bound64 - 1)).nanos < timeout.nanos
  rw [total]
  by_contra enough
  have least := timeout.millis_up_least.2 (Nat.not_lt.mp enough)
  have positive : 0 < Number.bound64 := by decide
  omega

theorem kept_whole (millis : Nat) (fits : millis < Number.bound64)
    (whole : timeout.nanos = millis * 1000000) :
    keptMillis timeout = millis ∧ Span.ofMillis (keptMillis timeout) = timeout := by
  have rounded : timeout.millisUp = millis := by
    unfold Span.millisUp
    omega
  have kept : keptMillis timeout = millis :=
    (kept_fitting timeout (rounded ▸ fits)).trans rounded
  refine ⟨kept, Span.nanos_injective ?_⟩
  rw [kept_nanos, kept, whole]

theorem kept_monotone (longer : Span) (order : timeout ≤ longer) :
    keptMillis timeout ≤ keptMillis longer ∧
      Span.ofMillis (keptMillis timeout) ≤ Span.ofMillis (keptMillis longer) := by
  have rounded := timeout.millis_up_monotone longer order
  have more : keptMillis timeout ≤ keptMillis longer := by
    unfold keptMillis
    omega
  refine ⟨more, ?_⟩
  change (Span.ofMillis (keptMillis timeout)).nanos ≤ (Span.ofMillis (keptMillis longer)).nanos
  rw [kept_nanos, kept_nanos]
  exact Nat.mul_le_mul_right 1000000 more

theorem kept_zero : keptMillis timeout = 0 ↔ timeout = Span.zero := by
  rw [← timeout.millis_up_zero]
  have positive : 0 < longestMillis := by decide
  unfold keptMillis
  omega

theorem validate_iff :
    settings.validate = .ok () ↔
      settings.queueCapacity ≠ some 0 ∧ settings.defaultTimeoutMs ≠ some 0 := by
  unfold validate
  by_cases narrow : settings.queueCapacity = some 0
  · simp [narrow]
  · by_cases instant : settings.defaultTimeoutMs = some 0
    · simp [narrow, instant]
    · simp [narrow, instant]

theorem timed_valid_iff :
    (settings.withDefaultTimeout timeout).validate = .ok () ↔
      settings.queueCapacity ≠ some 0 ∧ timeout ≠ Span.zero := by
  rw [validate_iff]
  change settings.queueCapacity ≠ some 0 ∧ some (keptMillis timeout) ≠ some 0 ↔ _
  rw [Ne, Ne, Option.some.injEq, kept_zero]

end DefaultTimeout

theorem default_timeout_rounded_up (settings : Settings) (timeout : Span) :
    ∃ least millis effective,
      IsLeast {count | timeout.CoveredBy count} least ∧
      (settings.withDefaultTimeout timeout).defaultTimeoutMs = some millis ∧
      (settings.withDefaultTimeout timeout).defaultTimeout = some effective ∧
      millis = (if least < Number.bound64 then least else Number.bound64 - 1) ∧
      (least < Number.bound64 →
        timeout ≤ effective ∧ effective.nanos < timeout.nanos + 1000000) ∧
      (Number.bound64 ≤ least → effective < timeout) ∧
      (∀ count < Number.bound64, timeout.nanos = count * 1000000 →
        millis = count ∧ effective = timeout) ∧
      (∀ longer, timeout ≤ longer → ∃ more later,
        (settings.withDefaultTimeout longer).defaultTimeoutMs = some more ∧
        (settings.withDefaultTimeout longer).defaultTimeout = some later ∧
        millis ≤ more ∧ effective ≤ later) ∧
      ((settings.withDefaultTimeout timeout).validate = .ok () ↔
        settings.queueCapacity ≠ some 0 ∧ timeout ≠ Span.zero) := by
  refine ⟨timeout.millisUp, keptMillis timeout, Span.ofMillis (keptMillis timeout),
    timeout.millis_up_least, rfl, rfl, ?stored, kept_close timeout, kept_shorter timeout,
    kept_whole timeout, ?monotone, timed_valid_iff settings timeout⟩
  case stored =>
    by_cases fits : timeout.millisUp < Number.bound64
    · rw [if_pos fits, kept_fitting timeout fits]
    · rw [if_neg fits, kept_saturated timeout (Nat.not_lt.mp fits)]
  case monotone =>
    intro longer order
    obtain ⟨more, later⟩ := kept_monotone timeout longer order
    exact ⟨_, _, rfl, rfl, more, later⟩

theorem odd_timeouts_kept :
    (∃ effective, (default.withDefaultTimeout (Span.ofNanos 1500000)).defaultTimeout =
      some effective ∧ Span.ofNanos 1500000 ≤ effective ∧ effective.nanos < 2500000) ∧
      (default.withDefaultTimeout (Span.ofNanos 1500000)).validate = .ok () ∧
      ∃ effective, (default.withDefaultTimeout Span.longest).defaultTimeout = some effective ∧
        Span.ofNanos 1500000 ≤ effective ∧ effective < Span.longest := by
  obtain ⟨least, _, effective, isLeast, _, kept, _, close, _, _, onward, valid⟩ :=
    default_timeout_rounded_up default (Span.ofNanos 1500000)
  obtain ⟨most, _, _, isMost, _, cut, _, _, shorter, _, _, _⟩ :=
    default_timeout_rounded_up default Span.longest
  have small : least ≤ 2 := isLeast.2 (by unfold Span.CoveredBy; decide)
  have enough : 18446744073709551616000000000 - 1 ≤ most * 1000000 := isMost.1
  have fits : least < Number.bound64 := Nat.lt_of_le_of_lt small (by decide)
  have large : Number.bound64 ≤ most := by
    unfold Number.bound64
    omega
  obtain ⟨above, below⟩ := close fits
  obtain ⟨_, later, _, same, _, order⟩ := onward Span.longest (by decide)
  rw [cut, Option.some.injEq] at same
  subst same
  exact ⟨⟨effective, kept, above, below⟩, valid.mpr (by decide), _, cut,
    Nat.le_trans above order, shorter large⟩

end Settings

end Foreman
