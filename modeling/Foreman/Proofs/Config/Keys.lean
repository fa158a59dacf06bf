import Foreman.Config.Environment
import Mathlib.Logic.Function.Basic

set_option autoImplicit false

namespace Foreman

inductive Setting where
  | workers
  | timeout
  | capacity
  | events
  | log
deriving DecidableEq

namespace Setting

def key : Setting → String
  | .workers => "SCHEDULER_WORKER_POOL_SIZE"
  | .timeout => "SCHEDULER_DEFAULT_TIMEOUT_MS"
  | .capacity => "SCHEDULER_QUEUE_CAPACITY"
  | .events => "SCHEDULER_EVENT_CAPACITY"
  | .log => "LOG_FORMAT"

def all : List Setting := [.workers, .timeout, .capacity, .events, .log]

theorem key_injective (setting other : Setting) (same : setting.key = other.key) :
    setting = other := by
  cases setting <;> cases other <;> first | rfl | exact absurd same (by decide)

-- No key ends in another one with an underscore before it, so no profile leads from key to key.
theorem key_unprofiled (profile : String) (setting other : Setting) :
    profile ++ "_" ++ setting.key ≠ other.key := by
  have apart : all.all fun other => all.all fun setting =>
      !('_' :: setting.key.toList).isSuffixOf other.key.toList := by decide +kernel
  have listed : ∀ setting : Setting, setting ∈ all := by
    intro setting
    cases setting <;> decide
  have none := List.all_eq_true.mp (List.all_eq_true.mp apart other (listed other)) setting
    (listed setting)
  intro same
  have ending : ('_' :: setting.key.toList) <:+ other.key.toList := by
    rw [← same, String.append_assoc, String.toList_append, String.toList_append]
    exact List.suffix_append _ _
  rw [List.isSuffixOf_iff_suffix.mpr ending] at none
  cases none

end Setting

namespace Environment

inductive Prevails (lookup : Lookup) (profile key : String) : String → Prop where
  | own (value : String) (named : profile ≠ "")
      (found : lookup (profile ++ "_" ++ key) = some value) (filled : value ≠ "") :
      Prevails lookup profile key value
  | plain (value : String)
      (unowned : profile ≠ "" → ∀ own, lookup (profile ++ "_" ++ key) = some own → own = "")
      (found : lookup key = some value) (filled : value ≠ "") :
      Prevails lookup profile key value

inductive Given {β : Type} (lookup : Lookup) (profile key : String) (default : β)
    (reads : String → β → Prop) : β → Prop where
  | absent (silent : ∀ raw, ¬ Prevails lookup profile key raw) :
      Given lookup profile key default reads default
  | said (raw : String) (value : β) (prevails : Prevails lookup profile key raw)
      (read : reads raw value) : Given lookup profile key default reads value

section Effective

variable (lookup : Lookup) (profile key : String)

theorem present_iff (value : String) :
    present lookup key = some value ↔ lookup key = some value ∧ value ≠ "" := by
  simp [present, Option.filter_eq_some_iff]

theorem effective_iff (value : String) :
    effective lookup profile key = some value ↔ Prevails lookup profile key value := by
  by_cases named : profile = ""
  · rw [effective, if_pos (String.isEmpty_iff.mpr named), present_iff]
    constructor
    · intro given
      exact .plain value (fun other => absurd named other) given.1 given.2
    · intro prevails
      cases prevails with
      | own other _ _ => exact absurd named other
      | plain _ found filled => exact ⟨found, filled⟩
  · rw [effective, if_neg (by rwa [String.isEmpty_iff])]
    cases own : present lookup (profile ++ "_" ++ key) with
    | some held =>
        obtain ⟨found, filled⟩ := (present_iff lookup _ held).mp own
        rw [Option.some_or, Option.some.injEq]
        constructor
        · intro same
          exact same ▸ .own held named found filled
        · intro prevails
          cases prevails with
          | own _ other _ => exact Option.some.inj (found.symm.trans other)
          | plain unowned _ _ => exact absurd (unowned named held found) filled
    | none =>
        rw [Option.none_or, present_iff]
        constructor
        · intro given
          refine .plain value (fun _ held found => ?_) given.1 given.2
          by_contra filled
          rw [(present_iff lookup _ held).mpr ⟨found, filled⟩] at own
          cases own
        · intro prevails
          cases prevails with
          | own _ found filled =>
              rw [(present_iff lookup _ value).mpr ⟨found, filled⟩] at own
              cases own
          | plain _ found filled => exact ⟨found, filled⟩

theorem prevails_unique (raw other : String) (prevails : Prevails lookup profile key raw)
    (likewise : Prevails lookup profile key other) : raw = other :=
  Option.some.inj (((effective_iff lookup profile key raw).mpr prevails).symm.trans
    ((effective_iff lookup profile key other).mpr likewise))

end Effective

section Consult

variable {β : Type} (lookup : Lookup) (profile key : String) (default : β)
  (read : String → Except EnvironmentError β)

def consult : Except EnvironmentError β :=
  match effective lookup profile key with
  | none => .ok default
  | some raw => read raw

theorem consult_silent (silent : ∀ raw, ¬ Prevails lookup profile key raw) :
    consult lookup profile key default read = .ok default := by
  have absent : effective lookup profile key = none := by
    rw [Option.eq_none_iff_forall_ne_some]
    exact fun raw => mt (effective_iff lookup profile key raw).mp (silent raw)
  rw [consult, absent]

theorem consult_said (raw : String) (prevails : Prevails lookup profile key raw) :
    consult lookup profile key default read = read raw := by
  rw [consult, (effective_iff lookup profile key raw).mpr prevails]

theorem consult_iff (answer : Except EnvironmentError β) :
    consult lookup profile key default read = answer ↔
      ((∀ raw, ¬ Prevails lookup profile key raw) ∧ answer = .ok default) ∨
        ∃ raw, Prevails lookup profile key raw ∧ read raw = answer := by
  by_cases silent : ∀ raw, ¬ Prevails lookup profile key raw
  · rw [consult_silent lookup profile key default read silent]
    constructor
    · intro same
      exact .inl ⟨silent, same.symm⟩
    · intro ways
      rcases ways with ⟨_, same⟩ | ⟨raw, prevails, _⟩
      · exact same.symm
      · exact absurd prevails (silent raw)
  · obtain ⟨raw, prevails⟩ := not_forall_not.mp silent
    rw [consult_said lookup profile key default read raw prevails]
    constructor
    · intro same
      exact .inr ⟨raw, prevails, same⟩
    · intro ways
      rcases ways with ⟨absent, _⟩ | ⟨other, likewise, same⟩
      · exact absurd absent silent
      · rw [prevails_unique lookup profile key raw other prevails likewise]
        exact same

theorem consult_ok_iff (reads : String → β → Prop)
    (reading : ∀ raw value, read raw = .ok value ↔ reads raw value) (value : β) :
    consult lookup profile key default read = .ok value ↔
      Given lookup profile key default reads value := by
  rw [consult_iff]
  constructor
  · intro ways
    rcases ways with ⟨silent, same⟩ | ⟨raw, prevails, own⟩
    · cases same
      exact .absent silent
    · exact .said raw value prevails ((reading raw value).mp own)
  · intro given
    cases given with
    | absent silent => exact .inl ⟨silent, rfl⟩
    | said raw _ prevails own => exact .inr ⟨raw, prevails, (reading raw value).mpr own⟩

theorem consult_error_iff (error : EnvironmentError) :
    consult lookup profile key default read = .error error ↔
      ∃ raw, Prevails lookup profile key raw ∧ read raw = .error error := by
  simp [consult_iff]

end Consult

section Agreement

variable (lookup other : Lookup)

theorem effective_agrees (profile key : String) (plain : other key = lookup key)
    (own : profile ≠ "" → other (profile ++ "_" ++ key) = lookup (profile ++ "_" ++ key)) :
    effective other profile key = effective lookup profile key := by
  by_cases named : profile = ""
  · rw [effective, effective, if_pos (String.isEmpty_iff.mpr named),
      if_pos (String.isEmpty_iff.mpr named), present, present, plain]
  · rw [effective, effective, present, present, present, present, plain, own named]

theorem shadowed_agrees (profile : String) (setting : Setting) (own : String) (named : profile ≠ "")
    (found : lookup (profile ++ "_" ++ setting.key) = some own) (filled : own ≠ "")
    (raw : Option String) (asked : Setting) :
    effective (Function.update lookup setting.key raw) profile asked.key =
      effective lookup profile asked.key := by
  have kept : ∀ asked : Setting, Function.update lookup setting.key raw
      (profile ++ "_" ++ asked.key) = lookup (profile ++ "_" ++ asked.key) := fun asked =>
    Function.update_of_ne (Setting.key_unprofiled profile asked setting) _ _
  by_cases same : asked = setting
  · have answer (lookup : Lookup) (found : lookup (profile ++ "_" ++ setting.key) = some own) :
        effective lookup profile setting.key = some own :=
      (effective_iff lookup profile setting.key own).mpr (.own own named found filled)
    rw [same, answer lookup found, answer _ ((kept setting).trans found)]
  · refine effective_agrees lookup _ profile asked.key ?_ fun _ => kept asked
    exact Function.update_of_ne (fun equal => same (Setting.key_injective _ _ equal)) _ _

end Agreement

end Environment

end Foreman
