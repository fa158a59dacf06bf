import Foreman.Config.Settings
import Foreman.Proofs.Task.IdText
import Foreman.Proofs.Time.Stamp
import Foreman.Task.Record

set_option autoImplicit false

namespace Foreman

def Json.Restores {α : Type} (encode : α → Json) (decode : Json → Decoded α) : Prop :=
  ∀ value, decode (encode value) = .ok value

-- A null stands for an absent value, so the encoder must not write one for a value that is there.
theorem Json.nullable_restores {α : Type} (encode : α → Json) (decode : Json → Decoded α)
    (restores : Restores encode decode) (present : ∀ value, encode value ≠ .null) :
    Restores (ofOption encode) (toNullable decode) := by
  intro value
  cases value with
  | none => rfl
  | some value =>
      have same := restores value
      have shown := present value
      rw [ofOption]
      cases written : encode value with
      | null => exact absurd written shown
      | _ =>
          rw [written] at same
          rw [toNullable, same]
          · rfl
          · exact Json.noConfusion

theorem Timestamp.json_restores : Json.Restores Timestamp.toJson Timestamp.ofJson := by
  intro stamp
  simp only [Timestamp.toJson, Timestamp.ofJson, Stamp.read_write]

theorem TaskId.json_restores : Json.Restores TaskId.toJson TaskId.ofJson := by
  intro id
  simp only [TaskId.toJson, TaskId.ofJson, TaskId.parse_text]

theorem Kind.json_restores : Json.Restores Kind.toJson Kind.ofJson := by
  intro kind
  cases kind <;> rfl

theorem TaskState.json_restores : Json.Restores TaskState.toJson TaskState.ofJson := by
  intro state
  cases state <;> rfl

theorem Origin.json_restores : Json.Restores Origin.toJson Origin.ofJson := by
  intro origin
  cases origin <;> rfl

theorem Failure.json_restores : Json.Restores Failure.toJson Failure.ofJson := by
  intro failure
  obtain ⟨message, origin, time, detail⟩ := failure
  have times := Timestamp.json_restores time
  have origins := Origin.json_restores origin
  cases detail with
  | none =>
      simp only [toJson, ofJson, ofMembers, List.nil_append, Json.field, Json.member?, times,
        origins, String.reduceEq, ↓reduceIte, Option.map_some, Option.map_none]
      rfl
  | some detail =>
      simp only [toJson, ofJson, ofMembers, List.cons_append, List.nil_append, Json.field,
        Json.member?, times, origins, String.reduceEq, ↓reduceIte, Option.map_some]
      rfl

theorem Outcome.json_restores : Json.Restores Outcome.toJson Outcome.ofJson := by
  intro outcome
  cases outcome with
  | success value => rfl
  | failure reason =>
      have reasons := Failure.json_restores reason
      change (Failure.ofJson reason.toJson).map Outcome.failure = _
      rw [reasons]
      rfl

theorem TaskRecord.json_restores : Json.Restores TaskRecord.toJson TaskRecord.ofJson := by
  intro record
  have finished := Json.nullable_restores _ _ Timestamp.json_restores (fun _ => Json.noConfusion)
    record.finishedAt
  have ids := TaskId.json_restores record.id
  have kinds := Json.nullable_restores _ _ Kind.json_restores (fun _ => Json.noConfusion) record.kind
  have outcomes := Json.nullable_restores _ _ Outcome.json_restores
    (fun outcome => by cases outcome <;> exact Json.noConfusion) record.outcome
  have started := Json.nullable_restores _ _ Timestamp.json_restores (fun _ => Json.noConfusion)
    record.startedAt
  have states := TaskState.json_restores record.state
  have submitted := Timestamp.json_restores record.submittedAt
  simp only [toJson, ofJson, ofMembers, Json.field, Json.member?, finished, ids, kinds, outcomes,
    started, states, submitted, String.reduceEq, ↓reduceIte, Option.map_some]
  rfl

theorem Json.items_restore : Json.Restores Json.array (Json.toList .ok) := by
  intro items
  rw [toList]
  induction items with
  | nil => rfl
  | cons item rest before =>
      rw [List.mapM_cons, before]
      rfl

theorem Arguments.json_restores : Json.Restores Arguments.toJson Arguments.ofJson := by
  intro arguments
  have items := Json.items_restore arguments.positional
  simp only [toJson, ofJson, Json.field, Json.member?, items, String.reduceEq, ↓reduceIte,
    Option.map_some]
  rfl

structure Settings.Bounded (settings : Settings) : Prop where
  workers : settings.workers < Number.bound64
  timeout : ∀ millis, settings.defaultTimeoutMs = some millis → millis < Number.bound64
  capacity : ∀ capacity, settings.queueCapacity = some capacity → capacity < Number.bound64
  events : settings.eventCapacity < Number.bound64

theorem Json.natural_small (bound n : Nat) (type : String) (small : n < bound) :
    toNatural bound type (.int n) = .ok n := by
  have range : (0 : Int) ≤ n ∧ (n : Int) ≤ (bound : Int) - 1 := by omega
  rw [toNatural, toWhole, if_pos range]
  rfl

theorem Json.natural_bound (bound n value : Nat) (type : String)
    (decoded : toNatural bound type (.int n) = .ok value) : n < bound := by
  by_cases range : (0 : Int) ≤ n ∧ (n : Int) ≤ (bound : Int) - 1
  · omega
  · rw [toNatural, toWhole, if_neg range] at decoded
    cases decoded

theorem Json.nullable_small (bound : Nat) (type : String) (number : Option Nat)
    (small : ∀ n, number = some n → n < bound) :
    toNullable (toNatural bound type) (ofOption (fun n : Nat => .int n) number) = .ok number := by
  cases number with
  | none => rfl
  | some n =>
      change (toNatural bound type (.int n)).map some = _
      rw [natural_small bound n type (small n rfl)]
      rfl

theorem Json.nullable_bound (bound : Nat) (type : String) (number value : Option Nat)
    (decoded : toNullable (toNatural bound type) (ofOption (fun n : Nat => .int n) number) =
      .ok value) : ∀ n, number = some n → n < bound := by
  intro n present
  subst present
  change (toNatural bound type (.int n)).map some = _ at decoded
  cases found : toNatural bound type (.int n) with
  | error fault =>
      rw [found] at decoded
      cases decoded
  | ok read => exact natural_bound bound n read type found

theorem Json.checked_bind {α β : Type} (member : Decoded α) (next : Unit → Decoded β) (result : β)
    (decoded : (checked (some member) >>= next) = .ok result) :
    (∃ value, member = .ok value) ∧ next () = .ok result := by
  cases member with
  | error fault => cases decoded
  | ok value => exact ⟨⟨value, rfl⟩, decoded⟩

theorem Settings.json_restores_iff (settings : Settings) :
    ofJson settings.toJson = .ok settings ↔ settings.Bounded := by
  constructor
  · intro decoded
    simp only [toJson, ofJson, ofMembers, Json.field, Json.member?, String.reduceEq, ↓reduceIte,
      Option.map_some] at decoded
    obtain ⟨⟨_, timeout⟩, decoded⟩ := Json.checked_bind _ _ _ decoded
    obtain ⟨⟨_, events⟩, decoded⟩ := Json.checked_bind _ _ _ decoded
    obtain ⟨⟨_, capacity⟩, decoded⟩ := Json.checked_bind _ _ _ decoded
    obtain ⟨⟨_, workers⟩, _⟩ := Json.checked_bind _ _ _ decoded
    exact ⟨Json.natural_bound _ _ _ _ workers, Json.nullable_bound _ _ _ _ timeout,
      Json.nullable_bound _ _ _ _ capacity, Json.natural_bound _ _ _ _ events⟩
  · intro bounded
    have timeout : Json.toNullable Json.toMillis
        (Json.ofOption (fun millis : Nat => .int millis) settings.defaultTimeoutMs) =
          .ok settings.defaultTimeoutMs := Json.nullable_small _ _ _ bounded.timeout
    have events : Json.toSize (.int settings.eventCapacity) = .ok settings.eventCapacity :=
      Json.natural_small _ _ _ bounded.events
    have capacity : Json.toNullable Json.toSize
        (Json.ofOption (fun capacity : Nat => .int capacity) settings.queueCapacity) =
          .ok settings.queueCapacity := Json.nullable_small _ _ _ bounded.capacity
    have workers : Json.toSize (.int settings.workers) = .ok settings.workers :=
      Json.natural_small _ _ _ bounded.workers
    simp only [toJson, ofJson, ofMembers, Json.field, Json.member?, timeout, events, capacity,
      workers, String.reduceEq, ↓reduceIte, Option.map_some]
    rfl

theorem stored_data_restored :
    (∀ record : TaskRecord, TaskRecord.ofJson record.toJson = .ok record) ∧
      (∀ arguments : Arguments, Arguments.ofJson arguments.toJson = .ok arguments) ∧
      ∀ settings : Settings, Settings.ofJson settings.toJson = .ok settings ↔ settings.Bounded :=
  ⟨TaskRecord.json_restores, Arguments.json_restores, Settings.json_restores_iff⟩

end Foreman
