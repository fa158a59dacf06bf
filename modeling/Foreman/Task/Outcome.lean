import Foreman.Task.Error
import Foreman.Task.State
import Foreman.Time.Codec

set_option autoImplicit false

namespace Foreman

structure Failure where
  message : String
  origin : Origin
  occurredAt : Timestamp
  detail : Option String
deriving DecidableEq, Inhabited

namespace Failure

def new (message : String) (origin : Origin) (now : Instant) : Failure :=
  ⟨message, origin, now, none⟩

def withDetail (failure : Failure) (detail : String) : Failure :=
  { failure with detail := some detail }

def text (failure : Failure) : String :=
  "[" ++ failure.origin.name ++ "] " ++ failure.message

def toJson (failure : Failure) : Json :=
  let detail := match failure.detail with
    | some detail => [("detail", Json.text detail)]
    | none => []
  .object (detail ++
    [("message", .text failure.message), ("occurred_at", failure.occurredAt.toJson),
     ("origin", failure.origin.toJson)])

def ofMembers (members : List (String × Json)) : Decoded Failure := do
  let detail := Json.field members "detail" (Json.toNullable Json.toText)
  let message := Json.field members "message" Json.toText
  let occurredAt := Json.field members "occurred_at" Timestamp.ofJson
  let origin := Json.field members "origin" Origin.ofJson
  Json.checked detail
  Json.checked message
  Json.checked occurredAt
  Json.checked origin
  return {
    message := ← Json.required "message" message
    origin := ← Json.required "origin" origin
    occurredAt := ← Json.required "occurred_at" occurredAt
    detail := ← Json.defaulted none detail }

def ofItems (items : List Json) : Decoded Failure := do
  let expected := "struct FailureRecord with 4 elements"
  let message ← Json.element items 0 expected Json.toText
  let origin ← Json.element items 1 expected Origin.ofJson
  let occurredAt ← Json.element items 2 expected Timestamp.ofJson
  let detail ← Json.elementOr items 3 none (Json.toNullable Json.toText)
  Json.atMost items 4
  return ⟨message, origin, occurredAt, detail⟩

def ofJson : Json → Decoded Failure
  | .object members => ofMembers members
  | .array items => ofItems items
  | other => other.unexpected "struct FailureRecord"

end Failure

inductive Outcome where
  | success (value : Json)
  | failure (reason : Failure)
deriving Inhabited

namespace Outcome

def isSuccess : Outcome → Bool
  | .success _ => true
  | .failure _ => false

def value? : Outcome → Option Json
  | .success value => some value
  | .failure _ => none

def failure? : Outcome → Option Failure
  | .success _ => none
  | .failure reason => some reason

def completion : Outcome → TaskState
  | .success _ => .succeeded
  | .failure _ => .failed

def toJson : Outcome → Json
  | .success value => .object [("success", value)]
  | .failure reason => .object [("failure", reason.toJson)]

def ofJson (json : Json) : Decoded Outcome := do
  let (name, content) ← json.toChoice
  if name ≠ "success" ∧ name ≠ "failure" then
    .error (.unknownVariant name ["success", "failure"])
  else
    match content with
    | none => .error (.invalidType "unit variant" "newtype variant")
    | some content =>
        if name = "success" then .ok (.success content)
        else (Failure.ofJson content).map .failure

end Outcome

inductive Ending where
  | value (value : Json)
  | error (reason : TaskError)
  | panic (message : Option String)
deriving Inhabited

def Ending.outcome (ending : Ending) (kind : Kind) (now : Instant) : Outcome :=
  match ending with
  | .value result => .success result
  | .error reason =>
      let failure := Failure.new reason.message kind.origin now
      match reason with
      | .chain outermost causes =>
          .failure (failure.withDetail (TaskError.report outermost causes))
      | _ => .failure failure
  | .panic message =>
      let text := "Task panicked: " ++ message.getD "unknown panic payload"
      .failure ((Failure.new text kind.origin now).withDetail "panic")

end Foreman
