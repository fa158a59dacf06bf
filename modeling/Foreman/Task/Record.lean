import Foreman.Task.Outcome
import Foreman.Task.Request

set_option autoImplicit false

namespace Foreman

/-- The kind is absent if the reference never resolved. -/
structure TaskRecord where
  id : TaskId
  reference : String
  kind : Option Kind
  state : TaskState
  outcome : Option Outcome
  submittedAt : Timestamp
  startedAt : Option Timestamp
  finishedAt : Option Timestamp
deriving Inhabited

namespace TaskRecord

def pending (assignment : Assignment) : TaskRecord where
  id := assignment.id
  reference := assignment.reference
  kind := some assignment.kind
  state := .pending
  outcome := none
  submittedAt := assignment.submittedAt
  startedAt := none
  finishedAt := none

def unresolved (id : TaskId) (reference : String) (failure : Failure) (now : Instant) :
    TaskRecord where
  id := id
  reference := reference
  kind := none
  state := .failed
  outcome := some (.failure failure)
  submittedAt := now
  startedAt := none
  finishedAt := some now

def duration (record : TaskRecord) : Option Span := do
  let started ← record.startedAt
  let finished ← record.finishedAt
  finished.since started

def moved (record : TaskRecord) (next : TaskState) (outcome : Option Outcome) (now : Instant) :
    TaskRecord :=
  { record with
    state := next
    startedAt := if next = .running then some now else record.startedAt
    finishedAt := if next.isTerminal then some now else record.finishedAt
    outcome := record.outcome.or outcome }

def toJson (record : TaskRecord) : Json :=
  .object
    [("finished_at", Json.ofOption Timestamp.toJson record.finishedAt),
     ("id", record.id.toJson),
     ("kind", Json.ofOption Kind.toJson record.kind),
     ("outcome", Json.ofOption Outcome.toJson record.outcome),
     ("reference", .text record.reference),
     ("started_at", Json.ofOption Timestamp.toJson record.startedAt),
     ("state", record.state.toJson),
     ("submitted_at", record.submittedAt.toJson)]

def ofMembers (members : List (String × Json)) : Decoded TaskRecord := do
  let finishedAt := Json.field members "finished_at" (Json.toNullable Timestamp.ofJson)
  let id := Json.field members "id" TaskId.ofJson
  let kind := Json.field members "kind" (Json.toNullable Kind.ofJson)
  let outcome := Json.field members "outcome" (Json.toNullable Outcome.ofJson)
  let reference := Json.field members "reference" Json.toText
  let startedAt := Json.field members "started_at" (Json.toNullable Timestamp.ofJson)
  let state := Json.field members "state" TaskState.ofJson
  let submittedAt := Json.field members "submitted_at" Timestamp.ofJson
  Json.checked finishedAt
  Json.checked id
  Json.checked kind
  Json.checked outcome
  Json.checked reference
  Json.checked startedAt
  Json.checked state
  Json.checked submittedAt
  return {
    id := ← Json.required "id" id
    reference := ← Json.required "reference" reference
    kind := ← Json.defaulted none kind
    state := ← Json.required "state" state
    outcome := ← Json.defaulted none outcome
    submittedAt := ← Json.required "submitted_at" submittedAt
    startedAt := ← Json.defaulted none startedAt
    finishedAt := ← Json.defaulted none finishedAt }

def ofItems (items : List Json) : Decoded TaskRecord := do
  let expected := "struct TaskRecord with 8 elements"
  let id ← Json.element items 0 expected TaskId.ofJson
  let reference ← Json.element items 1 expected Json.toText
  let kind ← Json.element items 2 expected (Json.toNullable Kind.ofJson)
  let state ← Json.element items 3 expected TaskState.ofJson
  let outcome ← Json.element items 4 expected (Json.toNullable Outcome.ofJson)
  let submittedAt ← Json.element items 5 expected Timestamp.ofJson
  let startedAt ← Json.element items 6 expected (Json.toNullable Timestamp.ofJson)
  let finishedAt ← Json.element items 7 expected (Json.toNullable Timestamp.ofJson)
  Json.atMost items 8
  return ⟨id, reference, kind, state, outcome, submittedAt, startedAt, finishedAt⟩

def ofJson : Json → Decoded TaskRecord
  | .object members => ofMembers members
  | .array items => ofItems items
  | other => other.unexpected "struct TaskRecord"

end TaskRecord

end Foreman
