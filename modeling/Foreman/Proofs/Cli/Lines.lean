import Foreman.Cli.Run
import Foreman.Proofs.Json.Restoring

set_option autoImplicit false

namespace Foreman

open Json (Tree)

def Outcome.tree : Outcome → Tree
  | .success value => .object [("success", Json.tree value)]
  | .failure reason => .object [("failure", .object
      ([("message", .text reason.message), ("origin", .text reason.origin.name),
        ("occurred_at", .text (Stamp.write reason.occurredAt))] ++
        (reason.detail.map fun detail => ("detail", Tree.text detail)).toList))]

def Json.Tree.optional {α : Type} (encode : α → Json.Tree) (value : Option α) : Json.Tree :=
  (value.map encode).getD .null

namespace TaskRecord

def tree (record : TaskRecord) : Tree :=
  let stamp (time : Timestamp) : Tree := .text (Stamp.write time)
  .object
    [("id", .text record.id.text), ("reference", .text record.reference),
     ("kind", Tree.optional (fun kind => .text kind.name) record.kind),
     ("state", .text record.state.name), ("outcome", Tree.optional Outcome.tree record.outcome),
     ("submitted_at", stamp record.submittedAt),
     ("started_at", Tree.optional stamp record.startedAt),
     ("finished_at", Tree.optional stamp record.finishedAt)]

-- The value of a task may be nested too deep to be read back, or hold a float that reads otherwise.
def Legible (record : TaskRecord) : Prop :=
  ∀ value, record.outcome = some (.success value) →
    (Json.tree value).depth ≤ 125 ∧ (Json.tree value).value? = some value

structure Tells (record : TaskRecord) (line : String) : Prop where
  unbroken : ∀ c ∈ line.toList, 0x20 ≤ c.toNat
  spelled : record.tree.Spells line.toList
  legible : record.Legible → Json.read line = .ok record.toJson

end TaskRecord

namespace Cli

theorem optional_tree {α : Type} (encode : α → Json) (written : α → Tree)
    (same : ∀ item, Json.tree (encode item) = written item) (value : Option α) :
    Json.tree (Json.ofOption encode value) = Tree.optional written value := by
  cases value with
  | none => rfl
  | some item => exact same item

theorem outcome_tree (outcome : Outcome) : Json.tree (outcomeLine outcome) = outcome.tree := by
  rcases outcome with value | ⟨message, origin, occurredAt, _ | detail⟩ <;> rfl

variable (record : TaskRecord)

theorem line_spells :
    record.tree.Spells (recordLine record).toList ∧ Json.Shown (recordLine record).toList := by
  have kind := optional_tree Kind.toJson (fun kind => .text kind.name) (fun _ => rfl) record.kind
  have outcome := optional_tree outcomeLine Outcome.tree outcome_tree record.outcome
  have stamp := optional_tree Timestamp.toJson (fun time => .text (Stamp.write time)) fun _ => rfl
  have written := Json.write_spells (.object
    [("id", record.id.toJson), ("reference", .text record.reference),
     ("kind", Json.ofOption Kind.toJson record.kind), ("state", record.state.toJson),
     ("outcome", Json.ofOption outcomeLine record.outcome),
     ("submitted_at", record.submittedAt.toJson),
     ("started_at", Json.ofOption Timestamp.toJson record.startedAt),
     ("finished_at", Json.ofOption Timestamp.toJson record.finishedAt)])
  simp only [Json.tree, Json.memberTrees, kind, outcome, stamp] at written
  exact written

section Values

theorem optional_value {α : Type} (encode : α → Json) (written : α → Tree) (value : Option α)
    (same : ∀ item, value = some item → (written item).value? = some (encode item)) :
    (Tree.optional written value).value? = some (Json.ofOption encode value) := by
  cases value with
  | none => rfl
  | some item => exact same item rfl

theorem ordered_failure (message origin occurredAt : Json) :
    Json.ofMembers [("message", message), ("origin", origin), ("occurred_at", occurredAt)] =
      .object [("message", message), ("occurred_at", occurredAt), ("origin", origin)] := by
  simp only [Json.ofMembers, List.foldl_cons, List.foldl_nil, Json.put, String.reduceEq,
    String.reduceLT, reduceIte]

theorem ordered_detailed (message origin occurredAt detail : Json) :
    Json.ofMembers
      [("message", message), ("origin", origin), ("occurred_at", occurredAt), ("detail", detail)] =
      .object
        [("detail", detail), ("message", message), ("occurred_at", occurredAt),
         ("origin", origin)] := by
  simp only [Json.ofMembers, List.foldl_cons, List.foldl_nil, Json.put, String.reduceEq,
    String.reduceLT, reduceIte]

theorem single_member (name : String) (value : Json) :
    Json.ofMembers [(name, value)] = .object [(name, value)] := rfl

theorem failure_value (failure : Failure) :
    (Outcome.tree (.failure failure)).value? = some (Outcome.toJson (.failure failure)) := by
  rcases failure with ⟨message, origin, occurredAt, _ | detail⟩
  case none =>
    simp only [Outcome.tree, Tree.value?, Tree.memberValues?, Option.map_none, Option.toList_none,
      List.append_nil, Option.map_some, ordered_failure, single_member]
    rfl
  case some =>
    simp only [Outcome.tree, Tree.value?, Tree.memberValues?, Option.map_some, Option.toList_some,
      List.cons_append, List.nil_append, ordered_detailed, single_member]
    rfl

theorem success_value (value : Json) (legible : (Json.tree value).value? = some value) :
    (Outcome.tree (.success value)).value? = some (Outcome.toJson (.success value)) := by
  simp only [Outcome.tree, Tree.value?, Tree.memberValues?, legible, Option.map_some, single_member]
  rfl

theorem ordered_members (id reference kind state outcome submitted started finished : Json) :
    Json.ofMembers
      [("id", id), ("reference", reference), ("kind", kind), ("state", state), ("outcome", outcome),
       ("submitted_at", submitted), ("started_at", started), ("finished_at", finished)] =
      .object
        [("finished_at", finished), ("id", id), ("kind", kind), ("outcome", outcome),
         ("reference", reference), ("started_at", started), ("state", state),
         ("submitted_at", submitted)] := by
  simp only [Json.ofMembers, List.foldl_cons, List.foldl_nil, Json.put, String.reduceEq,
    String.reduceLT, reduceIte]

theorem exact_legible (exact : ∀ value, record.outcome = some (.success value) →
    (Json.tree value).depth ≤ 125 ∧ value.Exact) : record.Legible := by
  intro value own
  obtain ⟨shallow, plain⟩ := exact value own
  exact ⟨shallow, Json.tree_value value plain⟩

variable (legible : record.Legible)

include legible

theorem record_value : record.tree.value? = some record.toJson := by
  have kind := optional_value Kind.toJson (fun kind => .text kind.name) record.kind fun _ _ => rfl
  have stamp (time : Option Timestamp) := optional_value Timestamp.toJson
    (fun time => .text (Stamp.write time)) time fun _ _ => rfl
  have outcome := optional_value Outcome.toJson Outcome.tree record.outcome fun outcome own => by
    cases outcome with
    | success value => exact success_value value (legible value own).2
    | failure reason => exact failure_value reason
  simp only [TaskRecord.tree, Tree.value?, Tree.memberValues?, kind, stamp, outcome, Option.map_some,
    ordered_members]
  rfl

theorem record_depth : record.tree.depth ≤ 127 := by
  have flat {α : Type} (encode : α → String) (value : Option α) :
      (Tree.optional (fun item => .text (encode item)) value).depth = 0 := by
    cases value <;> rfl
  have outcome : (Tree.optional Outcome.tree record.outcome).depth ≤ 126 := by
    cases own : record.outcome with
    | none => exact Nat.zero_le _
    | some outcome =>
        cases outcome with
        | success value =>
            have shallow := (legible value own).1
            simp only [Tree.optional, Option.map_some, Option.getD_some, Outcome.tree, Tree.depth,
              Tree.membersDepth]
            omega
        | failure reason =>
            rcases reason with ⟨message, origin, occurredAt, _ | detail⟩ <;>
              simp [Tree.optional, Outcome.tree, Tree.depth, Tree.membersDepth]
  simp only [TaskRecord.tree, Tree.depth, Tree.membersDepth, flat]
  omega

theorem line_read : Json.read (recordLine record) = .ok record.toJson :=
  (Json.read_iff _ _).mpr ⟨record.tree,
    ⟨[], _, [], by simp, Json.blank_nil, (line_spells record).1, Json.blank_nil⟩,
    record_depth record legible, record_value record legible⟩

end Values

theorem record_line_tells : record.Tells (recordLine record) :=
  ⟨(line_spells record).2, (line_spells record).1, line_read record⟩

end Cli

end Foreman
