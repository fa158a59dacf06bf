import Foreman.Json.Access
import Foreman.Metrics
import Foreman.Proofs.Json.Members

set_option autoImplicit false

namespace Foreman

namespace Metrics

def executions (metrics : Metrics) (reference : String) : Nat :=
  (Json.member? reference metrics.executed.counts).getD 0

-- The three maps have one list of references.
structure Ordered (metrics : Metrics) : Prop where
  ascending : (metrics.executed.counts.map Prod.fst).Pairwise (· < ·)
  means : metrics.executed.means.map Prod.fst = metrics.executed.counts.map Prod.fst
  lastEnds : metrics.executed.lastEnds.map Prod.fst = metrics.executed.counts.map Prod.fst
  positive : ∀ entry ∈ metrics.executed.counts, 0 < entry.2

def keys (metrics : Metrics) (name : String) : List String :=
  (Json.Access.membersAt metrics.toJson name).map Prod.fst

section Finished

variable (metrics : Metrics) (state : TaskState)

theorem finished_in_added (other : TaskState) (finished : List (TaskState × Nat)) :
    (((addFinished state finished).find? fun entry => entry.1 == other).map Prod.snd).getD 0 =
      ((finished.find? fun entry => entry.1 == other).map Prod.snd).getD 0 +
        if state = other then 1 else 0 := by
  induction finished with
  | nil =>
      by_cases same : state = other <;> simp [addFinished, same]
  | cons entry rest ih =>
      obtain ⟨held, count⟩ := entry
      by_cases here : held = state
      · subst here
        by_cases same : held = other <;> simp [addFinished, same]
      · by_cases found : held = other
        · subst found
          simp [addFinished, here, Ne.symm here]
        · simpa [addFinished, here, found] using ih

theorem transition_kept (previous next : TaskState) :
    (metrics.recordTransition previous next).submitted = metrics.submitted ∧
      (metrics.recordTransition previous next).executed = metrics.executed := by
  cases previous <;> cases next <;> exact ⟨rfl, rfl⟩

theorem transition_finished (previous next : TaskState) (terminal : state.isTerminal = true) :
    (metrics.recordTransition previous next).finishedIn state =
      metrics.finishedIn state + if next = state then 1 else 0 := by
  have left : (metrics.leave previous).finished = metrics.finished := by
    cases previous <;> rfl
  by_cases ended : next.isTerminal = true
  · have added := finished_in_added next state metrics.finished
    rw [recordTransition, enter, if_pos ended, left]
    exact added
  · have other : next ≠ state := fun same => ended (same ▸ terminal)
    rw [if_neg other, recordTransition]
    cases next <;> simp_all [enter, finishedIn, TaskState.isTerminal]

theorem rejection_finished :
    metrics.recordRejection.finishedIn state =
      metrics.finishedIn state + if TaskState.failed = state then 1 else 0 :=
  finished_in_added .failed state metrics.finished

end Finished

section Executed

variable (metrics : Metrics) (reference : String) (duration : Span) (now : Instant)

theorem execution_counted (other : String) :
    (metrics.recordExecution reference duration now).executions other =
      metrics.executions other + if reference = other then 1 else 0 := by
  have counted := Json.member_put reference
    ((Json.member? reference metrics.executed.counts).getD 0 + 1) other metrics.executed.counts
  rw [executions, recordExecution, counted, executions]
  by_cases same : reference = other
  · subst same
    simp
  · simp [same, Ne.symm same]

theorem ordered_zero : Metrics.zero.Ordered :=
  ⟨List.Pairwise.nil, rfl, rfl, fun _ member => by cases member⟩

theorem ordered_same (next : Metrics) (ordered : metrics.Ordered)
    (executed : next.executed = metrics.executed) : next.Ordered :=
  ⟨executed ▸ ordered.ascending, executed ▸ ordered.means, executed ▸ ordered.lastEnds,
    executed ▸ ordered.positive⟩

theorem executions_same (next : Metrics) (executed : next.executed = metrics.executed)
    (reference : String) : next.executions reference = metrics.executions reference := by
  rw [executions, executed, executions]

theorem execution_ordered (ordered : metrics.Ordered) :
    (metrics.recordExecution reference duration now).Ordered := by
  refine ⟨Json.put_ascending _ _ _ ordered.ascending, Json.put_alike _ _ _ _ _ ordered.means,
    Json.put_alike _ _ _ _ _ ordered.lastEnds, fun entry member => ?_⟩
  rcases Json.put_member _ _ _ entry member with rfl | before
  · exact Nat.succ_pos _
  · exact ordered.positive entry before

end Executed

section Shown

variable (metrics : Metrics) (ordered : metrics.Ordered)

include ordered

theorem shown_names {α : Type} (encode : α → Json) (entries : List (String × α))
    (alike : entries.map Prod.fst = metrics.executed.counts.map Prod.fst) :
    (Json.Access.asMembers (membersOf encode entries)).map Prod.fst =
      metrics.executed.counts.map Prod.fst := by
  have names : (entries.map fun entry => (entry.1, encode entry.2)).map Prod.fst =
      metrics.executed.counts.map Prod.fst := by
    rw [List.map_map]
    exact alike
  have shown := Json.of_members_ascending (entries.map fun entry => (entry.1, encode entry.2))
    (by rw [names]; exact ordered.ascending)
  rw [membersOf, shown, Json.Access.asMembers, names]

theorem keys_executed (name : String)
    (listed : name ∈ ["tasks_executed", "avg_task_duration", "last_run"]) :
    metrics.keys name = metrics.executed.counts.map Prod.fst := by
  simp only [List.mem_cons, List.not_mem_nil, or_false] at listed
  rcases listed with rfl | rfl | rfl
  · exact shown_names metrics ordered (fun count : Nat => .int count) _ rfl
  · exact shown_names metrics ordered Span.toJson _ ordered.means
  · exact shown_names metrics ordered Instant.toJson _ ordered.lastEnds

theorem executed_reference (reference : String) :
    reference ∈ metrics.executed.counts.map Prod.fst ↔ 0 < metrics.executions reference := by
  cases found : Json.member? reference metrics.executed.counts with
  | none =>
      have absent := (Json.member_missing reference metrics.executed.counts).mp found
      simpa [executions, found] using absent
  | some count =>
      have member := Json.member_found reference count _ found
      have counted := ordered.positive _ member
      simp only [executions, found, Option.getD_some, counted, iff_true]
      exact List.mem_map_of_mem member

end Shown

end Metrics

end Foreman
