import Foreman.Proofs.Registry.Entries
import Foreman.Proofs.Workshop.Flow
import Foreman.Task.Builtin

set_option autoImplicit false

namespace Foreman

namespace Builtin

theorem register_all_member (added : List (String × Callable)) (registry : Registry Callable)
    (entry : String × Callable) (member : entry ∈ (registerAll added registry).1.entries) :
    entry ∈ added ∨ entry ∈ registry.entries := by
  induction added generalizing registry with
  | nil => exact .inr member
  | cons first rest ih =>
      rw [registerAll] at member
      split at member
      · rename_i next registered
        rcases ih next member with later | before
        · exact .inl (List.mem_cons_of_mem first later)
        · rcases registry.register_member _ _ next registered entry before with rfl | known
          · exact .inl List.mem_cons_self
          · exact .inr known
      · exact .inr member

theorem pause_flows (arguments : Arguments) : (pause arguments).Flows := by
  unfold pause
  cases millis arguments <;> exact trivial

theorem fail_flows (arguments : Arguments) : (fail arguments).Flows := by
  unfold fail
  generalize Except.bind _ _ = result
  cases result <;> exact trivial

theorem tasks_flow (entry : String × Callable) (member : entry ∈ tasks) : entry.2.Flows := by
  simp only [tasks, List.mem_cons, List.not_mem_nil, or_false] at member
  rcases member with rfl | rfl | rfl | rfl
  · exact fun _ _ => trivial
  · exact fun _ arguments => pause_flows arguments
  · exact fun _ arguments => pause_flows arguments
  · exact fun _ arguments => fail_flows arguments

theorem registry_flows (reference : String) (callable : Callable)
    (resolved : registry.resolve reference = .ok callable) : callable.Flows := by
  have member := registry.resolve_member reference callable resolved
  rcases register_all_member tasks Registry.empty _ member with known | none
  · exact tasks_flow _ known
  · cases none

end Builtin

end Foreman
