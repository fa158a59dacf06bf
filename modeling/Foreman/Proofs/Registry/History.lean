import Foreman.Proofs.Registry.Entries
import Foreman.Proofs.Text.Bytes
import Foreman.Task.Builtin

set_option autoImplicit false

namespace Foreman.Registry

variable {α : Type}

abbrev Log (α : Type) := List ((String × α) × Except ResolutionError Unit)

def add (registry : Registry α) (call : String × α) : Registry α × Except ResolutionError Unit :=
  match registry.register call.1 call.2 with
  | .ok next => (next, .ok ())
  | .error cause => (registry, .error cause)

def run (registry : Registry α) (calls : List (String × α)) : Registry α :=
  calls.foldl (fun registry call => (registry.add call).1) registry

def log (registry : Registry α) : List (String × α) → Log α
  | [] => []
  | call :: rest => (call, (registry.add call).2) :: (registry.add call).1.log rest

def accepted (log : Log α) : List (String × α) :=
  (log.filter fun entry => entry.2.isOk).map Prod.fst

section Add

variable (registry : Registry α) (call : String × α)

theorem add_cases :
    (∃ next, registry.register call.1 call.2 = .ok next ∧ registry.add call = (next, .ok ())) ∨
      ∃ cause, registry.register call.1 call.2 = .error cause ∧
        registry.add call = (registry, .error cause) := by
  rw [add]
  cases registry.register call.1 call.2 with
  | ok next => exact .inl ⟨next, rfl, rfl⟩
  | error cause => exact .inr ⟨cause, rfl, rfl⟩

theorem run_cons (rest : List (String × α)) :
    registry.run (call :: rest) = (registry.add call).1.run rest :=
  rfl

theorem accepted_registered (next : Registry α) (answer : registry.add call = (next, .ok ()))
    (rest : List (String × α)) :
    accepted (registry.log (call :: rest)) = call :: accepted (next.log rest) := by
  rw [log, answer]
  rfl

theorem accepted_refused (cause : ResolutionError) (answer : registry.add call = (registry, .error cause))
    (rest : List (String × α)) :
    accepted (registry.log (call :: rest)) = accepted (registry.log rest) := by
  rw [log, answer]
  rfl

theorem run_accepted (calls : List (String × α)) :
    registry.run (accepted (registry.log calls)) = registry.run calls := by
  induction calls generalizing registry with
  | nil => rfl
  | cons call rest ih =>
      rw [run_cons registry call rest]
      rcases registry.add_cases call with ⟨next, _, answer⟩ | ⟨cause, _, answer⟩
      · rw [accepted_registered registry call next answer, run_cons, answer]
        exact ih next
      · rw [accepted_refused registry call cause answer, answer]
        exact ih registry

end Add

-- The registry holds what was registered, by reference in ascending order.
structure Holds (made : List (String × α)) (registry : Registry α) : Prop where
  entries : registry.entries.Perm made
  ascending : registry.references.Pairwise (· < ·)
  parsed : ∀ call ∈ made, Reference.Parses call.1

section Holds

theorem holds_empty : Holds [] (empty : Registry α) :=
  ⟨.refl _, .nil, fun _ member => absurd member List.not_mem_nil⟩

variable (made : List (String × α)) (registry : Registry α)

theorem holds_distinct (holds : Holds made registry) : registry.references.Nodup :=
  holds.ascending.imp fun less => less.ne

theorem holds_references (holds : Holds made registry) (reference : String) :
    reference ∈ registry.references ↔ reference ∈ made.map Prod.fst :=
  (holds.entries.map Prod.fst).mem_iff

theorem holds_found (holds : Holds made registry) (reference : String) :
    registry.find? reference = firstUnder reference made :=
  first_perm reference registry.entries made holds.entries (holds_distinct made registry holds)

theorem holds_registered (holds : Holds made registry) (call : String × α) (next : Registry α)
    (registered : registry.register call.1 call.2 = .ok next) : Holds (made ++ [call]) next := by
  obtain ⟨parses, absent, rfl⟩ := (registry.register_iff call.1 call.2 next).mp registered
  refine ⟨?_, place_ascending call.1 call.2 registry.entries holds.ascending absent, ?_⟩
  · exact (place_perm _ _ _).trans ((holds.entries.cons _).trans (List.perm_append_singleton _ _).symm)
  · intro other member
    rcases List.mem_append.mp member with old | new
    · exact holds.parsed other old
    · rw [List.mem_singleton.mp new]
      exact parses

theorem holds_run (holds : Holds made registry) (calls : List (String × α)) :
    Holds (made ++ accepted (registry.log calls)) (registry.run calls) := by
  induction calls generalizing made registry with
  | nil =>
      change Holds (made ++ []) registry
      rw [List.append_nil]
      exact holds
  | cons call rest ih =>
      rw [run_cons registry call rest]
      rcases registry.add_cases call with ⟨next, registered, answer⟩ | ⟨cause, _, answer⟩
      · have later := ih _ next (holds_registered made registry holds call next registered)
        rw [List.append_assoc] at later
        rw [accepted_registered registry call next answer, answer]
        exact later
      · rw [accepted_refused registry call cause answer, answer]
        exact ih made registry holds

theorem holds_bytes (holds : Holds made registry) :
    registry.references.Pairwise fun a b => Text.bytes a < Text.bytes b :=
  holds.ascending.imp fun less => Text.bytes_ascend _ _ less

end Holds

section Opening

inductive Opening : Registry Callable → List (String × Callable) → Prop where
  | empty : Opening .empty []
  | builtin : Opening Builtin.registry Builtin.tasks

theorem register_all_holds (tasks made : List (String × Callable)) (registry : Registry Callable)
    (holds : Holds made registry) (parsed : ∀ task ∈ tasks, Reference.Parses task.1)
    (distinct : ((made ++ tasks).map Prod.fst).Nodup) :
    ∃ next, Builtin.registerAll tasks registry = (next, .ok ()) ∧ Holds (made ++ tasks) next := by
  induction tasks generalizing made registry with
  | nil => exact ⟨registry, rfl, by rwa [List.append_nil]⟩
  | cons task rest ih =>
      obtain ⟨own, others⟩ := List.forall_mem_cons.mp parsed
      have absent : task.1 ∉ registry.references := by
        rw [holds_references made registry holds]
        rw [List.map_append, List.map_cons] at distinct
        exact fun member => (List.nodup_append.mp distinct).2.2 _ member _ List.mem_cons_self rfl
      have registered := (registry.register_iff task.1 task.2 _).mpr ⟨own, absent, rfl⟩
      rw [List.append_cons] at distinct ⊢
      obtain ⟨next, done, after⟩ := ih _ _
        (holds_registered made registry holds task _ registered) others distinct
      refine ⟨next, ?_, after⟩
      rw [Builtin.registerAll]
      simp only [registered]
      exact done

theorem builtin_holds : Holds Builtin.tasks Builtin.registry := by
  have parsed : ∀ task ∈ Builtin.tasks, Reference.Parses task.1 := by
    have readable : Builtin.tasks.all fun task => (Reference.parse task.1).isOk := by decide +kernel
    intro task member
    have own := List.all_eq_true.mp readable task member
    cases read : Reference.parse task.1 with
    | ok parsed => exact ⟨parsed, read⟩
    | error cause =>
        rw [read] at own
        cases own
  obtain ⟨next, done, holds⟩ :=
    register_all_holds Builtin.tasks [] .empty holds_empty parsed (by decide +kernel)
  rw [Builtin.registry, Builtin.register, done]
  exact holds

theorem opening_holds (start : Registry Callable) (given : List (String × Callable))
    (opening : Opening start given) : Holds given start := by
  cases opening with
  | empty => exact holds_empty
  | builtin => exact builtin_holds

end Opening

theorem registrations_stand (start : Registry Callable) (given : List (String × Callable))
    (opening : Opening start given) (calls : List (String × Callable)) :
    let registry := start.run calls
    let made := given ++ accepted (start.log calls)
    ((made.map Prod.fst).Nodup ∧ ∀ reference callable,
      registry.resolve reference = .ok callable ↔ firstUnder reference made = some callable) ∧
    (∀ reference cause, registry.resolve reference = .error cause ↔
      (¬ Reference.Parses reference ∧ cause = .malformedReference reference) ∨
        (Reference.Parses reference ∧ reference ∉ made.map Prod.fst ∧
          cause = .notFound reference)) ∧
    (∀ reference callable cause, registry.register reference callable = .error cause ↔
      (¬ Reference.Parses reference ∧ cause = .malformedReference reference) ∨
        (Reference.Parses reference ∧ reference ∈ made.map Prod.fst ∧
          cause = .duplicate reference)) ∧
    ((∀ call cause, (registry.add call).2 = .error cause → (registry.add call).1 = registry) ∧
      start.run (accepted (start.log calls)) = registry) ∧
    (registry.references.Pairwise fun a b => Text.bytes a < Text.bytes b) ∧
    (∀ reference, reference ∈ registry.references ↔ reference ∈ made.map Prod.fst) ∧
    registry.size = registry.references.length := by
  intro registry made
  have holds : Holds made registry := holds_run given start (opening_holds start given opening) calls
  have found := holds_found made registry holds
  have known := holds_references made registry holds
  refine ⟨⟨?_, fun reference callable => ?_⟩, fun reference cause => ?_,
    fun reference callable cause => ?_, ⟨fun call cause refused => ?_, start.run_accepted calls⟩,
    holds_bytes made registry holds, known, (List.length_map _).symm⟩
  · exact (holds.entries.map Prod.fst).nodup_iff.mp (holds_distinct made registry holds)
  · rw [registry.resolve_iff, found, and_iff_right_iff_imp]
    intro first
    exact holds.parsed _ (first_member reference made callable first)
  · rw [registry.resolve_refused_iff, known]
  · rw [registry.register_refused_iff, known]
  · rcases registry.add_cases call with ⟨next, _, answer⟩ | ⟨own, _, answer⟩
    · rw [answer] at refused
      cases refused
    · rw [answer]

def latecomers : List (String × Callable) :=
  [("jobs:tick", .always .async Builtin.pause), ("builtin:echo", .always .sync Builtin.fail),
    ("jobs", .always .sync Builtin.echo), ("jobs:tick", .always .sync Builtin.fail),
    ("été:midi", .always .sync Builtin.echo)]

theorem latecomers_stand :
    Opening Builtin.registry Builtin.tasks ∧
      let registry := Builtin.registry.run latecomers
      registry.resolve "jobs:tick" = .ok (.always .async Builtin.pause) ∧
        registry.resolve "builtin:echo" = .ok (.always .sync Builtin.echo) ∧
        registry.resolve "jobs" = .error (.malformedReference "jobs") ∧
        registry.resolve "jobs:tock" = .error (.notFound "jobs:tock") ∧
        registry.register "jobs:tick" (.always .sync Builtin.fail) =
          .error (.duplicate "jobs:tick") ∧
        (registry.add ("jobs", .always .sync Builtin.fail)).1 = registry ∧
        (registry.references.Pairwise fun a b => Text.bytes a < Text.bytes b) ∧
        "été:midi" ∈ registry.references ∧ registry.references.length = 6 := by
  refine ⟨.builtin, ?_⟩
  intro registry
  have names : ((Builtin.tasks ++ accepted (Builtin.registry.log latecomers)).map Prod.fst) =
      ["builtin:echo", "builtin:sleep", "builtin:block", "builtin:fail", "jobs:tick", "été:midi"] := by
    decide +kernel
  obtain ⟨⟨_, resolved⟩, unresolved, refused, ⟨kept, _⟩, ascending, listed, _⟩ :=
    registrations_stand Builtin.registry Builtin.tasks .builtin latecomers
  have ill : ¬ Reference.Parses "jobs" :=
    ((Reference.parse_malformed "jobs" (.malformedReference "jobs")).mp (by decide +kernel)).1
  have tick : Reference.Parses "jobs:tick" := ⟨⟨"jobs".toList, "tick".toList⟩, by decide +kernel⟩
  have tock : Reference.Parses "jobs:tock" := ⟨⟨"jobs".toList, "tock".toList⟩, by decide +kernel⟩
  refine ⟨(resolved _ _).mpr rfl, (resolved _ _).mpr rfl, (unresolved _ _).mpr (.inl ⟨ill, rfl⟩),
    (unresolved _ _).mpr (.inr ⟨tock, ?_, rfl⟩), (refused _ _ _).mpr (.inr ⟨tick, ?_, rfl⟩), ?_,
    ascending, (listed _).mpr ?_, by decide +kernel⟩
  · rw [names]
    decide
  · rw [names]
    decide
  · refine kept _ (.malformedReference "jobs") ?_
    rw [add, (refused "jobs" _ _).mpr (.inl ⟨ill, rfl⟩)]
  · rw [names]
    decide

end Foreman.Registry
