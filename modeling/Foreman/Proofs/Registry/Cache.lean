import Foreman.Registry
import Mathlib.Data.List.Dedup

set_option autoImplicit false

namespace Foreman.ResolverCache

variable {α : Type}

structure Question (α : Type) where
  reference : String
  inner : String → Except ResolutionError α

abbrev Log (α : Type) := List (Question α × Except ResolutionError α)

def ask (cache : ResolverCache α) (question : Question α) :
    ResolverCache α × Except ResolutionError α :=
  cache.resolve question.inner question.reference

def run (cache : ResolverCache α) (questions : List (Question α)) : ResolverCache α :=
  questions.foldl (fun cache question => (cache.ask question).1) cache

def log (cache : ResolverCache α) : List (Question α) → Log α
  | [] => []
  | question :: rest => (question, (cache.ask question).2) :: (cache.ask question).1.log rest

def valueFor (reference : String) (entry : Question α × Except ResolutionError α) : Option α :=
  if entry.1.reference = reference then entry.2.toOption else none

def firstValue (reference : String) (log : Log α) : Option α :=
  log.findSome? (valueFor reference)

def resolved (log : Log α) : List String :=
  (log.filter fun entry => entry.2.isOk).map fun entry => entry.1.reference

def refusals (log : Log α) : Nat :=
  log.countP fun entry => !entry.2.isOk

theorem value_for_iff (reference : String) (entry : Question α × Except ResolutionError α)
    (value : α) :
    valueFor reference entry = some value ↔ entry.1.reference = reference ∧ entry.2 = .ok value := by
  by_cases same : entry.1.reference = reference
  · cases answer : entry.2 with
    | ok other => simp [valueFor, same, answer, Except.toOption]
    | error cause => simp [valueFor, same, answer, Except.toOption]
  · simp [valueFor, same]

section Resolve

variable (cache : ResolverCache α) (inner : String → Except ResolutionError α) (reference : String)

theorem resolve_known (value : α) (found : cache.find? reference = some value) :
    cache.resolve inner reference = (cache, .ok value) := by
  rw [resolve, found]

theorem resolve_new (unknown : cache.find? reference = none) (value : α)
    (answer : inner reference = .ok value) :
    cache.resolve inner reference =
      (⟨cache.known ++ [(reference, value)], cache.lookups + 1⟩, .ok value) := by
  rw [resolve, unknown]
  simp only [answer]

theorem resolve_refused (unknown : cache.find? reference = none) (cause : ResolutionError)
    (answer : inner reference = .error cause) :
    cache.resolve inner reference = ({ cache with lookups := cache.lookups + 1 }, .error cause) := by
  rw [resolve, unknown]
  simp only [answer]

theorem find_known :
    reference ∈ cache.known.map Prod.fst ↔ (cache.find? reference).isSome = true := by
  simp [find?]

theorem find_added (value : α) (lookups : Nat) (other : String) :
    find? ⟨cache.known ++ [(reference, value)], lookups⟩ other =
      (cache.find? other).or (if reference = other then some value else none) := by
  by_cases same : reference = other
  · cases found : cache.known.find? fun entry => entry.1 == other with
    | none => simp [find?, List.find?_append, found, same]
    | some entry => simp [find?, List.find?_append, found, same]
  · cases found : cache.known.find? fun entry => entry.1 == other with
    | none => simp [find?, List.find?_append, found, same]
    | some entry => simp [find?, List.find?_append, found, same]

theorem resolve_origin (other : String) (value : α)
    (known : (cache.resolve inner reference).1.find? other = some value) :
    cache.find? other = some value ∨ inner other = .ok value := by
  cases found : cache.find? reference with
  | some earlier =>
      rw [resolve_known cache inner reference earlier found] at known
      exact .inl known
  | none =>
      cases answer : inner reference with
      | error cause =>
          rw [resolve_refused cache inner reference found cause answer] at known
          exact .inl known
      | ok own =>
          rw [resolve_new cache inner reference found own answer, find_added,
            Option.or_eq_some_iff] at known
          rcases known with before | ⟨_, last⟩
          · exact .inl before
          · by_cases same : reference = other
            · rw [if_pos same, Option.some.injEq] at last
              exact .inr (by rw [← same, answer, last])
            · rw [if_neg same] at last
              cases last

theorem resolve_answer (value : α) (answered : (cache.resolve inner reference).2 = .ok value) :
    cache.find? reference = some value ∨ inner reference = .ok value := by
  cases found : cache.find? reference with
  | some earlier =>
      rw [resolve_known cache inner reference earlier found] at answered
      exact .inl (congrArg some (Except.ok.inj answered))
  | none =>
      cases answer : inner reference with
      | error cause =>
          rw [resolve_refused cache inner reference found cause answer] at answered
          cases answered
      | ok own =>
          rw [resolve_new cache inner reference found own answer] at answered
          exact .inr answered

end Resolve

section Recalls

-- The cache holds the first value for each reference, and has counted what it asked for.
structure Recalls (past : Log α) (cache : ResolverCache α) : Prop where
  first : ∀ reference, cache.find? reference = firstValue reference past
  distinct : (cache.known.map Prod.fst).Nodup
  counted : cache.lookups = cache.known.length + refusals past

theorem first_value_after (past : Log α) (reference : String)
    (entry : Question α × Except ResolutionError α) :
    firstValue reference (past ++ [entry]) =
      (firstValue reference past).or (valueFor reference entry) := by
  rw [firstValue, List.findSome?_append, List.findSome?_singleton]
  rfl

theorem refusals_after (past : Log α) (entry : Question α × Except ResolutionError α) :
    refusals (past ++ [entry]) = refusals past + if entry.2.isOk then 0 else 1 := by
  cases answer : entry.2.isOk with
  | true => simp [refusals, List.countP_append, answer]
  | false => simp [refusals, List.countP_append, answer]

theorem recalls_empty : Recalls [] (empty : ResolverCache α) :=
  ⟨fun _ => rfl, List.nodup_nil, rfl⟩

variable (past : Log α) (cache : ResolverCache α)

theorem recalls_ask (recalls : Recalls past cache) (question : Question α) :
    Recalls (past ++ [(question, (cache.ask question).2)]) (cache.ask question).1 := by
  cases found : cache.find? question.reference with
  | some value =>
      rw [ask, resolve_known cache question.inner question.reference value found]
      refine ⟨?_, recalls.distinct, ?_⟩
      · intro reference
        rw [first_value_after, ← recalls.first reference, valueFor]
        by_cases same : question.reference = reference
        · rw [← same, found]
          rfl
        · rw [if_neg same, Option.or_none]
      · rw [refusals_after]
        exact recalls.counted
  | none =>
      cases answer : question.inner question.reference with
      | ok value =>
          rw [ask, resolve_new cache question.inner question.reference found value answer]
          refine ⟨?_, ?_, ?_⟩
          · intro reference
            rw [first_value_after, ← recalls.first reference, find_added]
            rfl
          · have absent : question.reference ∉ cache.known.map Prod.fst := by
              rw [find_known, found]
              exact Bool.false_ne_true
            rw [List.map_append, List.map_singleton]
            exact recalls.distinct.append (List.nodup_singleton _)
              (List.disjoint_singleton.mpr absent)
          · rw [refusals_after, recalls.counted, List.length_append]
            exact Nat.add_right_comm _ _ 1
      | error cause =>
          rw [ask, resolve_refused cache question.inner question.reference found cause answer]
          refine ⟨?_, recalls.distinct, ?_⟩
          · intro reference
            have nothing : valueFor reference (question, .error cause) = (none : Option α) := by
              rw [Option.eq_none_iff_forall_ne_some]
              intro value valued
              cases ((value_for_iff reference _ value).mp valued).2
            rw [first_value_after, nothing, Option.or_none]
            exact recalls.first reference
          · rw [refusals_after]
            exact congrArg (· + 1) recalls.counted

theorem recalls_run (recalls : Recalls past cache) (questions : List (Question α)) :
    Recalls (past ++ cache.log questions) (cache.run questions) := by
  induction questions generalizing past cache with
  | nil =>
      rw [log, List.append_nil]
      exact recalls
  | cons question rest ih =>
      have next := ih _ (cache.ask question).1 (recalls_ask past cache recalls question)
      rw [List.append_assoc] at next
      exact next

theorem first_value_resolved (reference : String) :
    (firstValue reference past).isSome = true ↔ reference ∈ resolved past := by
  rw [firstValue, List.findSome?_isSome_iff, resolved, List.mem_map]
  constructor
  · intro valued
    obtain ⟨entry, member, some⟩ := valued
    obtain ⟨value, recalled⟩ := Option.isSome_iff_exists.mp some
    obtain ⟨same, answer⟩ := (value_for_iff reference entry value).mp recalled
    exact ⟨entry, List.mem_filter.mpr ⟨member, by rw [answer]; rfl⟩, same⟩
  · intro answered
    obtain ⟨entry, member, same⟩ := answered
    obtain ⟨listed, fine⟩ := List.mem_filter.mp member
    refine ⟨entry, listed, Option.isSome_iff_exists.mpr ?_⟩
    cases answer : entry.2 with
    | ok value => exact ⟨value, (value_for_iff reference entry value).mpr ⟨same, answer⟩⟩
    | error cause =>
        rw [answer] at fine
        cases fine

theorem recalls_size (recalls : Recalls past cache) : cache.size = (resolved past).dedup.length := by
  have same : (cache.known.map Prod.fst).Perm (resolved past).dedup := by
    rw [List.perm_ext_iff_of_nodup recalls.distinct (List.nodup_dedup _)]
    intro reference
    rw [find_known, recalls.first, first_value_resolved, List.mem_dedup]
  rw [← same.length_eq, List.length_map]
  rfl

theorem ask_unknown (question : Question α) (unknown : cache.find? question.reference = none) :
    (cache.ask question).2 = question.inner question.reference ∧
      (cache.ask question).1.lookups = cache.lookups + 1 := by
  cases answer : question.inner question.reference with
  | ok value =>
      rw [ask, resolve_new cache question.inner question.reference unknown value answer]
      exact ⟨rfl, rfl⟩
  | error cause =>
      rw [ask, resolve_refused cache question.inner question.reference unknown cause answer]
      exact ⟨rfl, rfl⟩

theorem ask_faithful (recalls : Recalls past cache) (question : Question α)
    (faithful : ∀ entry ∈ past, entry.2 = question.inner entry.1.reference) :
    (cache.ask question).2 = question.inner question.reference := by
  cases found : cache.find? question.reference with
  | none => exact (ask_unknown cache question found).1
  | some value =>
      rw [ask, resolve_known cache question.inner question.reference value found]
      rw [recalls.first, firstValue] at found
      obtain ⟨entry, member, recalled⟩ := List.exists_of_findSome?_eq_some found
      obtain ⟨same, answer⟩ := (value_for_iff question.reference entry value).mp recalled
      rw [← same, ← faithful entry member, answer]

theorem faithful_run (inner : String → Except ResolutionError α) (recalls : Recalls past cache)
    (faithful : ∀ entry ∈ past, entry.2 = inner entry.1.reference) (questions : List (Question α))
    (stable : ∀ question ∈ questions, question.inner = inner) :
    cache.log questions = questions.map fun question => (question, inner question.reference) := by
  induction questions generalizing past cache with
  | nil => rfl
  | cons question rest ih =>
      have same := stable question List.mem_cons_self
      have answer : (cache.ask question).2 = inner question.reference := by
        rw [← same] at faithful ⊢
        exact ask_faithful past cache recalls question faithful
      have kept : ∀ entry ∈ past ++ [(question, (cache.ask question).2)],
          entry.2 = inner entry.1.reference := by
        intro entry member
        rcases List.mem_append.mp member with old | new
        · exact faithful entry old
        · rw [List.mem_singleton.mp new]
          exact answer
      rw [log, List.map_cons, answer, ih _ (cache.ask question).1
        (recalls_ask past cache recalls question) kept
        fun other member => stable other (List.mem_cons_of_mem question member)]

end Recalls

theorem cache_recalls_first (questions : List (Question α)) :
    let cache := (empty : ResolverCache α).run questions
    let log := (empty : ResolverCache α).log questions
    (∀ reference value, firstValue reference log = some value → ∀ more inner,
      (cache.run more).resolve inner reference = (cache.run more, .ok value)) ∧
    (∀ reference, firstValue reference log = none → ∀ inner,
      (cache.resolve inner reference).2 = inner reference ∧
        (cache.resolve inner reference).1.lookups = cache.lookups + 1) ∧
    cache.size = (resolved log).dedup.length ∧
    cache.lookups = cache.size + refusals log ∧
    ∀ inner, (∀ question ∈ questions, question.inner = inner) →
      log = questions.map fun question => (question, inner question.reference) := by
  intro cache log
  have recalls : Recalls log cache := recalls_run [] empty recalls_empty questions
  refine ⟨?_, ?_, recalls_size log cache recalls, recalls.counted, ?_⟩
  · intro reference value first more inner
    have later := recalls_run log cache recalls more
    refine resolve_known (cache.run more) inner reference value ?_
    rw [later.first, firstValue, List.findSome?_append, ← firstValue, first]
    rfl
  · intro reference first inner
    exact ask_unknown cache ⟨reference, inner⟩ ((recalls.first reference).trans first)
  · intro inner stable
    exact faithful_run [] empty inner recalls_empty (fun _ member => (List.not_mem_nil member).elim)
      questions stable

def tickAs (value : Nat) : Registry Nat :=
  ((Registry.empty.register "jobs:tick" value).toOption).getD Registry.empty

def changing : List (Question Nat) :=
  [⟨"jobs:tick", Registry.empty.resolve⟩, ⟨"jobs:tick", (tickAs 1).resolve⟩,
    ⟨"jobs:tick", Registry.empty.resolve⟩, ⟨"jobs", (tickAs 1).resolve⟩]

theorem gone_task_recalled :
    let cache := (empty : ResolverCache Nat).run changing
    cache.resolve (tickAs 2).resolve "jobs:tick" = (cache, .ok 1) ∧
      (cache.resolve (tickAs 2).resolve "jobs:tock").2 = .error (.notFound "jobs:tock") ∧
      cache.size = 1 ∧ cache.lookups = 3 := by
  intro cache
  obtain ⟨sticky, fresh, size, lookups, _⟩ := cache_recalls_first changing
  have one : firstValue "jobs:tick" (empty.log changing) = some 1 := by decide +kernel
  have unknown : firstValue "jobs:tock" (empty.log changing) = none := by decide +kernel
  have count : (resolved ((empty : ResolverCache Nat).log changing)).dedup.length = 1 := by
    decide +kernel
  have refused : refusals ((empty : ResolverCache Nat).log changing) = 2 := by decide +kernel
  have absent : (tickAs 2).resolve "jobs:tock" = .error (.notFound "jobs:tock") := by decide +kernel
  refine ⟨sticky "jobs:tick" 1 one [] _, ?_, size.trans count, ?_⟩
  · exact (fresh "jobs:tock" unknown _).1.trans absent
  · rw [lookups, size, count, refused]

end Foreman.ResolverCache
