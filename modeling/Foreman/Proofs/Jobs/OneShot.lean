import Foreman.Proofs.Jobs.History

set_option autoImplicit false

namespace Foreman.JobTable

def Operation.time : Operation → Option Instant
  | .upsert _ now | .setEnabled _ _ now | .takeDue now _ => some now
  | .remove _ | .recordFire _ _ => none

-- The clock never goes backwards.
def Onward (history : List Operation) : Prop :=
  (history.filterMap Operation.time).Pairwise (· ≤ ·)

instance (history : List Operation) : Decidable (Onward history) :=
  inferInstanceAs (Decidable ((history.filterMap Operation.time).Pairwise (· ≤ ·)))

-- No definition of the job is for another date.
def Operation.Dates (id : String) (date : Instant) : Operation → Prop
  | .upsert definition _ => definition.id = id → definition.trigger = .date date
  | _ => True

def Operation.fires (id : String) : Operation × Reply → List (Instant × DueJob)
  | (.takeDue now _, reply) => (reply.dueUnder id).map fun due => (now, due)
  | _ => []

def firesOf (id : String) (log : List (Operation × Reply)) : List (Instant × DueJob) :=
  log.flatMap (Operation.fires id)

section Waits

variable (date : Instant)

-- The job is for the date, and plans for it only while that is still possible.
structure Waits (possible : Prop) (job : Job) : Prop where
  dated : job.definition.trigger = .date date
  planned : ∀ time, job.nextFireAt = some time → time = date ∧ possible

theorem date_planned (previous : Option Instant) (now time : Instant)
    (planned : (Trigger.date date).next previous now = some time) :
    time = date ∧ previous = none ∧ ¬ date ≤ now := by
  rw [Trigger.next] at planned
  by_cases passed : previous.isSome ∨ date ≤ now
  · rw [if_pos passed] at planned
    cases planned
  · rw [if_neg passed, Option.some.injEq] at planned
    refine ⟨planned.symm, ?_, fun late => passed (.inr late)⟩
    cases previous with
    | none => rfl
    | some last => exact absurd (.inl rfl) passed

theorem redefined_waits (possible : Prop) (job : Job) (definition : JobDefinition) (now : Instant)
    (dated : definition.trigger = .date date) (early : ¬ date ≤ now → possible) :
    Waits date possible (job.redefined definition now) := by
  refine ⟨dated, ?_⟩
  intro time planned
  change Job.firstFire definition now = some time at planned
  rw [Job.firstFire, dated] at planned
  by_cases enabled : definition.enabled = true
  · rw [if_pos enabled] at planned
    obtain ⟨here, _, ahead⟩ := date_planned date none now time planned
    exact ⟨here, early ahead⟩
  · rw [if_neg enabled] at planned
    cases planned

theorem fired_waits (possible : Prop) (job : Job) (waits : Waits date possible job) (now : Instant)
    (isActive : TaskId → Bool) (ready : job.isDue now isActive = true) :
    Waits date False (job.fired now) := by
  refine ⟨waits.dated, ?_⟩
  intro time planned
  change job.definition.trigger.next job.nextFireAt now = some time at planned
  obtain ⟨_, _, last, before, _⟩ := (due_iff now isActive job).mp ready
  rw [waits.dated, before] at planned
  cases (date_planned date (some last) now time planned).2.1

theorem step_waits (possible : Prop) (id : String) (operation : Operation)
    (dates : operation.Dates id date)
    (early : ∀ now, operation.time = some now → ¬ date ≤ now → possible) (entry : Option Job)
    (waits : ∀ job, entry = some job → Waits date possible job) :
    ∀ job, operation.step id entry = some job → Waits date possible job := by
  intro later stepped
  have way := step_way id operation entry
  rw [stepped] at way
  cases way with
  | kept => exact waits later rfl
  | defined definition now named =>
      exact redefined_waits date possible _ definition now (dates named) (early now rfl)
  | toggled job found enabled now _ =>
      exact redefined_waits date possible job _ now (waits job found).dated (early now rfl)
  | fired job found now isActive ready =>
      have spent := fired_waits date possible job (waits job found) now isActive ready
      exact ⟨spent.dated, fun time planned => ((spent.planned time planned).2).elim⟩
  | written job found task => exact ⟨(waits job found).dated, (waits job found).planned⟩

end Waits

section Fires

variable (date : Instant) (id : String)

theorem takes_cases (operation : Operation) (entry : Option Job) :
    operation.takes entry = [] ∨
      ∃ now isActive job due, operation = .takeDue now isActive ∧ entry = some job ∧
        dueJob now isActive job = some due ∧ operation.takes entry = [due] := by
  cases operation with
  | upsert _ _ | remove _ | setEnabled _ _ _ | recordFire _ _ => exact .inl rfl
  | takeDue now isActive =>
      cases entry with
      | none => exact .inl rfl
      | some job =>
          cases taken : dueJob now isActive job with
          | none => exact .inl (by simp [Operation.takes, taken])
          | some due =>
              have handed : (Operation.takeDue now isActive).takes (some job) = [due] := by
                simp [Operation.takes, taken]
              exact .inr ⟨now, isActive, job, due, rfl, rfl, taken, handed⟩

theorem taken_dated (possible : Prop) (job : Job) (waits : Waits date possible job) (now : Instant)
    (isActive : TaskId → Bool) (due : DueJob) (taken : dueJob now isActive job = some due) :
    due.scheduledFor = date ∧ date ≤ now ∧ possible := by
  obtain ⟨ready, planned, _, _⟩ := (due_job_iff now isActive job due).mp taken
  obtain ⟨_, _, time, ahead, reached⟩ := (due_iff now isActive job).mp ready
  obtain ⟨here, able⟩ := waits.planned time ahead
  rw [planned, Option.some.injEq] at ahead
  exact ⟨ahead.trans here, here ▸ reached, able⟩

theorem fires_perform (table : JobTable) (ascending : table.Ascending) (operation : Operation) :
    Operation.fires id (operation, (table.perform operation).2) =
      (operation.takes (table.find? id)).filterMap fun due =>
        operation.time.map fun now => (now, due) := by
  have handed := perform_due table id (ascending_distinct table ascending) operation
  cases operation with
  | takeDue now isActive =>
      rw [Operation.fires, handed]
      exact (List.filterMap_eq_map ▸ rfl)
  | upsert _ _ | remove _ | setEnabled _ _ _ | recordFire _ _ => rfl

theorem spent_run (table : JobTable) (ascending : table.Ascending) (history : List Operation)
    (dates : ∀ operation ∈ history, operation.Dates id date)
    (late : ∀ operation ∈ history, ∀ now, operation.time = some now → date ≤ now)
    (spent : ∀ job, table.find? id = some job → Waits date False job) :
    firesOf id (table.log history) = [] := by
  induction history generalizing table with
  | nil => rfl
  | cons operation rest ih =>
      have idle : operation.takes (table.find? id) = [] := by
        rcases takes_cases operation (table.find? id) with none |
          ⟨now, isActive, job, due, _, found, taken, _⟩
        · exact none
        · exact (taken_dated date False job (spent job found) now isActive due taken).2.2.elim
      have next := step_waits date False id operation (dates operation List.mem_cons_self)
        (fun now reads early => early (late operation List.mem_cons_self now reads))
        (table.find? id) spent
      rw [← perform_find] at next
      have quiet := ih (table.perform operation).1 (ascending_perform table ascending operation)
        (fun other member => dates other (List.mem_cons_of_mem operation member))
        (fun other member => late other (List.mem_cons_of_mem operation member)) next
      rw [log, firesOf, List.flatMap_cons, fires_perform id table ascending, idle]
      exact quiet

theorem waiting_run (table : JobTable) (ascending : table.Ascending) (history : List Operation)
    (onward : Onward history) (dates : ∀ operation ∈ history, operation.Dates id date)
    (waits : ∀ job, table.find? id = some job → Waits date True job) :
    (firesOf id (table.log history)).length ≤ 1 ∧
      ∀ fire ∈ firesOf id (table.log history), fire.2.scheduledFor = date ∧ date ≤ fire.1 := by
  induction history generalizing table with
  | nil => exact ⟨Nat.zero_le 1, fun fire member => (List.not_mem_nil member).elim⟩
  | cons operation rest ih =>
      have later : Onward rest := onward.sublist ((List.sublist_cons_self operation rest).filterMap _)
      have after (other : Operation) (member : other ∈ rest) : other.Dates id date :=
        dates other (List.mem_cons_of_mem operation member)
      have next := ascending_perform table ascending operation
      rw [log, firesOf, List.flatMap_cons, fires_perform id table ascending]
      rcases takes_cases operation (table.find? id) with none |
        ⟨now, isActive, job, due, same, found, taken, handed⟩
      · have still := step_waits date True id operation (dates operation List.mem_cons_self)
          (fun _ _ _ => trivial) (table.find? id) waits
        rw [← perform_find] at still
        rw [none]
        exact ih (table.perform operation).1 next later after still
      · subst same
        obtain ⟨planned, reached, _⟩ :=
          taken_dated date True job (waits job found) now isActive due taken
        -- From here on the clock stands at the date or behind it, so nothing is planned any more.
        have late (other : Operation) (member : other ∈ rest) (moment : Instant)
            (reads : other.time = some moment) : date ≤ moment := by
          have ordered := (List.pairwise_cons.mp onward).1 moment
            (List.mem_filterMap.mpr ⟨other, member, reads⟩)
          exact Int.le_trans reached ordered
        have spent : ∀ job, (table.perform (.takeDue now isActive)).1.find? id = some job →
            Waits date False job := by
          intro fired stays
          have ready := ((due_job_iff now isActive job due).mp taken).1
          rw [perform_find, Operation.step, found, Option.map_some, advanced, if_pos ready] at stays
          cases stays
          exact fired_waits date True job (waits job found) now isActive ready
        have quiet := spent_run date id _ next rest after late spent
        rw [firesOf] at quiet
        rw [handed, quiet]
        refine ⟨Nat.le_refl 1, ?_⟩
        intro fire member
        cases List.mem_singleton.mp member
        exact ⟨planned, reached⟩

end Fires

section Left

def Operation.Spares (id : String) : Operation → Prop
  | .upsert definition _ => definition.id ≠ id
  | .remove other => other ≠ id
  | .setEnabled other enabled _ => other = id → enabled = true
  | _ => True

def Operation.Precedes (date : Instant) : Operation → Prop
  | .takeDue now _ => now < date
  | _ => True

structure Armed (definition : JobDefinition) (date : Instant) (job : Job) : Prop where
  definition : job.definition = definition
  planned : job.nextFireAt = some date

variable (definition : JobDefinition) (date : Instant) (enabled : definition.enabled = true)

include enabled

theorem step_armed (operation : Operation) (spares : operation.Spares definition.id)
    (early : operation.Precedes date) (job : Job) (armed : Armed definition date job) :
    ∃ later, operation.step definition.id (some job) = some later ∧ Armed definition date later := by
  have way := step_way definition.id operation (some job)
  generalize operation.step definition.id (some job) = entry at way ⊢
  cases way with
  | kept => exact ⟨job, rfl, armed⟩
  | defined other now named => exact absurd named spares
  | removed => exact absurd rfl spares
  | toggled other found flag now flips =>
      cases found
      rw [armed.definition, enabled] at flips
      exact absurd (spares rfl).symm flips
  | fired other found now isActive ready =>
      cases found
      obtain ⟨_, _, time, planned, reached⟩ := (due_iff now isActive job).mp ready
      rw [armed.planned, Option.some.injEq] at planned
      subst planned
      exact absurd reached (Int.not_le.mpr early)
  | written other found task =>
      cases found
      exact ⟨_, rfl, armed.definition, armed.planned⟩

theorem run_armed (table : JobTable) (history : List Operation)
    (spares : ∀ operation ∈ history, operation.Spares definition.id)
    (early : ∀ operation ∈ history, operation.Precedes date) (job : Job)
    (found : table.find? definition.id = some job) (armed : Armed definition date job) :
    ∃ later, (table.run history).find? definition.id = some later ∧ Armed definition date later := by
  induction history generalizing table job with
  | nil => exact ⟨job, found, armed⟩
  | cons operation rest ih =>
      obtain ⟨next, stepped, still⟩ := step_armed definition date enabled operation
        (spares operation List.mem_cons_self) (early operation List.mem_cons_self) job armed
      rw [← found, ← perform_find] at stepped
      exact ih (table.perform operation).1
        (fun other member => spares other (List.mem_cons_of_mem operation member))
        (fun other member => early other (List.mem_cons_of_mem operation member)) next stepped still

end Left

theorem run_joined (table : JobTable) (before after : List Operation) :
    table.run (before ++ after) = (table.run before).run after :=
  List.foldl_append

theorem one_shot_taken_once (id : String) (date : Instant) :
    (∀ history, Onward history → (∀ operation ∈ history, operation.Dates id date) →
      (firesOf id (empty.log history)).length ≤ 1 ∧
        ∀ fire ∈ firesOf id (empty.log history), fire.2.scheduledFor = date ∧ date ≤ fire.1) ∧
    ∀ (before wait : List Operation) (definition : JobDefinition) (now later : Instant)
      (isActive : TaskId → Bool),
      definition.id = id → definition.trigger = .date date → definition.enabled = true →
      now < date → (∀ operation ∈ wait, operation.Spares id ∧ operation.Precedes date) →
      date ≤ later →
      let table := empty.run (before ++ .upsert definition now :: wait)
      (∀ job task, table.find? id = some job → job.lastTask = some task → isActive task = false) →
      ⟨id, date, definition.request⟩ ∈ (table.takeDue later isActive).2 := by
  constructor
  · intro history onward dates
    refine waiting_run date id empty ascending_empty history onward dates fun job found => ?_
    cases found
  · intro before wait definition now later isActive named dated enabled early left reached table free
    subst named
    have start : ((empty.run before).upsert definition now).1.find? definition.id =
        some ((((empty.run before).find? definition.id).getD (.fresh definition)).redefined
          definition now) :=
      (upsert_find (empty.run before) definition.id now definition).trans (if_pos rfl)
    have armed : Armed definition date
        ((((empty.run before).find? definition.id).getD (.fresh definition)).redefined
          definition now) := by
      refine ⟨rfl, ?_⟩
      change Job.firstFire definition now = some date
      have ahead : ¬ date ≤ now := Int.not_le.mpr early
      rw [Job.firstFire, if_pos enabled, dated, Trigger.next, if_neg (by simpa using ahead)]
    obtain ⟨job, found, still⟩ := run_armed definition date enabled _ wait
      (fun operation member => (left operation member).1)
      (fun operation member => (left operation member).2) _ start armed
    have here : table.find? definition.id = some job := by
      rw [← found]
      exact congrArg (find? · definition.id) (run_joined empty before (.upsert definition now :: wait))
    have idle : job.inFlight isActive = false := by
      rw [Job.inFlight]
      cases last : job.lastTask with
      | none => rfl
      | some task => exact free job task here last
    have ready : job.isDue later isActive = true :=
      (due_iff later isActive job).mpr
        ⟨still.definition ▸ enabled, idle, date, still.planned, reached⟩
    refine List.mem_filterMap.mpr ⟨job, find_member table definition.id job here, ?_⟩
    refine (due_job_iff later isActive job _).mpr ⟨ready, still.planned, ?_, ?_⟩
    · exact (find_named table definition.id job here).symm
    · rw [still.definition]

def once : JobDefinition := ⟨"once", .date (atSecond 30), Request.new "tasks:once", true⟩

def insisted : List Operation :=
  [.upsert once Instant.epoch, .recordFire "once" (TaskId.ofNumber 1),
    .takeDue (atSecond 29) fun _ => false, .takeDue (atSecond 40) fun _ => false, .remove "once",
    .upsert once (atSecond 40), .setEnabled "once" false (atSecond 50),
    .setEnabled "once" true (atSecond 60), .takeDue (atSecond 70) fun _ => false]

theorem insisted_job_fires_once :
    Onward insisted ∧ (∀ operation ∈ insisted, operation.Dates "once" (atSecond 30)) ∧
      (firesOf "once" (empty.log insisted)).length = 1 ∧
      ⟨"once", atSecond 30, Request.new "tasks:once"⟩ ∈
        ((empty.run (insisted.take 3)).takeDue (atSecond 40) fun _ => false).2 := by
  have onward : Onward insisted := by decide +kernel
  have dates : ∀ operation ∈ insisted, operation.Dates "once" (atSecond 30) := by
    simp [insisted, Operation.Dates, once]
  have most := ((one_shot_taken_once "once" (atSecond 30)).1 insisted onward dates).1
  have taken := (one_shot_taken_once "once" (atSecond 30)).2 []
    [.recordFire "once" (TaskId.ofNumber 1), .takeDue (atSecond 29) fun _ => false] once
    Instant.epoch (atSecond 40) (fun _ => false) rfl rfl rfl (by decide +kernel)
    (by
      intro operation member
      simp only [List.mem_cons, List.not_mem_nil, or_false] at member
      rcases member with same | same
      · subst same
        exact ⟨trivial, trivial⟩
      · subst same
        exact ⟨trivial, (by decide +kernel : atSecond 29 < atSecond 30)⟩)
    (by decide +kernel) (fun _ _ _ _ => rfl)
  have least : 0 < (firesOf "once" (empty.log insisted)).length := by decide +kernel
  exact ⟨onward, dates, Nat.le_antisymm most least, taken⟩

end Foreman.JobTable
