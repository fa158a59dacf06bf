import Foreman.Proofs.Jobs.Edits
import Foreman.Proofs.Trigger.Onward

set_option autoImplicit false

namespace Foreman.JobTable

inductive Operation where
  | upsert (definition : JobDefinition) (now : Instant)
  | remove (id : String)
  | setEnabled (id : String) (enabled : Bool) (now : Instant)
  | takeDue (now : Instant) (isActive : TaskId → Bool)
  | recordFire (id : String) (task : TaskId)

def Operation.job : Operation → Option String
  | .upsert definition _ => some definition.id
  | .remove id | .setEnabled id _ _ | .recordFire id _ => some id
  | .takeDue _ _ => none

inductive Reply where
  | placed (existed : Bool) (next : Option Instant)
  | removed (job : Option Job)
  | toggled (job : Option Job)
  | taken (due : List DueJob)
  | recorded

def Reply.due : Reply → List DueJob
  | .taken due => due
  | _ => []

def Reply.dueUnder (id : String) (reply : Reply) : List DueJob :=
  reply.due.filter fun due => due.id == id

def perform (table : JobTable) : Operation → JobTable × Reply
  | .upsert definition now =>
      let (next, existed, time) := table.upsert definition now
      (next, .placed existed time)
  | .remove id =>
      let (next, job) := table.remove id
      (next, .removed job)
  | .setEnabled id enabled now =>
      let (next, job) := table.setEnabled id enabled now
      (next, .toggled job)
  | .takeDue now isActive =>
      let (next, due) := table.takeDue now isActive
      (next, .taken due)
  | .recordFire id task => (table.recordFire id task, .recorded)

def run (table : JobTable) (history : List Operation) : JobTable :=
  history.foldl (fun table operation => (table.perform operation).1) table

def log (table : JobTable) : List Operation → List (Operation × Reply)
  | [] => []
  | operation :: rest =>
      (operation, (table.perform operation).2) :: (table.perform operation).1.log rest

section Entries

-- What an operation makes of the entry of one job.
def Operation.step (id : String) (operation : Operation) (entry : Option Job) : Option Job :=
  match operation with
  | .upsert definition now =>
      if definition.id = id then some ((entry.getD (.fresh definition)).redefined definition now)
      else entry
  | .remove other => if other = id then none else entry
  | .setEnabled other enabled now =>
      if other = id then entry.map (withEnabled enabled now) else entry
  | .takeDue now isActive => entry.map (advanced now isActive)
  | .recordFire other task =>
      if other = id then entry.map fun job => { job with lastTask := some task } else entry

def Operation.takes (operation : Operation) (entry : Option Job) : List DueJob :=
  match operation with
  | .takeDue now isActive => (entry.bind (dueJob now isActive)).toList
  | _ => []

variable (table : JobTable) (id : String)

theorem perform_find (operation : Operation) :
    (table.perform operation).1.find? id = operation.step id (table.find? id) := by
  cases operation with
  | upsert definition now => exact upsert_find table id now definition
  | remove other => exact remove_find table id other
  | setEnabled other enabled now => exact set_enabled_find table id now other enabled
  | takeDue now isActive => exact take_due_find table now isActive id
  | recordFire other task => exact record_fire_find table id task other

theorem perform_due (distinct : table.ids.Nodup) (operation : Operation) :
    (table.perform operation).2.dueUnder id = operation.takes (table.find? id) := by
  cases operation with
  | takeDue now isActive => exact take_due_own table now isActive distinct id
  | upsert _ _ | remove _ | setEnabled _ _ _ | recordFire _ _ => rfl

theorem ascending_perform (ascending : table.Ascending) (operation : Operation) :
    (table.perform operation).1.Ascending := by
  cases operation with
  | upsert definition now => exact upsert_ascending table definition now ascending
  | remove other => exact edit_ascending table _ ascending (.removed other)
  | setEnabled other enabled now => exact edit_ascending table _ ascending (.toggled other enabled now)
  | takeDue now isActive => exact edit_ascending table _ ascending (.taken now isActive)
  | recordFire other task => exact edit_ascending table _ ascending (.fired other task)

theorem ascending_run (ascending : table.Ascending) (history : List Operation) :
    (table.run history).Ascending := by
  induction history generalizing table with
  | nil => exact ascending
  | cons operation rest ih =>
      exact ih (table.perform operation).1 (ascending_perform table ascending operation)

theorem ascending_empty : empty.Ascending := .nil

theorem found_listed (ascending : table.Ascending) (job : Job) :
    table.find? id = some job ↔ job ∈ table.jobs ∧ job.definition.id = id := by
  constructor
  · intro found
    exact ⟨find_member table id job found, find_named table id job found⟩
  · intro listed
    have found := find_listed table (ascending_distinct table ascending) job listed.1
    exact listed.2 ▸ found

theorem perform_other (operation : Operation) (unnamed : operation.job ≠ some id)
    (untaken : id ∉ (table.perform operation).2.due.map DueJob.id) :
    (table.perform operation).1.find? id = table.find? id := by
  have apart (other : String) (named : operation.job = some other) : other ≠ id := by
    intro same
    exact unnamed (named.trans (congrArg some same))
  cases operation with
  | upsert definition now =>
      exact (upsert_find table id now definition).trans (if_neg (apart definition.id rfl))
  | remove other => exact (remove_find table id other).trans (if_neg (apart other rfl))
  | setEnabled other enabled now =>
      exact (set_enabled_find table id now other enabled).trans (if_neg (apart other rfl))
  | takeDue now isActive => exact untaken_kept table now isActive id untaken
  | recordFire other task =>
      exact (record_fire_find table id task other).trans (if_neg (apart other rfl))

theorem update_absent (change : Job → Job)
    (named : ∀ job : Job, job.id = id → (change job).id = id) (missing : table.find? id = none) :
    table.update table.isChanged id change named = table := by
  have kept (entry : String × Job) (member : entry ∈ table.entries) :
      (entry.1, updated id change entry.1 entry.2) = entry := by
    rw [updated, if_neg (absent_ids table id missing entry member)]
  exact JobTable.ext ((List.map_congr_left kept).trans (List.map_id table.entries)) rfl

end Entries

section Ways

inductive Way (id : String) (entry : Option Job) : Operation → Option Job → Prop where
  | kept (operation : Operation) : Way id entry operation entry
  | defined (definition : JobDefinition) (now : Instant) (named : definition.id = id) :
      Way id entry (.upsert definition now)
        (some ((entry.getD (.fresh definition)).redefined definition now))
  | removed : Way id entry (.remove id) none
  | toggled (job : Job) (found : entry = some job) (enabled : Bool) (now : Instant)
      (flips : job.definition.enabled ≠ enabled) :
      Way id entry (.setEnabled id enabled now)
        (some (job.redefined { job.definition with enabled := enabled } now))
  | fired (job : Job) (found : entry = some job) (now : Instant) (isActive : TaskId → Bool)
      (ready : job.isDue now isActive = true) :
      Way id entry (.takeDue now isActive) (some (job.fired now))
  | written (job : Job) (found : entry = some job) (task : TaskId) :
      Way id entry (.recordFire id task) (some { job with lastTask := some task })

theorem step_way (id : String) (operation : Operation) (entry : Option Job) :
    Way id entry operation (operation.step id entry) := by
  cases operation with
  | upsert definition now =>
      by_cases same : definition.id = id
      · rw [Operation.step, if_pos same]
        exact .defined definition now same
      · rw [Operation.step, if_neg same]
        exact .kept _
  | remove other =>
      by_cases same : other = id
      · rw [Operation.step, if_pos same, same]
        exact .removed
      · rw [Operation.step, if_neg same]
        exact .kept _
  | setEnabled other enabled now =>
      by_cases same : other = id
      · rw [Operation.step, if_pos same, same]
        cases entry with
        | none => exact .kept _
        | some job =>
            by_cases flag : job.definition.enabled = enabled
            · rw [Option.map_some, withEnabled, if_pos flag]
              exact .kept _
            · rw [Option.map_some, withEnabled, if_neg flag]
              exact .toggled job rfl enabled now flag
      · rw [Operation.step, if_neg same]
        exact .kept _
  | takeDue now isActive =>
      cases entry with
      | none => exact .kept _
      | some job =>
          by_cases ready : job.isDue now isActive = true
          · rw [Operation.step, Option.map_some, advanced, if_pos ready]
            exact .fired job rfl now isActive ready
          · rw [Operation.step, Option.map_some, advanced, if_neg ready]
            exact .kept _
  | recordFire other task =>
      by_cases same : other = id
      · rw [Operation.step, if_pos same, same]
        cases entry with
        | none => exact .kept _
        | some job => exact .written job rfl task
      · rw [Operation.step, if_neg same]
        exact .kept _

end Ways

section Rests

-- A job that is disabled has no fire ahead of it.
def Rests (entry : Option Job) : Prop :=
  ∀ job, entry = some job → job.definition.enabled = false → job.nextFireAt = none

theorem absent_rests : Rests none := by
  intro job found
  cases found

theorem redefined_rests (job : Job) (definition : JobDefinition) (now : Instant) :
    Rests (some (job.redefined definition now)) := by
  intro other same disabled
  cases same
  change definition.enabled = false at disabled
  simp [Job.redefined, Job.firstFire, disabled]

theorem step_rests (id : String) (operation : Operation) (entry : Option Job) (rests : Rests entry) :
    Rests (operation.step id entry) := by
  have way := step_way id operation entry
  generalize operation.step id entry = later at way ⊢
  cases way with
  | kept => exact rests
  | defined definition now _ => exact redefined_rests _ definition now
  | removed => exact absent_rests
  | toggled job _ enabled now _ => exact redefined_rests job _ now
  | fired job _ now isActive ready =>
      intro other same disabled
      cases same
      have enabled := ((due_iff now isActive job).mp ready).1
      change job.definition.enabled = false at disabled
      rw [enabled] at disabled
      cases disabled
  | written job found task =>
      intro other same disabled
      cases same
      exact rests job found disabled

theorem run_rests (table : JobTable) (id : String) (history : List Operation)
    (rests : Rests (table.find? id)) : Rests ((table.run history).find? id) := by
  induction history generalizing table with
  | nil => exact rests
  | cons operation rest ih =>
      have next := step_rests id operation (table.find? id) rests
      rw [← perform_find] at next
      exact ih (table.perform operation).1 next

end Rests

section Past

-- When a job was taken, and which tasks were written down for it, since its entry was made.
structure Past where
  takes : List Instant
  tasks : List TaskId

def remembered (id : String) (past : Option Past) : Operation × Reply → Option Past
  | (.upsert definition _, _) =>
      if definition.id = id then some (past.getD ⟨[], []⟩) else past
  | (.remove other, _) => if other = id then none else past
  | (.setEnabled _ _ _, _) => past
  | (.takeDue now _, reply) =>
      past.map fun past =>
        { past with takes := past.takes ++ (reply.dueUnder id).map fun _ => now }
  | (.recordFire other task, _) =>
      if other = id then past.map fun past => { past with tasks := past.tasks ++ [task] } else past

def pastOf (id : String) (log : List (Operation × Reply)) : Option Past :=
  log.foldl (remembered id) none

structure Past.Fits (past : Past) (job : Job) : Prop where
  count : job.fireCount = past.takes.length
  fired : job.lastFiredAt = past.takes.getLast?
  task : job.lastTask = past.tasks.getLast?

-- A job has a past for as long as it has an entry, and the entry fits it.
abbrev Tells : Option Past → Option Job → Prop := Option.Rel Past.Fits

theorem fits_unfired (past : Past) (job : Job) (fits : past.Fits job) :
    job.lastFiredAt = none ↔ job.fireCount = 0 := by
  rw [fits.fired, fits.count, List.getLast?_eq_none_iff, List.length_eq_zero_iff]

theorem fits_taken (past : Past) (job : Job) (fits : past.Fits job) (now : Instant) :
    Past.Fits { past with takes := past.takes ++ [now] } (job.fired now) := by
  refine ⟨?_, ?_, fits.task⟩
  · simp [Job.fired, fits.count]
  · simp [Job.fired]

theorem tells_taken (past : Option Past) (entry : Option Job) (tells : Tells past entry) (id : String)
    (now : Instant) (isActive : TaskId → Bool) (reply : Reply)
    (handed : reply.dueUnder id = (Operation.takeDue now isActive).takes entry) :
    Tells (remembered id past (.takeDue now isActive, reply))
      ((Operation.takeDue now isActive).step id entry) := by
  cases tells with
  | none => exact .none
  | @some past job fits =>
      rw [Operation.takes, Option.bind_some] at handed
      rw [remembered, Operation.step, Option.map_some, Option.map_some, handed]
      by_cases ready : job.isDue now isActive = true
      · obtain ⟨time, taken⟩ := due_job_taken now isActive job ready
        rw [taken, advanced, if_pos ready]
        exact .some (fits_taken past job fits now)
      · rw [due_job_none now isActive job (Bool.not_eq_true _ ▸ ready), advanced, if_neg ready,
          Option.toList_none, List.map_nil, List.append_nil]
        exact .some fits

theorem tells_step (past : Option Past) (entry : Option Job) (tells : Tells past entry) (id : String)
    (operation : Operation) (reply : Reply) (handed : reply.dueUnder id = operation.takes entry) :
    Tells (remembered id past (operation, reply)) (operation.step id entry) := by
  cases operation with
  | takeDue now isActive => exact tells_taken past entry tells id now isActive reply handed
  | upsert definition now =>
      by_cases same : definition.id = id
      · rw [remembered, Operation.step, if_pos same, if_pos same]
        cases tells with
        | none => exact .some ⟨rfl, rfl, rfl⟩
        | some fits => exact .some ⟨fits.count, fits.fired, fits.task⟩
      · rw [remembered, Operation.step, if_neg same, if_neg same]
        exact tells
  | remove other =>
      by_cases same : other = id
      · rw [remembered, Operation.step, if_pos same, if_pos same]
        exact .none
      · rw [remembered, Operation.step, if_neg same, if_neg same]
        exact tells
  | setEnabled other enabled now =>
      by_cases same : other = id
      · rw [remembered, Operation.step, if_pos same]
        cases tells with
        | none => exact .none
        | @some past job fits =>
            by_cases flag : job.definition.enabled = enabled
            · rw [Option.map_some, withEnabled, if_pos flag]
              exact .some fits
            · rw [Option.map_some, withEnabled, if_neg flag]
              exact .some ⟨fits.count, fits.fired, fits.task⟩
      · rw [remembered, Operation.step, if_neg same]
        exact tells
  | recordFire other task =>
      by_cases same : other = id
      · rw [remembered, Operation.step, if_pos same, if_pos same]
        cases tells with
        | none => exact .none
        | some fits => exact .some ⟨fits.count, fits.fired, by simp⟩
      · rw [remembered, Operation.step, if_neg same, if_neg same]
        exact tells

theorem tells_run (table : JobTable) (ascending : table.Ascending) (id : String)
    (history : List Operation) (past : Option Past) (tells : Tells past (table.find? id)) :
    Tells ((table.log history).foldl (remembered id) past) ((table.run history).find? id) := by
  induction history generalizing table past with
  | nil => exact tells
  | cons operation rest ih =>
      have handed := perform_due table id (ascending_distinct table ascending) operation
      have next := tells_step past (table.find? id) tells id operation _ handed
      rw [← perform_find] at next
      exact ih (table.perform operation).1 (ascending_perform table ascending operation) _ next

end Past

theorem fire_history_kept (history : List Operation) :
    let table := empty.run history
    (table.ids.Pairwise (· < ·) ∧
      ∀ id job, table.find? id = some job ↔ job ∈ table.jobs ∧ job.definition.id = id) ∧
    (∀ job ∈ table.jobs,
      (job.definition.enabled = false → job.nextFireAt = none) ∧
        (job.lastFiredAt = none ↔ job.fireCount = 0)) ∧
    (∀ id, Tells (pastOf id (empty.log history)) (table.find? id)) ∧
    (∀ definition now job, table.find? definition.id = some job →
      (table.upsert definition now).1.find? definition.id =
        some { job with
          definition := definition
          nextFireAt := Job.firstFire definition now }) ∧
    (∀ id enabled now job, table.find? id = some job →
      (table.setEnabled id enabled now).1.find? id =
        some (if job.definition.enabled = enabled then job else
          { job with
            definition := { job.definition with enabled := enabled }
            nextFireAt := Job.firstFire { job.definition with enabled := enabled } now })) ∧
    (∀ id, table.find? id = none →
      (∀ task, table.recordFire id task = table) ∧ (table.remove id).1 = table) ∧
    ∀ operation id, operation.job ≠ some id →
      id ∉ (table.perform operation).2.due.map DueJob.id →
        (table.perform operation).1.find? id = table.find? id := by
  intro table
  have ascending : table.Ascending := ascending_run empty ascending_empty history
  have tells (id : String) : Tells (pastOf id (empty.log history)) (table.find? id) :=
    tells_run empty ascending_empty id history none .none
  have listed (job : Job) (member : job ∈ table.jobs) : table.find? job.id = some job :=
    (found_listed table job.id ascending job).mpr ⟨member, rfl⟩
  refine ⟨⟨ascending, fun id job => found_listed table id ascending job⟩, ?_, tells, ?_, ?_, ?_,
    fun operation id => perform_other table id operation⟩
  · intro job member
    constructor
    · exact run_rests empty job.id history absent_rests job (listed job member)
    · have told := tells job.id
      rw [listed job member] at told
      generalize pastOf job.id (empty.log history) = past at told
      cases told with
      | some fits => exact fits_unfired _ job fits
  · intro definition now job found
    rw [upsert_find, if_pos rfl, found]
    rfl
  · intro id enabled now job found
    rw [set_enabled_find, if_pos rfl, found]
    rfl
  · intro id missing
    constructor
    · intro task
      exact update_absent table id _ _ missing
    · rw [remove, missing]

def paused : List Operation :=
  [.upsert beatJob Instant.epoch, .takeDue (atSecond 30) fun _ => false,
    .recordFire "beat" (TaskId.ofNumber 1), .upsert beatJob (atSecond 40),
    .setEnabled "beat" false (atSecond 50), .takeDue (atSecond 90) fun _ => false]

theorem paused_beat_remembers :
    let table := empty.run paused
    ∃ job, table.find? "beat" = some job ∧ job.fireCount = 1 ∧
      job.lastFiredAt = some (atSecond 30) ∧ job.lastTask = some (TaskId.ofNumber 1) ∧
      job.nextFireAt = none ∧
      (table.setEnabled "beat" true (atSecond 95)).1.find? "beat" =
        some { job with
          definition := beatJob
          nextFireAt := some (atSecond 125) } ∧
      table.recordFire "hush" (TaskId.ofNumber 2) = table := by
  intro table
  obtain ⟨⟨_, listed⟩, rests, tells, _, toggled, unknown, _⟩ := fire_history_kept paused
  obtain ⟨job, found, disabled, same⟩ : ∃ job, table.find? "beat" = some job ∧
      job.definition.enabled = false ∧ { job.definition with enabled := true } = beatJob :=
    ⟨_, rfl, rfl, rfl⟩
  have past : pastOf "beat" (empty.log paused) = some ⟨[atSecond 30], [TaskId.ofNumber 1]⟩ := rfl
  have told := tells "beat"
  rw [past] at told
  change Tells _ (table.find? "beat") at told
  rw [found] at told
  cases told with
  | some fits =>
      have quiet := (rests job ((listed "beat" job).mp found).1).1 disabled
      refine ⟨job, found, fits.count, fits.fired, fits.task, quiet, ?_, (unknown "hush" rfl).1 _⟩
      have again := toggled "beat" true (atSecond 95) job found
      rw [disabled, if_neg Bool.false_ne_true, same] at again
      have next : Job.firstFire beatJob (atSecond 95) = some (atSecond 125) := by decide +kernel
      rw [next] at again
      exact again

end Foreman.JobTable
