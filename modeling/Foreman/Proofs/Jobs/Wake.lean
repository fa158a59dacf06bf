import Foreman.Proofs.Jobs.History
import Foreman.Scheduler.Simulation

set_option autoImplicit false

namespace Foreman

-- A job is to be taken at a time, or as soon as somebody asks from then on.
structure Job.Plans (job : Job) (isActive : TaskId → Bool) (time : Instant) : Prop where
  enabled : job.definition.enabled = true
  idle : ∀ task, job.lastTask = some task → isActive task = false
  planned : job.nextFireAt = some time

namespace JobTable

section Plans

variable (isActive : TaskId → Bool) (job : Job)

theorem idle_iff :
    job.inFlight isActive = false ↔ ∀ task, job.lastTask = some task → isActive task = false := by
  rw [Job.inFlight]
  cases job.lastTask with
  | none => simp
  | some task => simp

theorem wake_of_iff (time : Instant) : wakeOf isActive job = some time ↔ job.Plans isActive time := by
  constructor
  · intro woken
    rw [wakeOf, Option.ite_none_right_eq_some, Bool.and_eq_true, Bool.not_eq_true'] at woken
    obtain ⟨⟨enabled, idle⟩, planned⟩ := woken
    exact ⟨enabled, (idle_iff isActive job).mp idle, planned⟩
  · intro plans
    rw [wakeOf, plans.enabled, (idle_iff isActive job).mpr plans.idle]
    exact plans.planned

theorem is_due_iff (now : Instant) :
    job.isDue now isActive = true ↔ ∃ time, job.Plans isActive time ∧ time ≤ now := by
  rw [due_iff, idle_iff]
  constructor
  · intro ready
    obtain ⟨enabled, idle, time, planned, reached⟩ := ready
    exact ⟨time, ⟨enabled, idle, planned⟩, reached⟩
  · intro ready
    obtain ⟨time, plans, reached⟩ := ready
    exact ⟨plans.enabled, plans.idle, time, plans.planned, reached⟩

theorem due_plans_iff (now : Instant) (due : DueJob) :
    dueJob now isActive job = some due ↔
      job.Plans isActive due.scheduledFor ∧ due.scheduledFor ≤ now ∧
        due.id = job.id ∧ due.request = job.definition.request := by
  rw [due_job_iff, is_due_iff]
  constructor
  · intro taken
    obtain ⟨⟨time, plans, reached⟩, planned, named, carried⟩ := taken
    have same : time = due.scheduledFor := Option.some.inj (plans.planned.symm.trans planned)
    exact ⟨same ▸ plans, same ▸ reached, named, carried⟩
  · intro taken
    obtain ⟨plans, reached, named, carried⟩ := taken
    exact ⟨⟨due.scheduledFor, plans, reached⟩, plans.planned, named, carried⟩

end Plans

section Wake

variable (table : JobTable) (isActive : TaskId → Bool) (now : Instant)

theorem due_member_iff (due : DueJob) :
    due ∈ (table.takeDue now isActive).2 ↔
      ∃ job ∈ table.jobs, job.Plans isActive due.scheduledFor ∧ due.scheduledFor ≤ now ∧
        due.id = job.id ∧ due.request = job.definition.request := by
  change due ∈ table.jobs.filterMap (dueJob now isActive) ↔ _
  simp only [List.mem_filterMap, due_plans_iff]

theorem next_wake_iff (time : Instant) :
    table.nextWake isActive = some time ↔
      IsLeast {other | ∃ job ∈ table.jobs, job.Plans isActive other} time := by
  rw [nextWake, Instant.first_iff]
  simp only [List.mem_map, wake_of_iff]

theorem wake_given (time : Instant) (woken : table.nextWake isActive = some time) :
    ∃ job ∈ table.jobs, job.Plans isActive time :=
  ((next_wake_iff table isActive time).mp woken).1

theorem wake_bounded (job : Job) (member : job ∈ table.jobs) (time : Instant)
    (plans : job.Plans isActive time) :
    ∃ first, table.nextWake isActive = some first ∧ first ≤ time := by
  apply Instant.first_bounded
  exact List.mem_map.mpr ⟨job, member, (wake_of_iff isActive job time).mpr plans⟩

theorem due_meets_wake :
    (∃ due, due ∈ (table.takeDue now isActive).2) ↔
      ∃ time, table.nextWake isActive = some time ∧ time ≤ now := by
  constructor
  · intro taken
    obtain ⟨due, member⟩ := taken
    obtain ⟨job, listed, plans, reached, _⟩ := (due_member_iff table isActive now due).mp member
    obtain ⟨first, woken, before⟩ := wake_bounded table isActive job listed _ plans
    exact ⟨first, woken, Int.le_trans before reached⟩
  · intro woken
    obtain ⟨time, planned, reached⟩ := woken
    obtain ⟨job, listed, plans⟩ := wake_given table isActive time planned
    refine ⟨⟨job.id, time, job.definition.request⟩, ?_⟩
    exact (due_member_iff table isActive now _).mpr ⟨job, listed, plans, reached, rfl, rfl⟩

theorem due_found (ascending : table.Ascending) (due : DueJob)
    (member : due ∈ (table.takeDue now isActive).2) :
    ∃ job, table.find? due.id = some job ∧
      (table.takeDue now isActive).1.find? due.id =
        some { job with
          nextFireAt := job.definition.trigger.next (some due.scheduledFor) now
          lastFiredAt := some now
          fireCount := job.fireCount + 1 } := by
  obtain ⟨job, found, _, planned, later⟩ :=
    take_due_advanced table now isActive (ascending_distinct table ascending) due member
  rw [Job.fired, planned] at later
  exact ⟨job, found, later⟩

theorem busy_waits (job : Job) (member : job ∈ table.jobs) (task : TaskId)
    (last : job.lastTask = some task) (busy : isActive task = true) :
    job ∈ (table.takeDue now isActive).1.jobs ∧
      ∀ idle : TaskId → Bool, idle task = false → ∀ time later, job.nextFireAt = some time →
        job.definition.enabled = true → time ≤ later →
          ⟨job.id, time, job.definition.request⟩ ∈
            ((table.takeDue now isActive).1.takeDue later idle).2 := by
  have resting : ¬ job.isDue now isActive = true := by
    intro ready
    obtain ⟨_, plans, _⟩ := (is_due_iff isActive job now).mp ready
    rw [plans.idle task last] at busy
    cases busy
  have kept : job ∈ (table.takeDue now isActive).1.jobs := by
    rw [take_due_jobs]
    exact List.mem_map.mpr ⟨job, member, if_neg resting⟩
  refine ⟨kept, ?_⟩
  intro idle freed time later planned enabled reached
  have free (other : TaskId) (named : job.lastTask = some other) : idle other = false := by
    rw [last, Option.some.injEq] at named
    exact named ▸ freed
  exact (due_member_iff _ idle later _).mpr
    ⟨job, kept, ⟨enabled, free, planned⟩, reached, rfl, rfl⟩

end Wake

end JobTable

namespace Simulation

theorem has_due_iff (scheduler : Scheduler) (now : Instant) :
    hasDueJob scheduler now = true ↔
      ∃ due, due ∈ (scheduler.board.jobs.takeDue now scheduler.board.isActive).2 := by
  rw [JobTable.due_meets_wake, hasDueJob]
  cases scheduler.board.jobs.nextWake scheduler.board.isActive with
  | none => simp
  | some time => simp

theorem wake_in_time (simulation : Simulation) (listening : simulation.scheduler.isListening = true)
    (time : Instant) (planned : simulation.scheduler.board.jobs.nextWake
      simulation.scheduler.board.isActive = some time) :
    ∃ sooner, simulation.wake = some sooner ∧ sooner ≤ time := by
  have woken : (if simulation.scheduler.isListening then
      simulation.scheduler.board.jobs.nextWake simulation.scheduler.board.isActive else none) =
      some time := by
    rw [if_pos listening, planned]
  obtain ⟨inner, found, before⟩ := Instant.earliest_bounded _ _ time (.inr woken)
  obtain ⟨sooner, answered, first⟩ := Instant.earliest_bounded _ _ inner (.inr found)
  exact ⟨sooner, answered, Int.le_trans first before⟩

end Simulation

namespace JobTable

theorem due_jobs_wake :
    (∀ history, (empty.run history).Ascending) ∧
      (∀ table : JobTable, table.Ascending → ∀ (now : Instant) (isActive : TaskId → Bool),
        let later := (table.takeDue now isActive).1
        let due := (table.takeDue now isActive).2
        ((due.map DueJob.id).Pairwise (· < ·) ∧
          ∀ entry, entry ∈ due ↔ ∃ job ∈ table.jobs,
            job.Plans isActive entry.scheduledFor ∧ entry.scheduledFor ≤ now ∧
              entry.id = job.definition.id ∧ entry.request = job.definition.request) ∧
        (later.ids = table.ids ∧
          (∀ entry ∈ due, ∃ job, table.find? entry.id = some job ∧
            later.find? entry.id =
              some { job with
                nextFireAt := job.definition.trigger.next (some entry.scheduledFor) now
                lastFiredAt := some now
                fireCount := job.fireCount + 1 }) ∧
          (∀ id, id ∉ due.map DueJob.id → later.find? id = table.find? id) ∧
          ∀ job ∈ table.jobs, ∀ task, job.lastTask = some task → isActive task = true →
            job ∈ later.jobs ∧
              ∀ idle : TaskId → Bool, idle task = false → ∀ time after,
                job.nextFireAt = some time → job.definition.enabled = true → time ≤ after →
                  ⟨job.id, time, job.definition.request⟩ ∈ (later.takeDue after idle).2) ∧
        (∀ time, table.nextWake isActive = some time ↔
          IsLeast {other | ∃ job ∈ table.jobs, job.Plans isActive other} time) ∧
        ((∃ entry, entry ∈ due) ↔ ∃ time, table.nextWake isActive = some time ∧ time ≤ now)) ∧
      ∀ (scheduler : Scheduler) (now : Instant),
        (Simulation.hasDueJob scheduler now = true ↔
          ∃ entry, entry ∈ (scheduler.board.jobs.takeDue now scheduler.board.isActive).2) ∧
        ∀ issued time, scheduler.isListening = true →
          scheduler.board.jobs.nextWake scheduler.board.isActive = some time →
            ∃ sooner, Simulation.wake ⟨scheduler, issued⟩ = some sooner ∧ sooner ≤ time := by
  refine ⟨ascending_run empty ascending_empty, ?_, ?_⟩
  · intro table ascending now isActive later due
    refine ⟨⟨?_, ?_⟩, ⟨?_, ?_, ?_, ?_⟩, ?_, ?_⟩
    · exact due_ascending table ascending now isActive
    · exact due_member_iff table isActive now
    · exact alter_ids table table.isChanged _ _
    · exact due_found table isActive now ascending
    · exact fun id untaken => untaken_kept table now isActive id untaken
    · exact busy_waits table isActive now
    · exact next_wake_iff table isActive
    · exact due_meets_wake table isActive now
  · intro scheduler now
    refine ⟨Simulation.has_due_iff scheduler now, ?_⟩
    intro issued time listening planned
    exact Simulation.wake_in_time ⟨scheduler, issued⟩ listening time planned

def crew : List Operation :=
  [.upsert { beatJob with id := "ready" } Instant.epoch,
    .upsert { beatJob with id := "busy" } Instant.epoch, .recordFire "busy" (TaskId.ofNumber 1),
    .upsert { beatJob with id := "off", enabled := false } Instant.epoch,
    .upsert { beatJob with id := "past", trigger := .date (atSecond 10) } (atSecond 20),
    .upsert { beatJob with id := "ahead", trigger := .date (atSecond 100) } (atSecond 20)]

def crewed : Scheduler :=
  let scheduler := (Scheduler.new Settings.default Registry.empty 1).toOption.getD default
  (scheduler.start Instant.epoch).1.withJobs (empty.run crew)

theorem crew_wakes_for_ready :
    let table := empty.run crew
    let isActive (task : TaskId) : Bool := decide (task = TaskId.ofNumber 1)
    let later := (table.takeDue (atSecond 40) isActive).1
    let due := (table.takeDue (atSecond 40) isActive).2
    table.Ascending ∧ table.nextWake isActive = some (atSecond 30) ∧
      (∃ entry, entry ∈ due) ∧ due.map DueJob.id = ["ready"] ∧
      (∀ entry ∈ due, atSecond 30 ≤ entry.scheduledFor ∧ entry.scheduledFor ≤ atSecond 40) ∧
      later.find? "past" = table.find? "past" ∧
      (∃ job ∈ later.jobs, job.id = "busy" ∧ isActive (TaskId.ofNumber 1) = true ∧
        ⟨job.id, atSecond 30, job.definition.request⟩ ∈
          (later.takeDue (atSecond 41) fun _ => false).2) ∧
      crewed.isListening = true ∧
      ∃ sooner, Simulation.wake ⟨crewed, 0⟩ = some sooner ∧ sooner ≤ atSecond 30 := by
  intro table isActive later due
  obtain ⟨reached, passes, loops⟩ := due_jobs_wake
  have ascending : table.Ascending := reached crew
  obtain ⟨⟨_, taken⟩, ⟨_, _, kept, waits⟩, wakes, meets⟩ :=
    passes table ascending (atSecond 40) isActive
  have woken : table.nextWake isActive = some (atSecond 30) := by decide +kernel
  have some_due := meets.mpr ⟨atSecond 30, woken, by decide +kernel⟩
  have ready : due.map DueJob.id = ["ready"] := by decide +kernel
  have timely (entry : DueJob) (member : entry ∈ due) :
      atSecond 30 ≤ entry.scheduledFor ∧ entry.scheduledFor ≤ atSecond 40 := by
    obtain ⟨job, listed, plans, arrived, _⟩ := (taken entry).mp member
    exact ⟨((wakes (atSecond 30)).mp woken).2 ⟨job, listed, plans⟩, arrived⟩
  have past : later.find? "past" = table.find? "past" := by
    apply kept
    rw [ready]
    decide
  obtain ⟨job, found, last, planned, enabled⟩ : ∃ job, table.find? "busy" = some job ∧
      job.lastTask = some (TaskId.ofNumber 1) ∧ job.nextFireAt = some (atSecond 30) ∧
        job.definition.enabled = true :=
    ⟨_, rfl, rfl, by decide +kernel, rfl⟩
  obtain ⟨still, again⟩ := waits job (find_member table "busy" job found) _ last (by decide)
  have idle := again (fun _ => false) rfl (atSecond 30) (atSecond 41) planned enabled (by decide +kernel)
  have listening : crewed.isListening = true := by decide +kernel
  have sooner := (loops crewed (atSecond 40)).2 0 (atSecond 30) listening (by decide +kernel)
  exact ⟨ascending, woken, some_due, ready, timely, past,
    ⟨job, still, find_named table "busy" job found, by decide, idle⟩, listening, sooner⟩

end JobTable

end Foreman
