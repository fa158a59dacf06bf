import Foreman.Task.Request
import Foreman.Trigger.Basic

set_option autoImplicit false

namespace Foreman

structure JobDefinition where
  id : String
  trigger : Trigger
  request : Request
  enabled : Bool
deriving Inhabited

structure Job where
  definition : JobDefinition
  nextFireAt : Option Instant
  lastFiredAt : Option Instant
  lastTask : Option TaskId
  fireCount : Nat
deriving Inhabited

namespace Job

def id (job : Job) : String := job.definition.id

def fresh (definition : JobDefinition) : Job := ⟨definition, none, none, none, 0⟩

def firstFire (definition : JobDefinition) (now : Instant) : Option Instant :=
  if definition.enabled then definition.trigger.next none now else none

def redefined (job : Job) (definition : JobDefinition) (now : Instant) : Job :=
  { job with definition := definition, nextFireAt := firstFire definition now }

theorem redefined_id (job : Job) (definition : JobDefinition) (now : Instant) :
    (job.redefined definition now).id = definition.id := rfl

def submitted (job : Job) (task : TaskId) : Job := { job with lastTask := some task }

theorem submitted_id (job : Job) (task : TaskId) : (job.submitted task).id = job.id := rfl

def inFlight (job : Job) (isActive : TaskId → Bool) : Bool :=
  job.lastTask.any isActive

def isDue (job : Job) (now : Instant) (isActive : TaskId → Bool) : Bool :=
  match job.nextFireAt with
  | none => false
  | some time => job.definition.enabled && decide (time ≤ now) && !job.inFlight isActive

def fired (job : Job) (now : Instant) : Job :=
  { job with
    nextFireAt := job.definition.trigger.next job.nextFireAt now
    lastFiredAt := some now
    fireCount := job.fireCount + 1 }

def toJson (job : Job) : Json :=
  .object
    [("enabled", .bool job.definition.enabled), ("fire_count", .int job.fireCount),
     ("id", .text job.id),
     ("last_fired_at", Json.ofOption Instant.toJson job.lastFiredAt),
     ("last_task", Json.ofOption TaskId.toJson job.lastTask),
     ("next_fire_at", Json.ofOption Instant.toJson job.nextFireAt),
     ("reference", .text job.definition.request.reference),
     ("trigger", .text job.definition.trigger.text)]

end Job

structure DueJob where
  id : String
  scheduledFor : Instant
  request : Request
deriving Inhabited

@[ext]
structure JobTable where
  entries : List (String × Job)
  isChanged : Bool
  keyed : ∀ entry ∈ entries, entry.2.id = entry.1

namespace JobTable

def empty : JobTable := ⟨[], false, List.forall_mem_nil _⟩

instance : Inhabited JobTable := ⟨empty⟩

def jobs (table : JobTable) : List Job := table.entries.map Prod.snd

def find? (table : JobTable) (id : String) : Option Job :=
  (table.entries.find? fun entry => entry.1 == id).map Prod.snd

def place (entry : String × Job) : List (String × Job) → List (String × Job)
  | [] => [entry]
  | other :: rest =>
      if entry.1 < other.1 then entry :: other :: rest else other :: place entry rest

theorem place_perm (entry : String × Job) (entries : List (String × Job)) :
    (place entry entries).Perm (entry :: entries) := by
  induction entries with
  | nil => exact .refl _
  | cons other rest ih =>
      unfold place
      split
      · exact .refl _
      · exact (ih.cons other).trans (.swap entry other rest)

def insert (table : JobTable) (job : Job) : JobTable where
  entries := place (job.id, job) table.entries
  isChanged := true
  keyed := by
    intro entry member
    rcases List.mem_cons.mp ((place_perm _ table.entries).mem_iff.mp member) with new | old
    · rw [new]
    · exact table.keyed entry old

def alter (table : JobTable) (isChanged : Bool) (change : String → Job → Job)
    (named : ∀ id job, job.id = id → (change id job).id = id) : JobTable where
  entries := table.entries.map fun entry => (entry.1, change entry.1 entry.2)
  isChanged := isChanged
  keyed := by
    intro entry member
    obtain ⟨old, listed, rfl⟩ := List.mem_map.mp member
    exact named old.1 old.2 (table.keyed old listed)

def updated (id : String) (change : Job → Job) (key : String) (job : Job) : Job :=
  if key = id then change job else job

theorem updated_id (id : String) (change : Job → Job)
    (named : ∀ job : Job, job.id = id → (change job).id = id) (key : String) (job : Job)
    (own : job.id = key) : (updated id change key job).id = key := by
  unfold updated
  split
  · rename_i same
    exact (named job (own.trans same)).trans same.symm
  · exact own

def update (table : JobTable) (isChanged : Bool) (id : String) (change : Job → Job)
    (named : ∀ job : Job, job.id = id → (change job).id = id) : JobTable :=
  table.alter isChanged (updated id change) (updated_id id change named)

def upsert (table : JobTable) (definition : JobDefinition) (now : Instant) :
    JobTable × Bool × Option Instant :=
  let next := Job.firstFire definition now
  match table.find? definition.id with
  | some _ =>
      (table.update true definition.id (Job.redefined · definition now) fun job _ =>
        job.redefined_id definition now, true, next)
  | none => (table.insert ((Job.fresh definition).redefined definition now), false, next)

def without (table : JobTable) (id : String) : JobTable where
  entries := table.entries.filter fun entry => entry.1 != id
  isChanged := true
  keyed := fun entry member => table.keyed entry (List.mem_filter.mp member).1

def remove (table : JobTable) (id : String) : JobTable × Option Job :=
  match table.find? id with
  | some job => (table.without id, some job)
  | none => (table, none)

def withEnabled (enabled : Bool) (now : Instant) (job : Job) : Job :=
  if job.definition.enabled = enabled then job
  else job.redefined { job.definition with enabled := enabled } now

theorem with_enabled_id (enabled : Bool) (now : Instant) (job : Job) :
    (withEnabled enabled now job).id = job.id := by
  unfold withEnabled
  split <;> rfl

def setEnabled (table : JobTable) (id : String) (enabled : Bool) (now : Instant) :
    JobTable × Option Job :=
  match table.find? id with
  | some job =>
      (table.update true id (withEnabled enabled now) fun job own =>
        (with_enabled_id enabled now job).trans own, some (withEnabled enabled now job))
  | none => (table, none)

def dueJob (now : Instant) (isActive : TaskId → Bool) (job : Job) : Option DueJob :=
  match job.nextFireAt with
  | none => none
  | some time =>
      if job.isDue now isActive then some ⟨job.id, time, job.definition.request⟩ else none

def advanced (now : Instant) (isActive : TaskId → Bool) (job : Job) : Job :=
  if job.isDue now isActive then job.fired now else job

theorem advanced_id (now : Instant) (isActive : TaskId → Bool) (job : Job) :
    (advanced now isActive job).id = job.id := by
  unfold advanced
  split <;> rfl

def takeDue (table : JobTable) (now : Instant) (isActive : TaskId → Bool) :
    JobTable × List DueJob :=
  (table.alter table.isChanged (fun _ => advanced now isActive) fun _ job own =>
    (advanced_id now isActive job).trans own, table.jobs.filterMap (dueJob now isActive))

def recordFire (table : JobTable) (id : String) (task : TaskId) : JobTable :=
  table.update table.isChanged id (Job.submitted · task) fun job own =>
    (job.submitted_id task).trans own

def wakeOf (isActive : TaskId → Bool) (job : Job) : Option Instant :=
  if job.definition.enabled && !job.inFlight isActive then job.nextFireAt else none

def nextWake (table : JobTable) (isActive : TaskId → Bool) : Option Instant :=
  (table.jobs.map (wakeOf isActive)).foldr Instant.earliest? none

def noticeChange (table : JobTable) : JobTable × Bool :=
  ({ table with isChanged := false }, table.isChanged)

end JobTable

end Foreman
