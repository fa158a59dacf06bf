import Foreman.Proofs.Jobs.Table
import Foreman.Scheduler.Jobs
import Mathlib.Data.String.Basic

set_option autoImplicit false

namespace Foreman.JobTable

inductive Edit (table : JobTable) : JobTable → Prop where
  | same : Edit table table
  | added (definition : JobDefinition) (now : Instant) (valid : definition.validate = .ok ()) :
      Edit table (table.upsert definition now).1
  | removed (id : String) : Edit table (table.remove id).1
  | toggled (id : String) (enabled : Bool) (now : Instant) :
      Edit table (table.setEnabled id enabled now).1
  | taken (now : Instant) (isActive : TaskId → Bool) : Edit table (table.takeDue now isActive).1
  | fired (id : String) (task : TaskId) : Edit table (table.recordFire id task)

section Order

def Ascending (table : JobTable) : Prop := table.ids.Pairwise (· < ·)

theorem ascending_distinct (table : JobTable) (ascending : table.Ascending) : table.ids.Nodup :=
  ascending.imp fun before => before.ne

theorem place_ascending (entry : String × Job) (entries : List (String × Job))
    (ascending : (entries.map Prod.fst).Pairwise (· < ·))
    (absent : ∀ other ∈ entries, other.1 ≠ entry.1) :
    ((place entry entries).map Prod.fst).Pairwise (· < ·) := by
  induction entries with
  | nil => simp [place]
  | cons other rest ih =>
      obtain ⟨least, behind⟩ := List.pairwise_cons.mp ascending
      unfold place
      by_cases first : entry.1 < other.1
      · rw [if_pos first, List.map_cons, List.pairwise_cons]
        refine ⟨?_, ascending⟩
        intro id member
        rcases List.mem_cons.mp member with same | later
        · exact same ▸ first
        · exact first.trans (least id later)
      · have before : other.1 < entry.1 :=
          lt_of_le_of_ne (not_lt.mp first) (absent other List.mem_cons_self)
        rw [if_neg first, List.map_cons, List.pairwise_cons]
        refine ⟨?_, ih behind fun later member => absent later (List.mem_cons_of_mem other member)⟩
        intro id member
        rw [((place_perm entry rest).map Prod.fst).mem_iff, List.map_cons, List.mem_cons] at member
        rcases member with same | later
        · exact same ▸ before
        · exact least id later

theorem upsert_ascending (table : JobTable) (definition : JobDefinition) (now : Instant)
    (ascending : table.Ascending) : (table.upsert definition now).1.Ascending := by
  unfold upsert
  cases found : table.find? definition.id with
  | some job => simpa only [Ascending, update_ids] using ascending
  | none =>
      exact place_ascending _ table.entries ascending (absent_ids table definition.id found)

theorem edit_ascending (table next : JobTable) (ascending : table.Ascending)
    (edit : Edit table next) : next.Ascending := by
  cases edit with
  | same => exact ascending
  | added definition now _ => exact upsert_ascending table definition now ascending
  | removed id =>
      unfold remove
      split
      · exact ascending.sublist (List.filter_sublist.map _)
      · exact ascending
  | toggled id enabled now =>
      unfold setEnabled
      split
      · rw [Ascending, update_ids]
        exact ascending
      · exact ascending
  | taken now isActive =>
      rw [Ascending, takeDue, alter_ids]
      exact ascending
  | fired id task =>
      rw [Ascending, recordFire, update_ids]
      exact ascending

theorem due_ascending (table : JobTable) (ascending : table.Ascending) (now : Instant)
    (isActive : TaskId → Bool) :
    ((table.takeDue now isActive).2.map DueJob.id).Pairwise (· < ·) :=
  ascending.sublist (take_due_ids table now isActive)

theorem taken_fired (table : JobTable) (ascending : table.Ascending) (now : Instant)
    (isActive : TaskId → Bool) (due : DueJob) (member : due ∈ (table.takeDue now isActive).2) :
    ∃ job, table.find? due.id = some job ∧ job.definition.request = due.request ∧
      (table.takeDue now isActive).1.find? due.id = some (job.fired now) := by
  obtain ⟨job, found, taken, later⟩ :=
    take_due_fired table now isActive (ascending_distinct table ascending) due member
  obtain ⟨_, _, _, carried⟩ := (due_job_iff now isActive job due).mp taken
  exact ⟨job, found, carried.symm, later⟩

theorem untaken_kept (table : JobTable) (now : Instant) (isActive : TaskId → Bool)
    (id : String) (untaken : id ∉ (table.takeDue now isActive).2.map DueJob.id) :
    (table.takeDue now isActive).1.find? id = table.find? id := by
  rw [take_due_find]
  cases found : table.find? id with
  | none => rfl
  | some job =>
      have resting : ¬ job.isDue now isActive = true := by
        intro ready
        obtain ⟨time, taken⟩ := due_job_taken now isActive job ready
        have listed := List.mem_filterMap.mpr ⟨job, find_member table id job found, taken⟩
        exact untaken (List.mem_map.mpr ⟨_, listed, find_named table id job found⟩)
      rw [Option.map_some, advanced, if_neg resting]

end Order

section Pledged

def Pledged (table : JobTable) : Prop := ∀ job ∈ table.jobs, job.definition.validate = .ok ()

theorem altered_pledged (table : JobTable) (pledged : table.Pledged) (isChanged : Bool)
    (change : String → Job → Job) (named : ∀ id job, job.id = id → (change id job).id = id)
    (valid : ∀ id job, job.definition.validate = .ok () →
      (change id job).definition.validate = .ok ()) :
    (table.alter isChanged change named).Pledged := by
  intro job member
  obtain ⟨id, old, listed, rfl⟩ := alter_member table isChanged change named job member
  exact valid id old (pledged old listed)

theorem updated_pledged (table : JobTable) (pledged : table.Pledged) (isChanged : Bool) (id : String)
    (change : Job → Job) (named : ∀ job : Job, job.id = id → (change job).id = id)
    (valid : ∀ job, job.definition.validate = .ok () → (change job).definition.validate = .ok ()) :
    (table.update isChanged id change named).Pledged := by
  refine altered_pledged table pledged isChanged _ _ fun key job pledge => ?_
  unfold updated
  split
  · exact valid job pledge
  · exact pledge

theorem edit_pledged (table next : JobTable) (pledged : table.Pledged) (edit : Edit table next) :
    next.Pledged := by
  cases edit with
  | same => exact pledged
  | added definition now valid =>
      unfold upsert
      split
      · exact updated_pledged table pledged true definition.id (Job.redefined · definition now)
          (fun job _ => job.redefined_id definition now) fun _ _ => valid
      · intro job member
        obtain ⟨entry, placed, rfl⟩ := List.mem_map.mp member
        rcases List.mem_cons.mp ((place_perm _ table.entries).mem_iff.mp placed) with new | old
        · rw [new]
          exact valid
        · exact pledged entry.2 (List.mem_map_of_mem old)
  | removed id =>
      unfold remove
      split
      · intro job member
        obtain ⟨entry, kept, rfl⟩ := List.mem_map.mp member
        exact pledged entry.2 (List.mem_map_of_mem (List.mem_filter.mp kept).1)
      · exact pledged
  | toggled id enabled now =>
      unfold setEnabled
      split
      · refine updated_pledged table pledged true id (withEnabled enabled now)
          (fun job own => (with_enabled_id enabled now job).trans own) fun job valid => ?_
        unfold withEnabled
        split
        · exact valid
        · exact valid
      · exact pledged
  | taken now isActive =>
      refine altered_pledged table pledged table.isChanged _ _ fun _ job valid => ?_
      unfold advanced
      split
      · exact valid
      · exact valid
  | fired id task =>
      exact updated_pledged table pledged table.isChanged id _ _ fun _ valid => valid

theorem due_pledged (table : JobTable) (pledged : table.Pledged) (now : Instant)
    (isActive : TaskId → Bool) (due : DueJob) (member : due ∈ (table.takeDue now isActive).2) :
    ∃ definition : JobDefinition, definition.validate = .ok () ∧ definition.id = due.id ∧
      definition.request = due.request := by
  obtain ⟨job, listed, taken⟩ := List.mem_filterMap.mp member
  obtain ⟨_, _, named, carried⟩ := (due_job_iff now isActive job due).mp taken
  exact ⟨job.definition, pledged job listed, named.symm, carried.symm⟩

end Pledged

end Foreman.JobTable
