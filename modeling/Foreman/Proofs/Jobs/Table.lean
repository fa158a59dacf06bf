import Mathlib.Data.List.Perm.Basic
import Mathlib.Data.List.Nodup
import Mathlib.Data.List.Find
import Foreman.Job

set_option autoImplicit false

namespace Foreman.JobTable

def ids (table : JobTable) : List String := table.entries.map Prod.fst

theorem job_ids (table : JobTable) : table.jobs.map Job.id = table.ids := by
  rw [jobs, ids, List.map_map]
  exact List.map_congr_left table.keyed

def Keeps (table next : JobTable) (id : String) : Prop :=
  ∀ job, table.find? id = some job →
    ∃ later, next.find? id = some later ∧ later.lastTask = job.lastTask

section Find

variable (table : JobTable) (id : String)

theorem keeps_refl : table.Keeps table id :=
  fun job found => ⟨job, found, rfl⟩

theorem find_by_id : table.find? id = table.jobs.find? fun job => job.id == id := by
  have same (entry : String × Job) (member : entry ∈ table.entries) :
      (entry.1 == id) = (entry.2.id == id) := by rw [table.keyed entry member]
  rw [find?, jobs, List.find?_map, List.find?_congr same]
  rfl

theorem find_named (job : Job) (found : table.find? id = some job) : job.id = id := by
  rw [find_by_id] at found
  simpa using List.find?_some found

theorem find_member (job : Job) (found : table.find? id = some job) : job ∈ table.jobs := by
  rw [find_by_id] at found
  exact List.mem_of_find?_eq_some found

theorem find_listed (distinct : table.ids.Nodup) (job : Job) (member : job ∈ table.jobs) :
    table.find? job.id = some job := by
  have unique (other : Job) (present : other ∈ table.jobs) (same : other.id = job.id) :
      other = job :=
    List.inj_on_of_nodup_map ((job_ids table).symm ▸ distinct) present member same
  cases found : table.find? job.id with
  | none =>
      rw [find_by_id] at found
      have absent := List.find?_eq_none.mp found job member
      simp at absent
  | some other =>
      rw [unique other (find_member table job.id other found) (find_named table job.id other found)]

theorem absent_ids (missing : table.find? id = none) (entry : String × Job)
    (member : entry ∈ table.entries) : entry.1 ≠ id := by
  simpa using List.find?_eq_none.mp (Option.map_eq_none_iff.mp missing) entry member

end Find

section Alter

variable (table : JobTable) (isChanged : Bool) (change : String → Job → Job)
  (named : ∀ id job, job.id = id → (change id job).id = id)

theorem alter_find (id : String) :
    (table.alter isChanged change named).find? id = (table.find? id).map (change id) := by
  have same : ((fun entry : String × Job => entry.1 == id) ∘
      fun entry : String × Job => (entry.1, change entry.1 entry.2)) =
        fun entry => entry.1 == id := rfl
  rw [find?, alter, List.find?_map, same, find?]
  cases found : table.entries.find? fun entry => entry.1 == id with
  | none => rfl
  | some entry =>
      have own : entry.1 = id := by simpa using List.find?_some found
      rw [← own]
      rfl

theorem alter_ids : (table.alter isChanged change named).ids = table.ids := List.map_map

theorem alter_member (job : Job) (member : job ∈ (table.alter isChanged change named).jobs) :
    ∃ id, ∃ old ∈ table.jobs, job = change id old := by
  obtain ⟨_, changed, rfl⟩ := List.mem_map.mp member
  obtain ⟨entry, listed, rfl⟩ := List.mem_map.mp changed
  exact ⟨entry.1, entry.2, List.mem_map_of_mem listed, rfl⟩

end Alter

theorem update_ids (table : JobTable) (isChanged : Bool) (id : String) (change : Job → Job)
    (named : ∀ job : Job, job.id = id → (change job).id = id) :
    (table.update isChanged id change named).ids = table.ids := alter_ids table isChanged _ _

theorem update_find (table : JobTable) (isChanged : Bool) (id other : String) (change : Job → Job)
    (named : ∀ job : Job, job.id = other → (change job).id = other) :
    (table.update isChanged other change named).find? id =
      if other = id then (table.find? id).map change else table.find? id := by
  refine (alter_find table isChanged (updated other change) _ id).trans ?_
  cases table.find? id with
  | none => simp
  | some job =>
      by_cases same : other = id
      · simp [updated, same]
      · simp [updated, same, Ne.symm same]

section Place

variable (entry : String × Job) (entries : List (String × Job))

theorem place_find (id : String) (different : entry.1 ≠ id) :
    (place entry entries).find? (fun other => other.1 == id) =
      entries.find? fun other => other.1 == id := by
  have passed : (entry.1 == id) = false := by simpa using different
  induction entries with
  | nil => simp [place, passed]
  | cons other rest ih =>
      unfold place
      split
      · simp [passed]
      · simp only [List.find?_cons, ih]

theorem place_find_own (absent : ∀ other ∈ entries, other.1 ≠ entry.1) :
    (place entry entries).find? (fun other => other.1 == entry.1) = some entry := by
  induction entries with
  | nil => simp [place]
  | cons other rest ih =>
      have passed : (other.1 == entry.1) = false := by
        simpa using absent other List.mem_cons_self
      by_cases first : entry.1 < other.1
      · simp [place, first]
      · rw [place, if_neg first, List.find?_cons, passed]
        exact ih fun later member => absent later (List.mem_cons_of_mem other member)

end Place

section Changes

variable (table : JobTable) (id : String) (now : Instant)

theorem upsert_find (definition : JobDefinition) :
    (table.upsert definition now).1.find? id =
      if definition.id = id then
        some (((table.find? id).getD (.fresh definition)).redefined definition now)
      else table.find? id := by
  cases found : table.find? definition.id with
  | some job =>
      simp only [upsert, found]
      refine (update_find table true id definition.id _ _).trans ?_
      by_cases same : definition.id = id
      · rw [if_pos same, if_pos same, ← same, found]
        rfl
      · rw [if_neg same, if_neg same]
  | none =>
      simp only [upsert, found]
      let job := (Job.fresh definition).redefined definition now
      by_cases same : definition.id = id
      · rw [if_pos same, ← same, found]
        exact congrArg (Option.map Prod.snd) (place_find_own (job.id, job) table.entries
          (absent_ids table definition.id found))
      · rw [if_neg same]
        exact congrArg (Option.map Prod.snd) (place_find (job.id, job) table.entries id same)

theorem upsert_keeps (definition : JobDefinition) :
    table.Keeps (table.upsert definition now).1 id := by
  intro job found
  rw [upsert_find, found]
  by_cases same : definition.id = id
  · exact ⟨job.redefined definition now, if_pos same, rfl⟩
  · exact ⟨job, if_neg same, rfl⟩

theorem upsert_distinct (definition : JobDefinition) (distinct : table.ids.Nodup) :
    (table.upsert definition now).1.ids.Nodup := by
  unfold upsert
  split
  · simpa only [update_ids] using distinct
  · rename_i missing
    let job := (Job.fresh definition).redefined definition now
    have placed := (place_perm (job.id, job) table.entries).map Prod.fst
    refine (placed.nodup_iff).mpr (List.nodup_cons.mpr ⟨?_, distinct⟩)
    intro member
    obtain ⟨other, present, same⟩ := List.mem_map.mp member
    exact absent_ids table definition.id missing other present same

theorem remove_find (other : String) :
    (table.remove other).1.find? id = if other = id then none else table.find? id := by
  cases found : table.find? other with
  | none =>
      simp only [remove, found]
      by_cases same : other = id
      · rw [if_pos same, ← same, found]
      · rw [if_neg same]
  | some job =>
      simp only [remove, found]
      by_cases same : other = id
      · rw [if_pos same, find?, Option.map_eq_none_iff, List.find?_eq_none]
        intro entry member
        simpa [same] using (List.mem_filter.mp member).2
      · rw [if_neg same, find?, without, List.find?_filter, find?]
        congr 2
        funext entry
        by_cases here : entry.1 = id
        · simp [here, Ne.symm same]
        · simp [here]

theorem remove_keeps (other : String) (different : other ≠ id) :
    table.Keeps (table.remove other).1 id := by
  intro job found
  exact ⟨job, (remove_find table id other).trans ((if_neg different).trans found), rfl⟩

theorem remove_distinct (other : String) (distinct : table.ids.Nodup) :
    (table.remove other).1.ids.Nodup := by
  unfold remove
  split
  · exact distinct.sublist (List.filter_sublist.map _)
  · exact distinct

theorem with_enabled_last (enabled : Bool) (job : Job) :
    (withEnabled enabled now job).lastTask = job.lastTask := by
  unfold withEnabled
  split <;> rfl

theorem set_enabled_find (other : String) (enabled : Bool) :
    (table.setEnabled other enabled now).1.find? id =
      if other = id then (table.find? id).map (withEnabled enabled now) else table.find? id := by
  cases found : table.find? other with
  | some job =>
      simp only [setEnabled, found]
      exact update_find table true id other (withEnabled enabled now) _
  | none =>
      simp only [setEnabled, found]
      by_cases same : other = id
      · rw [if_pos same, ← same, found]
        rfl
      · rw [if_neg same]

theorem set_enabled_keeps (other : String) (enabled : Bool) :
    table.Keeps (table.setEnabled other enabled now).1 id := by
  intro job found
  rw [set_enabled_find, found]
  by_cases same : other = id
  · exact ⟨withEnabled enabled now job, if_pos same, with_enabled_last now enabled job⟩
  · exact ⟨job, if_neg same, rfl⟩

theorem set_enabled_distinct (other : String) (enabled : Bool) (distinct : table.ids.Nodup) :
    (table.setEnabled other enabled now).1.ids.Nodup := by
  unfold setEnabled
  split
  · rw [update_ids]
    exact distinct
  · exact distinct

end Changes

section Fires

variable (table : JobTable) (now : Instant) (isActive : TaskId → Bool)

theorem advanced_last (job : Job) : (advanced now isActive job).lastTask = job.lastTask := by
  unfold advanced
  split <;> rfl

theorem take_due_find (id : String) :
    (table.takeDue now isActive).1.find? id = (table.find? id).map (advanced now isActive) := by
  rw [takeDue, alter_find]

theorem take_due_jobs :
    (table.takeDue now isActive).1.jobs = table.jobs.map (advanced now isActive) := by
  simp only [takeDue, alter, jobs, List.map_map, Function.comp_def]

theorem take_due_keeps (id : String) : table.Keeps (table.takeDue now isActive).1 id := by
  intro job found
  rw [take_due_find, found]
  exact ⟨advanced now isActive job, rfl, advanced_last now isActive job⟩

theorem take_due_distinct (distinct : table.ids.Nodup) :
    (table.takeDue now isActive).1.ids.Nodup := by
  rw [takeDue, alter_ids]
  exact distinct

theorem due_job_iff (job : Job) (due : DueJob) :
    dueJob now isActive job = some due ↔
      job.isDue now isActive = true ∧ job.nextFireAt = some due.scheduledFor ∧
        due.id = job.id ∧ due.request = job.definition.request := by
  cases due with
  | mk id scheduledFor request =>
      cases planned : job.nextFireAt with
      | none => simp [dueJob, planned]
      | some time =>
          by_cases ready : job.isDue now isActive = true
          · simp only [dueJob, planned, if_pos ready, Option.some.injEq, DueJob.mk.injEq]
            constructor
            · intro same
              exact ⟨ready, same.2.1, same.1.symm, same.2.2.symm⟩
            · intro same
              exact ⟨same.2.2.1.symm, same.2.1, same.2.2.2.symm⟩
          · simp [dueJob, planned, ready]

theorem due_job_none (job : Job) (resting : job.isDue now isActive = false) :
    dueJob now isActive job = none := by
  rw [Option.eq_none_iff_forall_ne_some]
  intro due taken
  have ready := ((due_job_iff now isActive job due).mp taken).1
  rw [resting] at ready
  cases ready

theorem due_iff (job : Job) :
    job.isDue now isActive = true ↔
      job.definition.enabled = true ∧ job.inFlight isActive = false ∧
        ∃ time, job.nextFireAt = some time ∧ time ≤ now := by
  cases planned : job.nextFireAt with
  | none => simp [Job.isDue, planned]
  | some time => simp [Job.isDue, planned, and_assoc, and_comm]

theorem due_job_taken (job : Job) (ready : job.isDue now isActive = true) :
    ∃ time, dueJob now isActive job = some ⟨job.id, time, job.definition.request⟩ := by
  obtain ⟨_, _, time, planned, _⟩ := (due_iff now isActive job).mp ready
  exact ⟨time, (due_job_iff now isActive job _).mpr ⟨ready, planned, rfl, rfl⟩⟩

theorem take_due_source (distinct : table.ids.Nodup) (due : DueJob)
    (member : due ∈ (table.takeDue now isActive).2) :
    ∃ job, table.find? due.id = some job ∧ dueJob now isActive job = some due := by
  obtain ⟨job, listed, taken⟩ := List.mem_filterMap.mp member
  have named := ((due_job_iff now isActive job due).mp taken).2.2.1
  exact ⟨job, named ▸ find_listed table distinct job listed, taken⟩

theorem take_due_found (distinct : table.ids.Nodup) (due : DueJob)
    (member : due ∈ (table.takeDue now isActive).2) :
    ∃ job, table.find? due.id = some job ∧ job.inFlight isActive = false := by
  obtain ⟨job, found, taken⟩ := take_due_source table now isActive distinct due member
  have ready := ((due_job_iff now isActive job due).mp taken).1
  exact ⟨job, found, ((due_iff now isActive job).mp ready).2.1⟩

theorem take_due_fired (distinct : table.ids.Nodup) (due : DueJob)
    (member : due ∈ (table.takeDue now isActive).2) :
    ∃ job, table.find? due.id = some job ∧ dueJob now isActive job = some due ∧
      (table.takeDue now isActive).1.find? due.id = some (job.fired now) := by
  obtain ⟨job, found, taken⟩ := take_due_source table now isActive distinct due member
  have ready := ((due_job_iff now isActive job due).mp taken).1
  refine ⟨job, found, taken, ?_⟩
  rw [take_due_find, found, Option.map_some, advanced, if_pos ready]

theorem take_due_advanced (distinct : table.ids.Nodup) (due : DueJob)
    (member : due ∈ (table.takeDue now isActive).2) :
    ∃ job, table.find? due.id = some job ∧ job.isDue now isActive = true ∧
      job.nextFireAt = some due.scheduledFor ∧
      (table.takeDue now isActive).1.find? due.id = some (job.fired now) := by
  obtain ⟨job, found, taken, later⟩ := take_due_fired table now isActive distinct due member
  obtain ⟨ready, planned, _, _⟩ := (due_job_iff now isActive job due).mp taken
  exact ⟨job, found, ready, planned, later⟩

theorem due_ids (jobs : List Job) :
    ((jobs.filterMap (dueJob now isActive)).map DueJob.id).Sublist (jobs.map Job.id) := by
  induction jobs with
  | nil => exact .slnil
  | cons job rest ih =>
      cases taken : dueJob now isActive job with
      | none =>
          rw [List.filterMap_cons_none taken]
          exact .cons _ ih
      | some due =>
          have named := ((due_job_iff now isActive job due).mp taken).2.2.1
          rw [List.filterMap_cons_some taken, List.map_cons, List.map_cons, named]
          exact .cons_cons _ ih

theorem take_due_ids : ((table.takeDue now isActive).2.map DueJob.id).Sublist table.ids :=
  job_ids table ▸ due_ids now isActive table.jobs

theorem take_due_once (distinct : table.ids.Nodup) :
    ((table.takeDue now isActive).2.map DueJob.id).Nodup :=
  distinct.sublist (take_due_ids table now isActive)

theorem due_absent (id : String) (jobs : List Job) (absent : id ∉ jobs.map Job.id) :
    ((jobs.filterMap (dueJob now isActive)).filter fun due => due.id == id) = [] := by
  rw [List.filter_eq_nil_iff]
  intro due member here
  have among := (due_ids now isActive jobs).subset (List.mem_map_of_mem member)
  exact absent (beq_iff_eq.mp here ▸ among)

theorem due_own (id : String) (jobs : List Job) (distinct : (jobs.map Job.id).Nodup) :
    ((jobs.filterMap (dueJob now isActive)).filter fun due => due.id == id) =
      ((jobs.find? fun job => job.id == id).bind (dueJob now isActive)).toList := by
  induction jobs with
  | nil => rfl
  | cons job rest ih =>
      obtain ⟨apart, behind⟩ := List.nodup_cons.mp distinct
      by_cases same : job.id = id
      · have others := due_absent now isActive id rest (same ▸ apart)
        cases taken : dueJob now isActive job with
        | none => simp [List.filterMap_cons_none taken, others, same, taken]
        | some due =>
            have named := ((due_job_iff now isActive job due).mp taken).2.2.1
            simp [List.filterMap_cons_some taken, others, same, taken, named]
      · rw [List.find?_cons, beq_eq_false_iff_ne.mpr same, ← ih behind]
        cases taken : dueJob now isActive job with
        | none => rw [List.filterMap_cons_none taken]
        | some due =>
            have named := ((due_job_iff now isActive job due).mp taken).2.2.1
            simp [List.filterMap_cons_some taken, named, same]

theorem take_due_own (distinct : table.ids.Nodup) (id : String) :
    ((table.takeDue now isActive).2.filter fun due => due.id == id) =
      ((table.find? id).bind (dueJob now isActive)).toList := by
  rw [find_by_id]
  exact due_own now isActive id table.jobs ((job_ids table).symm ▸ distinct)

variable (id : String) (task : TaskId)

theorem record_fire_find (other : String) :
    (table.recordFire other task).find? id =
      if other = id then (table.find? id).map fun job => { job with lastTask := some task }
      else table.find? id :=
  update_find table table.isChanged id other (Job.submitted · task) _

theorem record_fire_own (job : Job) (found : table.find? id = some job) :
    ∃ later, (table.recordFire id task).find? id = some later ∧ later.lastTask = some task := by
  rw [record_fire_find, if_pos rfl, found]
  exact ⟨{ job with lastTask := some task }, rfl, rfl⟩

theorem record_fire_keeps (other : String) (different : other ≠ id) :
    table.Keeps (table.recordFire other task) id := by
  intro job found
  exact ⟨job, (record_fire_find table id task other).trans ((if_neg different).trans found), rfl⟩

theorem record_fire_distinct (other : String) (distinct : table.ids.Nodup) :
    (table.recordFire other task).ids.Nodup := by
  rw [recordFire, update_ids]
  exact distinct

end Fires

end Foreman.JobTable
