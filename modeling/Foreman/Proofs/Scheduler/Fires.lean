import Foreman.Proofs.Jobs.Table
import Foreman.Proofs.Scheduler.Moves

set_option autoImplicit false

namespace Foreman

theorem Board.is_active_iff (board : Board) (intact : board.store.Intact) (id : TaskId) :
    board.isActive id = true ↔
      ∃ record, board.store.find? id = some record ∧ record.state.isTerminal = false := by
  rw [Board.isActive, Store.get_intact board.store intact]
  cases found : board.store.find? id with
  | none => simp
  | some record => simp

theorem accepted_inactive (board last : Board) (balanced : last.Balanced) (id : TaskId)
    (absent : board.store.find? id = none) (result : Except SchedulerError Ticket)
    (accepted : Accepted board id last result) (failed : ∀ ticket, result ≠ .ok ticket) :
    last.isActive id = false := by
  by_contra active
  obtain ⟨later, found, unfinished⟩ :=
    (last.is_active_iff balanced.intact id).mp (by simpa using active)
  cases accepted with
  | entered ticket now named token => exact failed ticket rfl
  | refused record cause last named ended aside tokens =>
      subst named
      have own := Board.stored_same board record absent
      have stays := Board.change_final _ _ _ aside record.id record (by simp) own ended
      rw [stays, Option.some.injEq] at found
      rw [← found, ended] at unfinished
      cases unfinished
  | full capacity =>
      rw [absent] at found
      cases found

namespace JobTable

section Written

variable (table : JobTable) (job : String) (id : TaskId) (result : Except SchedulerError Ticket)

theorem written_distinct (distinct : table.ids.Nodup) : (table.written job id result).ids.Nodup := by
  unfold written
  split
  · exact record_fire_distinct table id job distinct
  · rename_i task cause
    exact record_fire_distinct table task job distinct
  · exact distinct

theorem written_keeps (other : String) (different : job ≠ other) :
    table.Keeps (table.written job id result) other := by
  unfold written
  split
  · exact record_fire_keeps table other id job different
  · rename_i task cause
    exact record_fire_keeps table other task job different
  · exact keeps_refl table other

theorem written_own (entry : Job) (found : table.find? job = some entry) :
    ∃ later, (table.written job id result).find? job = some later ∧
      ∀ ticket, result = .ok ticket → later.lastTask = some id := by
  unfold written
  split
  · obtain ⟨later, stays, last⟩ := record_fire_own table job id entry found
    exact ⟨later, stays, fun _ _ => last⟩
  · rename_i task cause
    obtain ⟨later, stays, _⟩ := record_fire_own table job task entry found
    exact ⟨later, stays, fun ticket made => by cases made⟩
  · exact ⟨entry, found, fun ticket made => by cases made⟩

end Written

end JobTable

namespace Scheduler

theorem dispatch_board (scheduler : Scheduler) (ticket : Ticket) (now : Instant) :
    (scheduler.dispatch ticket now).board = scheduler.board := by
  rcases dispatch_cases scheduler now ticket with ⟨same, _⟩ | handed
  · rw [same]
  · rw [handed]
    exact Workshop.hand_board scheduler.shop ticket

theorem settle_fire_jobs (scheduler : Scheduler) (due : DueJob) (id : TaskId) (now : Instant)
    (result : Except SchedulerError Ticket) :
    (scheduler.settleFire due id now result).board.jobs =
      scheduler.board.jobs.written due.id id result := by
  rcases settle_fire_cases scheduler now due id result with
    ⟨ticket, event, _, handed⟩ | ⟨_, written | ⟨event, told⟩⟩
  · rw [handed, dispatch_board]
    rfl
  · rw [written]
    rfl
  · rw [told]
    rfl

theorem jobs_move (scheduler : Scheduler) (now : Instant) (job : String) (move : Move)
    (planning : move.IsPlanning) (kept : move ≠ .removeJob job) :
    scheduler.board.jobs.Keeps (scheduler.perform now move).board.jobs job ∧
      (scheduler.board.jobs.ids.Nodup → (scheduler.perform now move).board.jobs.ids.Nodup) := by
  have same : scheduler.board.jobs.Keeps scheduler.board.jobs job ∧
      (scheduler.board.jobs.ids.Nodup → scheduler.board.jobs.ids.Nodup) :=
    ⟨JobTable.keeps_refl _ job, fun distinct => distinct⟩
  cases move with
  | addJob definition =>
      rw [perform]
      rcases add_job_cases scheduler now definition with unchanged | ⟨event, changed⟩
      · rw [unchanged]
        exact same
      · rw [changed]
        exact ⟨JobTable.upsert_keeps _ job now definition,
          JobTable.upsert_distinct _ now definition⟩
  | removeJob id =>
      have different : id ≠ job := fun named => kept (named ▸ rfl)
      rw [perform]
      rcases remove_job_cases scheduler now id with unchanged | ⟨event, changed⟩
      · rw [unchanged]
        exact same
      · rw [changed]
        exact ⟨JobTable.remove_keeps _ job id different, JobTable.remove_distinct _ id⟩
  | setJobEnabled id enabled =>
      rw [perform]
      rcases set_job_cases scheduler now id enabled with unchanged | ⟨event, changed⟩
      · rw [unchanged]
        exact same
      · rw [changed]
        exact ⟨JobTable.set_enabled_keeps _ job now id enabled,
          JobTable.set_enabled_distinct _ now id enabled⟩
  | _ => cases planning

end Scheduler

end Foreman
