import Foreman.Proofs.Jobs.Edits
import Foreman.Proofs.Registry.Cache
import Foreman.Proofs.Scheduler.Fires
import Foreman.Proofs.Scheduler.Steady

set_option autoImplicit false

namespace Foreman

namespace Scheduler

def Faithful (scheduler : Scheduler) : Prop :=
  ∀ reference value, scheduler.cache.find? reference = some value →
    scheduler.registry.resolve reference = .ok value

structure Setup (scheduler next : Scheduler) : Prop where
  settings : next.settings = scheduler.settings
  registry : next.registry = scheduler.registry
  faithful : scheduler.Faithful → next.Faithful

section Moves

variable (scheduler : Scheduler) (now : Instant)

theorem setup_trans (between last : Scheduler) (first : scheduler.Setup between)
    (second : between.Setup last) : scheduler.Setup last :=
  ⟨second.settings.trans first.settings, second.registry.trans first.registry,
    fun faithful => second.faithful (first.faithful faithful)⟩

theorem setup_same (next : Scheduler) (settings : next.settings = scheduler.settings)
    (registry : next.registry = scheduler.registry) (cache : next.cache = scheduler.cache) :
    scheduler.Setup next :=
  ⟨settings, registry, fun faithful => by rw [Faithful, cache, registry]; exact faithful⟩

theorem faithful_answer (faithful : scheduler.Faithful) (reference : String) :
    (scheduler.cache.resolve scheduler.registry.resolve reference).2 =
      scheduler.registry.resolve reference := by
  cases found : scheduler.cache.find? reference with
  | some value =>
      rw [ResolverCache.resolve_known _ _ reference value found]
      exact (faithful reference value found).symm
  | none =>
      exact (ResolverCache.ask_unknown scheduler.cache ⟨reference, scheduler.registry.resolve⟩
        found).1

theorem faithful_kept (faithful : scheduler.Faithful) (reference other : String) (value : Callable)
    (known : (scheduler.cache.resolve scheduler.registry.resolve reference).1.find? other =
      some value) : scheduler.registry.resolve other = .ok value := by
  rcases ResolverCache.resolve_origin _ _ reference other value known with before | resolves
  · exact faithful other value before
  · exact resolves

theorem setup_asked (reference : String) (next : Scheduler)
    (settings : next.settings = scheduler.settings) (registry : next.registry = scheduler.registry)
    (cache : next.cache = (scheduler.cache.resolve scheduler.registry.resolve reference).1) :
    scheduler.Setup next := by
  refine ⟨settings, registry, fun faithful other value known => ?_⟩
  rw [registry]
  exact faithful_kept scheduler faithful reference other value (cache ▸ known)

theorem setup_accept (request : Request) (id : TaskId) :
    scheduler.Setup (scheduler.accept request id now).1 := by
  unfold accept
  dsimp only
  split
  · split <;> exact setup_asked _ request.reference _ rfl rfl rfl
  · exact setup_asked _ request.reference _ rfl rfl rfl

theorem setup_submit (request : Request) (id : TaskId) :
    scheduler.Setup (scheduler.submit request id now).1 := by
  have accepted := setup_accept scheduler now request id
  unfold submit
  split
  · exact setup_same _ _ rfl rfl rfl
  · split
    · split
      · rename_i next error same
        rw [same] at accepted
        exact accepted
      · rename_i next ticket same
        rw [same] at accepted
        exact ⟨accepted.settings, accepted.registry, accepted.faithful⟩
    · exact setup_same _ _ rfl rfl rfl

theorem setup_dispatch (ticket : Ticket) : scheduler.Setup (scheduler.dispatch ticket now) := by
  rcases dispatch_cases scheduler now ticket with ⟨same, _⟩ | same
  · rw [same]
    exact setup_same _ _ rfl rfl rfl
  · rw [same]
    exact setup_same _ _ rfl rfl rfl

theorem setup_receive : scheduler.Setup (scheduler.receive now) := by
  rcases receive_cases scheduler now with same | ⟨ticket, rest, _, same⟩ | ⟨mode, rest, _, same⟩
  · rw [same]
    exact setup_same _ _ rfl rfl rfl
  · rw [same]
    exact setup_trans scheduler { scheduler with inbox := rest } _ (setup_same _ _ rfl rfl rfl)
      (setup_dispatch _ now ticket)
  · rw [same]
    cases mode <;> exact setup_same _ _ rfl rfl rfl

theorem setup_settle_fire (due : DueJob) (id : TaskId) (result : Except SchedulerError Ticket) :
    scheduler.Setup (scheduler.settleFire due id now result) := by
  let written := scheduler.withJobs (scheduler.board.jobs.written due.id id result)
  rcases settle_fire_cases scheduler now due id result with
    ⟨ticket, event, _, same⟩ | ⟨_, same | ⟨event, same⟩⟩
  · rw [same]
    exact setup_trans scheduler (written.publish event) _ (setup_same _ _ rfl rfl rfl)
      (setup_dispatch _ now ticket)
  · rw [same]
    exact setup_same _ _ rfl rfl rfl
  · rw [same]
    exact setup_same _ _ rfl rfl rfl

theorem setup_fire (due : DueJob) (id : TaskId) :
    scheduler.Setup (scheduler.fireJob due id now) :=
  setup_trans scheduler _ _ (setup_accept scheduler now due.request id)
    (setup_settle_fire _ now due id _)

theorem setup_watch (token : Nat) :
    scheduler.Setup (scheduler.completeWatch token now) ∧
      scheduler.Setup (scheduler.expireWatch token now) ∧
      scheduler.Setup (scheduler.releaseWatch token) := by
  refine ⟨?_, ?_, ?_⟩
  · rcases complete_watch_cases scheduler now token with
      same | ⟨watch, _, ⟨_, same⟩ | ⟨state, outcome, _, same⟩⟩ <;> rw [same] <;> exact setup_same _ _ rfl rfl rfl
  · rcases expire_watch_cases scheduler now token with same | ⟨watch, _, same⟩ <;> rw [same] <;>
      exact setup_same _ _ rfl rfl rfl
  · rcases release_watch_cases scheduler token with same | ⟨_, same⟩ <;> rw [same] <;>
      exact setup_same _ _ rfl rfl rfl

theorem setup_move (move : Move) (unfired : ∀ ids, move ≠ .fireDue ids) :
    scheduler.Setup (scheduler.perform now move) := by
  by_cases planning : move.IsPlanning
  · rcases planning_cases scheduler now move planning with same | ⟨jobs, event, same⟩ <;>
      rw [same] <;> exact setup_same _ _ rfl rfl rfl
  · cases move with
    | start =>
        rcases start_cases scheduler now with same | ⟨_, same⟩ <;> rw [perform, same] <;>
          exact setup_same _ _ rfl rfl rfl
    | stop mode =>
        rcases stop_cases scheduler mode with same | ⟨_, same⟩ <;> rw [perform, same] <;>
          exact setup_same _ _ rfl rfl rfl
    | submit request id => exact setup_submit scheduler now request id
    | cancel id | evict id | work deed | permit gate count => exact setup_same _ _ rfl rfl rfl
    | receive =>
        rw [perform]
        split
        · exact setup_receive scheduler now
        · exact setup_same _ _ rfl rfl rfl
    | fireDue ids => exact absurd rfl (unfired ids)
    | completeWatch token =>
        rw [perform]
        split
        · exact (setup_watch scheduler now token).1
        · exact setup_same _ _ rfl rfl rfl
    | expireWatch token =>
        rw [perform]
        split
        · exact (setup_watch scheduler now token).2.1
        · exact setup_same _ _ rfl rfl rfl
    | releaseWatch token =>
        rw [perform]
        split
        · exact (setup_watch scheduler now token).2.2
        · exact setup_same _ _ rfl rfl rfl
    | close =>
        rw [perform]
        split
        · rcases close_cases scheduler now with same | ⟨_, _, same⟩ <;> rw [same] <;>
            exact setup_same _ _ rfl rfl rfl
        · exact setup_same _ _ rfl rfl rfl
    | addJob _ | removeJob _ | setJobEnabled _ _ => exact absurd trivial planning

-- Only a definition that passes its checks comes into the table.
theorem planning_edits (move : Move) (planning : move.IsPlanning) :
    JobTable.Edit scheduler.board.jobs (scheduler.perform now move).board.jobs := by
  cases move with
  | addJob definition =>
      cases valid : definition.validate with
      | error error =>
          have same : scheduler.perform now (.addJob definition) = scheduler := by
            simp only [perform, addJob, valid]
          rw [same]
          exact .same
      | ok value =>
          have same : (scheduler.perform now (.addJob definition)).board.jobs =
              (scheduler.board.jobs.upsert definition now).1 := by
            simp only [perform, addJob, valid]
            rfl
          rw [same]
          exact .added definition now valid
  | removeJob id =>
      rcases remove_job_cases scheduler now id with same | ⟨event, same⟩
      · rw [perform, same]
        exact .same
      · rw [perform, same]
        exact .removed id
  | setJobEnabled id enabled =>
      rcases set_job_cases scheduler now id enabled with same | ⟨event, same⟩
      · rw [perform, same]
        exact .same
      · rw [perform, same]
        exact .toggled id enabled now
  | _ => cases planning

end Moves

end Scheduler

theorem JobTable.written_edit (table : JobTable) (job : String) (id : TaskId)
    (result : Except SchedulerError Ticket) : Edit table (table.written job id result) := by
  unfold written
  split
  · exact .fired job id
  · rename_i task cause
    exact .fired job task
  · exact .same

namespace Round

section Perform

variable (round : Round) (used : List TaskId) (now : Instant)

theorem setup_perform (step : Step) :
    round.scheduler.Setup (round.perform now step).scheduler := by
  change round.scheduler.Setup (round.act now step).scheduler
  cases step with
  | move move =>
      rw [act]
      by_cases allowed : round.allows move = true
      · rw [if_pos allowed]
        exact round.scheduler.setup_move now move (allows_unfired round move allowed)
      · rw [if_neg allowed]
        exact Scheduler.setup_same _ _ rfl rfl rfl
  | take =>
      rw [act]
      split
      · exact Scheduler.setup_same _ _ rfl rfl rfl
      · exact Scheduler.setup_same _ _ rfl rfl rfl
  | accept id =>
      rw [act]
      unfold accept
      split
      · exact round.scheduler.setup_accept now _ id
      · exact Scheduler.setup_same _ _ rfl rfl rfl
  | settle =>
      rw [act]
      unfold settle
      split
      · exact round.scheduler.setup_settle_fire now _ _ _
      · exact Scheduler.setup_same _ _ rfl rfl rfl

theorem setup_run (history : List (Instant × Step)) :
    round.scheduler.Setup (round.run history).scheduler := by
  induction history generalizing round with
  | nil => exact Scheduler.setup_same _ _ rfl rfl rfl
  | cons entry rest ih =>
      exact Scheduler.setup_trans round.scheduler _ _ (setup_perform round entry.1 entry.2)
        (ih (round.perform entry.1 entry.2))

theorem jobs_perform (steady : round.Steady used) (step : Step)
    (fresh : ∀ id ∈ step.ids, id ∉ used) :
    JobTable.Edit round.board.jobs (round.perform now step).board.jobs := by
  have continues := continues_perform round used now steady step fresh
  have resting (unplanned : ¬ step.IsPlanning) :
      JobTable.Edit round.board.jobs (round.perform now step).board.jobs := by
    have same := Desk.shifts_jobs _ _ continues.shifts unplanned
    change (round.perform now step).board.jobs = round.board.jobs at same
    rw [same]
    exact .same
  cases step with
  | move move =>
      by_cases planning : move.IsPlanning
      · rw [planning_performed round now move planning]
        exact round.scheduler.planning_edits now move planning
      · exact resting planning
  | accept id => exact resting not_false
  | take =>
      have same : round.perform now .take = round.act now .take := note_none _
      rw [same, act]
      split
      · exact .taken now round.board.isActive
      · exact .same
  | settle =>
      have same : round.perform now .settle = round.settle now := note_none _
      rw [same]
      cases hand : round.hand with
      | none =>
          simp only [settle, hand]
          exact .same
      | some fire =>
          simp only [settle, hand]
          have written := Scheduler.settle_fire_jobs round.scheduler fire.due fire.id now fire.result
          change JobTable.Edit round.board.jobs
            (round.scheduler.settleFire fire.due fire.id now fire.result).board.jobs
          rw [written]
          exact JobTable.written_edit _ fire.due.id fire.id fire.result

end Perform

theorem jobs_run (keeps : JobTable → Prop)
    (kept : ∀ table next, keeps table → JobTable.Edit table next → keeps next) (round : Round)
    (used : List TaskId) (steady : round.Steady used) (history : List (Instant × Step))
    (fresh : (used ++ idsOf history).Nodup) (start : keeps round.board.jobs) :
    keeps (round.run history).board.jobs := by
  refine (run_keeps (fun round _ _ => keeps round.board.jobs) ?_ round used steady history fresh
    start).2
  intro round used steady entry rest unused holds
  exact kept _ _ holds (jobs_perform round used entry.1 steady entry.2 unused)

end Round

end Foreman
