import Foreman.Proofs.Scheduler.Exclusive
import Foreman.Proofs.Scheduler.Steady

set_option autoImplicit false

namespace Foreman.Round

theorem continues_calms (plans : Prop) (round next : Round) (used all : List TaskId)
    (steady : round.Steady used) (continues : Continues plans round next used all) :
    round.Calms next used := by
  intro task known active
  have balanced : next.board.Balanced :=
    (Desk.sound_shifts _ _ steady.sound continues.shifts).balanced
  obtain ⟨later, found, unfinished⟩ := (next.board.is_active_iff balanced.intact task).mp active
  obtain ⟨record, before, advances⟩ :=
    Desk.shifts_found _ _ steady.sound continues.shifts task known later found
  refine (round.board.is_active_iff steady.sound.balanced.intact task).mpr ⟨record, before, ?_⟩
  rcases advances with same | ⟨active, _⟩ | ⟨_, waits, _⟩
  · exact same ▸ unfinished
  · exact active
  · rw [waits]
    rfl

section Steps

variable (round : Round) (used : List TaskId) (now : Instant) (job : String)

theorem exclusive_move (steady : round.Steady used) (exclusive : round.Exclusive used job)
    (move : Move) (fresh : ∀ id ∈ (Step.move move).ids, id ∉ used) (kept : move ≠ .removeJob job) :
    (round.perform now (.move move)).Exclusive (used ++ (Step.move move).ids) job := by
  have continues := continues_move round used now steady move fresh
  have calms := continues_calms _ _ _ _ _ steady continues
  have more (id : TaskId) (known : id ∈ used) : id ∈ used ++ (Step.move move).ids :=
    List.mem_append_left _ known
  by_cases planning : move.IsPlanning
  · obtain ⟨keeps, distinct⟩ := Scheduler.jobs_move round.scheduler now job move planning kept
    rw [planning_performed round now move planning] at calms ⊢
    exact exclusive_kept round _ used _ job exclusive more calms rfl rfl rfl keeps
      (distinct exclusive.distinct)
  · have jobs := Desk.shifts_jobs _ _ continues.shifts planning
    change (round.perform now (.move move)).board.jobs = round.board.jobs at jobs
    have rest : (round.perform now (.move move)).hand = round.hand ∧
        (round.perform now (.move move)).due = round.due ∧
        (round.perform now (.move move)).made = round.made := by
      rw [perform, act]
      split <;> exact ⟨rfl, rfl, rfl⟩
    refine exclusive_kept round _ used _ job exclusive more calms rest.1 rest.2.1 rest.2.2 ?_ ?_
    · rw [jobs]
      exact JobTable.keeps_refl _ job
    · rw [jobs]
      exact exclusive.distinct

theorem exclusive_take (steady : round.Steady used) (exclusive : round.Exclusive used job) :
    (round.perform now .take).Exclusive (used ++ Step.take.ids) job := by
  have continues := continues_take round used now steady
  have calms := continues_calms _ _ _ _ _ steady continues
  have same : round.perform now .take = round.act now .take := note_none _
  have none : Step.take.ids = [] := rfl
  rw [none, List.append_nil]
  rw [same, act] at calms
  rw [same, act]
  split
  · rename_i ready
    rw [if_pos ready] at calms
    rw [Bool.and_eq_true] at ready
    have hand := (idle_free round ready.1).2
    exact exclusive_taken round (round.take now) used job exclusive calms round.board.isActive rfl
      now hand hand rfl rfl rfl
  · exact exclusive

theorem exclusive_accept (steady : round.Steady used) (exclusive : round.Exclusive used job)
    (id : TaskId) (fresh : id ∉ used) :
    (round.perform now (.accept id)).Exclusive (used ++ [id]) job := by
  have continues := continues_accept round used now steady id fresh
  have calms := continues_calms _ _ _ _ _ steady continues
  have jobs := Desk.shifts_jobs _ _ continues.shifts not_false
  change (round.perform now (.accept id)).board.jobs = round.board.jobs at jobs
  have unaccepted (same : round.accept id now = round) :
      (round.perform now (.accept id)).Exclusive (used ++ [id]) job := by
    have next : round.perform now (.accept id) = round.note [id] :=
      congrArg (fun accepted => note accepted [id]) same
    rw [next] at calms ⊢
    exact exclusive_kept round _ used _ job exclusive (fun _ => List.mem_append_left _) calms rfl rfl
      rfl (JobTable.keeps_refl _ job) exclusive.distinct
  cases hand : round.hand with
  | some fire => exact unaccepted (by simp only [accept, hand])
  | none =>
      cases left : round.due with
      | nil => exact unaccepted (by simp only [accept, hand, left])
      | cons due rest =>
          obtain ⟨cache, board, result, accepted, same⟩ :=
            accept_next round used now steady id fresh hand due rest left
          have stands : (round.perform now (.accept id)).board = board := congrArg Round.board same
          have balanced : (round.perform now (.accept id)).board.Balanced :=
            (Desk.sound_shifts _ _ steady.sound continues.shifts).balanced
          refine exclusive_accepted round _ used job exclusive calms id due rest result hand left
            (congrArg Round.hand same) (congrArg Round.due same) (congrArg made same) jobs ?_
          rw [stands] at balanced ⊢
          exact accepted_inactive round.board board balanced id
            (Desk.fresh_absent _ steady.sound id fresh) result accepted

theorem exclusive_settle (steady : round.Steady used) (exclusive : round.Exclusive used job) :
    (round.perform now .settle).Exclusive (used ++ Step.settle.ids) job := by
  have continues := continues_settle round used now steady
  have calms := continues_calms _ _ _ _ _ steady continues
  have same : round.perform now .settle = round.settle now := note_none _
  have none : Step.settle.ids = [] := rfl
  rw [none, List.append_nil]
  rw [same] at calms ⊢
  cases hand : round.hand with
  | none =>
      have idle : round.settle now = round := by
        simp only [settle, hand]
      rw [idle]
      exact exclusive
  | some fire =>
      have next : round.settle now =
          { round with
            scheduler := round.scheduler.settleFire fire.due fire.id now fire.result
            hand := Option.none } := by
        simp only [settle, hand]
      rw [next] at calms ⊢
      exact exclusive_settled round _ used job exclusive calms fire hand rfl rfl rfl
        (Scheduler.settle_fire_jobs round.scheduler fire.due fire.id now fire.result)

theorem exclusive_perform (steady : round.Steady used) (exclusive : round.Exclusive used job)
    (step : Step) (fresh : ∀ id ∈ step.ids, id ∉ used) (kept : step ≠ .move (.removeJob job)) :
    (round.perform now step).Exclusive (used ++ step.ids) job := by
  cases step with
  | move move =>
      exact exclusive_move round used now job steady exclusive move fresh fun same => kept (same ▸ rfl)
  | take => exact exclusive_take round used now job steady exclusive
  | accept id =>
      exact exclusive_accept round used now job steady exclusive id (fresh id (by simp [Step.ids]))
  | settle => exact exclusive_settle round used now job steady exclusive

end Steps

theorem exclusive_run (round : Round) (used : List TaskId) (job : String)
    (steady : round.Steady used) (exclusive : round.Exclusive used job)
    (history : List (Instant × Step)) (fresh : (used ++ idsOf history).Nodup)
    (kept : ∀ entry ∈ history, entry.2 ≠ .move (.removeJob job)) :
    (round.run history).Exclusive (used ++ idsOf history) job := by
  let keeps (round : Round) (used : List TaskId) (rest : List (Instant × Step)) : Prop :=
    round.Exclusive used job ∧ ∀ entry ∈ rest, entry.2 ≠ .move (.removeJob job)
  refine (run_keeps keeps ?_ round used steady history fresh ⟨exclusive, kept⟩).2.1
  intro round used steady entry rest unused ⟨exclusive, kept⟩
  exact ⟨exclusive_perform round used entry.1 job steady exclusive entry.2 unused
    (kept entry List.mem_cons_self), fun later member => kept later (List.mem_cons_of_mem entry member)⟩

theorem exclusive_new (settings : Settings) (registry : Registry Callable) (cores : Nat)
    (scheduler : Scheduler) (built : Scheduler.new settings registry cores = .ok scheduler)
    (job : String) : (ofScheduler scheduler).Exclusive [] job := by
  rw [Scheduler.new_cases settings registry cores scheduler built]
  refine ⟨List.nodup_nil, List.nodup_nil, ?_, ?_, ?_, ?_, ?_⟩
  · intro member
    cases member
  · intro pair member
    cases member
  · intro task member
    cases member
  · intro member
    cases member
  · intro fire held
    cases held

theorem no_job_overlaps (settings : Settings) (registry : Registry Callable) (cores : Nat)
    (scheduler : Scheduler) (built : Scheduler.new settings registry cores = .ok scheduler)
    (history : List (Instant × Step)) (fresh : Fresh history) (job : String)
    (kept : ∀ entry ∈ history, entry.2 ≠ .move (.removeJob job)) :
    let round := (ofScheduler scheduler).run history
    ∀ first second, (job, first) ∈ round.made → (job, second) ∈ round.made →
      round.board.isActive first = true → round.board.isActive second = true → first = second := by
  intro round first second one two firstActive secondActive
  have exclusive := exclusive_run _ [] job (steady_new settings registry cores scheduler built)
    (exclusive_new settings registry cores scheduler built job) history fresh kept
  have left := exclusive.single first one firstActive
  have right := exclusive.single second two secondActive
  exact Option.some.inj (left.symm.trans right)

def quickTask : Registry Callable := ⟨[("tasks:quick", .constant .sync .null)]⟩

def quickScheduler : Scheduler :=
  (Scheduler.new Settings.default quickTask 1).toOption.getD default

def quickJob : JobDefinition where
  id := "quick"
  trigger := (Trigger.every (Span.ofMillis 1000)).toOption.getD default
  request := Request.new "tasks:quick"
  enabled := true

def twoFires : List (Instant × Step) :=
  let steps : List (Int × Step) :=
    [(0, .move .start), (0, .move (.addJob quickJob)), (1, .take), (1, .accept (TaskId.ofNumber 1)),
      (1, .settle), (1, .move (.work (.take 0))), (2, .take), (2, .accept (TaskId.ofNumber 2)),
      (2, .move (.work (.work 0 0))), (2, .move (.completeWatch 0)), (3, .take),
      (3, .accept (TaskId.ofNumber 3)), (3, .settle)]
  steps.map fun entry => ((Instant.ofUnix? entry.1 0).getD Instant.epoch, entry.2)

theorem two_fires_apart :
    Scheduler.new Settings.default quickTask 1 = .ok quickScheduler ∧ Fresh twoFires ∧
      (∀ entry ∈ twoFires, entry.2 ≠ .move (.removeJob "quick")) ∧
      let round := (ofScheduler quickScheduler).run twoFires
      round.made = [("quick", TaskId.ofNumber 1), ("quick", TaskId.ofNumber 3)] ∧
        round.board.isActive (TaskId.ofNumber 3) = true ∧
        round.board.isActive (TaskId.ofNumber 1) = false := by
  have built : Scheduler.new Settings.default quickTask 1 = .ok quickScheduler := rfl
  have fresh : Fresh twoFires := by
    unfold Fresh
    decide +kernel
  have kept : ∀ entry ∈ twoFires, entry.2 ≠ .move (.removeJob "quick") := by
    simp [twoFires]
  have made : ((ofScheduler quickScheduler).run twoFires).made =
      [("quick", TaskId.ofNumber 1), ("quick", TaskId.ofNumber 3)] := by decide +kernel
  have active : ((ofScheduler quickScheduler).run twoFires).board.isActive (TaskId.ofNumber 3) =
      true := by decide +kernel
  refine ⟨built, fresh, kept, made, active, ?_⟩
  by_contra still
  have same := no_job_overlaps _ _ _ quickScheduler built twoFires fresh "quick" kept
    (TaskId.ofNumber 1) (TaskId.ofNumber 3) (by simp [made]) (by simp [made])
    (by simpa using still) active
  exact absurd same (by decide +kernel)

end Foreman.Round
