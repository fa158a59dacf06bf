import Foreman.Proofs.Scheduler.Steady
import Foreman.Proofs.Workshop.Custody

set_option autoImplicit false

namespace Foreman

namespace Scheduler

section Moves

variable {known : Ticket → Prop} (scheduler : Scheduler) (now : Instant)

theorem honest_dispatch (honest : scheduler.shop.Honest known) (ticket : Ticket) :
    (scheduler.dispatch ticket now).shop.Honest known := by
  rcases dispatch_cases scheduler now ticket with ⟨same, _⟩ | same
  · rw [same]
    exact honest
  · rw [same]
    exact Workshop.honest_hand scheduler.shop honest ticket

theorem honest_start (honest : scheduler.shop.Honest known) :
    (scheduler.start now).1.shop.Honest known := by
  rcases start_cases scheduler now with same | ⟨_, same⟩
  · rw [same]
    exact honest
  · rw [same]
    refine ⟨fun pool member => ?_, honest.spawned, honest.fibers, honest.ended⟩
    rcases List.mem_append.mp member with before | last
    · exact honest.pools pool before
    · rw [List.mem_singleton.mp last]
      exact ⟨fun _ none => (by cases none), fun _ none => (by cases none)⟩

theorem honest_receive (honest : scheduler.shop.Honest known) :
    (scheduler.receive now).shop.Honest known := by
  rcases receive_cases scheduler now with same | ⟨ticket, rest, _, same⟩ | ⟨mode, rest, _, same⟩
  · rw [same]
    exact honest
  · rw [same]
    exact honest_dispatch { scheduler with inbox := rest } now honest ticket
  · rw [same]
    cases mode with
    | wait => exact honest
    | cancel => exact Workshop.honest_board scheduler.shop honest _

theorem honest_close (honest : scheduler.shop.Honest known) :
    (scheduler.close now).shop.Honest known := by
  rcases close_cases scheduler now with same | ⟨_, _, same⟩
  · rw [same]
    exact honest
  · rw [same]
    have dropped := Workshop.honest_fibers scheduler.shop honest [] [] (by simp) (by simp)
    exact Workshop.honest_board _ dropped _

theorem honest_settle_fire (honest : scheduler.shop.Honest known) (due : DueJob) (id : TaskId)
    (result : Except SchedulerError Ticket) :
    (scheduler.settleFire due id now result).shop.Honest known := by
  rcases settle_fire_cases scheduler now due id result with
    ⟨ticket, event, _, handed⟩ | ⟨_, same | ⟨event, same⟩⟩
  · rw [handed]
    let written := scheduler.withJobs (scheduler.board.jobs.written due.id id result)
    have told := Workshop.honest_board scheduler.shop honest (written.publish event).board
    exact honest_dispatch (written.publish event) now told ticket
  · rw [same]
    exact Workshop.honest_board scheduler.shop honest _
  · rw [same]
    exact Workshop.honest_board scheduler.shop honest _

end Moves

theorem honest_move {known : Ticket → Prop} (scheduler : Scheduler) (now : Instant)
    (honest : scheduler.shop.Honest known) (given : ∀ ticket ∈ scheduler.shop.handed, known ticket)
    (intact : scheduler.board.store.Intact) (move : Move) (unfired : ∀ ids, move ≠ .fireDue ids)
    (absent : ∀ request id, move = .submit request id → scheduler.board.store.find? id = none) :
    (scheduler.perform now move).shop.Honest known := by
  have aside (board : Board) : ({ scheduler.shop with board := board } : Workshop).Honest known :=
    Workshop.honest_board scheduler.shop honest board
  by_cases planning : move.IsPlanning
  · rcases planning_cases scheduler now move planning with same | ⟨jobs, event, same⟩
    · rw [same]
      exact honest
    · rw [same]
      exact aside _
  · cases move with
    | start => exact honest_start scheduler now honest
    | stop mode =>
        rcases stop_cases scheduler mode with same | ⟨_, same⟩
        · rw [perform, same]
          exact honest
        · rw [perform, same]
          exact honest
    | submit request id =>
        rcases submit_cases scheduler now request id intact (absent request id rfl) with
          same | ⟨cache, board, result, _, _, same⟩
        · rw [perform, same]
          exact honest
        · rw [perform, same]
          exact aside board
    | cancel id => exact aside _
    | evict id => exact aside _
    | receive =>
        rw [perform]
        split
        · exact honest_receive scheduler now honest
        · exact honest
    | fireDue ids => exact absurd rfl (unfired ids)
    | completeWatch token =>
        rw [perform]
        split
        · rcases complete_watch_cases scheduler now token with
            same | ⟨watch, _, ⟨_, same⟩ | ⟨state, outcome, _, same⟩⟩
          · rw [same]
            exact honest
          · rw [same]
            exact honest
          · rw [same]
            exact aside _
        · exact honest
    | expireWatch token =>
        rw [perform]
        split
        · rcases expire_watch_cases scheduler now token with same | ⟨watch, _, same⟩
          · rw [same]
            exact honest
          · rw [same]
            exact aside _
        · exact honest
    | releaseWatch token =>
        rw [perform]
        split
        · rcases release_watch_cases scheduler token with same | ⟨_, same⟩
          · rw [same]
            exact honest
          · rw [same]
            exact honest
        · exact honest
    | close =>
        rw [perform]
        split
        · exact honest_close scheduler now honest
        · exact honest
    | work deed => exact Workshop.honest_perform scheduler.shop now honest given deed
    | permit gate count => exact Workshop.honest_gates scheduler.shop honest _
    | addJob _ | removeJob _ | setJobEnabled _ _ => exact absurd trivial planning

end Scheduler

namespace Round

structure Knows (round : Round) (ticket : Ticket) : Prop where
  issued : ticket.stamp ∈ round.issued
  kind : ∀ record, round.board.store.find? ticket.id = some record →
    record.kind = some ticket.assignment.kind

structure Custody (round : Round) (used : List TaskId) : Prop where
  kinds : (round.desk used).Kinds
  honest : round.scheduler.shop.Honest round.Knows

section Steps

variable (round : Round) (used : List TaskId) (now : Instant)

theorem knows_desk (steady : round.Steady used) (kinds : (round.desk used).Kinds) (ticket : Ticket)
    (member : ticket ∈ (round.desk used).queued ∨ ticket ∈ (round.desk used).watched ∨
      ticket ∈ (round.desk used).handed) : round.Knows ticket :=
  ⟨steady.sound.stamped ticket member, kinds ticket member⟩

theorem act_issued (step : Step) : (round.act now step).issued = round.issued := by
  cases step with
  | move move =>
      rw [act]
      split <;> rfl
  | take =>
      rw [act]
      split <;> rfl
  | accept id =>
      rw [act, accept]
      split <;> rfl
  | settle =>
      rw [act, settle]
      split <;> rfl

theorem knows_perform (steady : round.Steady used) (step : Step)
    (fresh : ∀ id ∈ step.ids, id ∉ used) (ticket : Ticket) (knows : round.Knows ticket) :
    (round.perform now step).Knows ticket := by
  refine ⟨?_, fun later found => ?_⟩
  · refine List.mem_append_left _ ?_
    rw [act_issued]
    exact knows.issued
  · have shifts := (continues_perform round used now steady step fresh).shifts
    obtain ⟨record, before, _, same⟩ := Desk.shifts_descends _ _ steady.sound shifts ticket.id
      (steady.sound.given _ knows.issued).1 later found
    exact same.trans (knows.kind record before)

theorem honest_act (steady : round.Steady used) (custody : round.Custody used) (step : Step)
    (fresh : ∀ id ∈ step.ids, id ∉ used) :
    (round.act now step).scheduler.shop.Honest round.Knows := by
  have honest := custody.honest
  have absent (id : TaskId) (own : id ∈ step.ids) : round.board.store.find? id = none :=
    Desk.fresh_absent _ steady.sound id (fresh id own)
  cases step with
  | move move =>
      rw [act]
      by_cases allowed : round.allows move = true
      · rw [if_pos allowed]
        refine round.scheduler.honest_move now honest ?_ steady.sound.balanced.intact move
          (allows_unfired round move allowed) ?_
        · exact fun ticket given =>
            knows_desk round used steady custody.kinds ticket (.inr (.inr given))
        · rintro request id rfl
          exact absent id (by simp [Step.ids])
      · rw [if_neg allowed]
        exact honest
  | take =>
      rw [act]
      split
      · exact Workshop.honest_board round.scheduler.shop honest _
      · exact honest
  | accept id =>
      rw [act]
      cases hand : round.hand with
      | some fire =>
          simp only [accept, hand]
          exact honest
      | none =>
          cases left : round.due with
          | nil =>
              simp only [accept, hand, left]
              exact honest
          | cons due rest =>
              obtain ⟨cache, board, result, _, next⟩ := accept_next round used now steady id
                (fresh id (by simp [Step.ids])) hand due rest left
              rw [next]
              exact Workshop.honest_board round.scheduler.shop honest board
  | settle =>
      rw [act]
      cases hand : round.hand with
      | none =>
          simp only [settle, hand]
          exact honest
      | some fire =>
          simp only [settle, hand]
          exact round.scheduler.honest_settle_fire now honest fire.due fire.id fire.result

theorem custody_perform (steady : round.Steady used) (custody : round.Custody used) (step : Step)
    (fresh : ∀ id ∈ step.ids, id ∉ used) : (round.perform now step).Custody (used ++ step.ids) := by
  have shifts := (continues_perform round used now steady step fresh).shifts
  refine ⟨Desk.kinds_shifts _ _ steady.sound custody.kinds shifts, ?_⟩
  exact Workshop.honest_mono _ (honest_act round used now steady custody step fresh) _
    (knows_perform round used now steady step fresh) _ fun _ member => member

end Steps

theorem custody_new (settings : Settings) (registry : Registry Callable) (cores : Nat)
    (scheduler : Scheduler) (built : Scheduler.new settings registry cores = .ok scheduler) :
    (ofScheduler scheduler).Custody [] := by
  rw [Scheduler.new_cases settings registry cores scheduler built]
  refine ⟨?_, ⟨?_, ?_, ?_, ?_⟩⟩
  · rintro ticket (member | member | member) <;> cases member
  · exact fun pool member => by cases member
  · exact fun ticket member => by cases member
  · exact fun activity member => by cases member
  · exact fun entry member => by cases member

end Round

end Foreman
