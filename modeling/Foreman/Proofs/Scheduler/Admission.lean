import Foreman.Proofs.Board.Counters
import Foreman.Proofs.Scheduler.Orders
import Foreman.Proofs.Scheduler.Setup

set_option autoImplicit false

namespace Foreman

namespace Board

def Within (board : Board) (capacity : Option Nat) : Prop :=
  ∀ limit, capacity = some limit → board.store.tally .pending ≤ limit

def Sized (capacity : Option Nat) : Prop := ∀ limit, capacity = some limit → limit < Number.bound64

theorem full_iff (board : Board) (balanced : board.Balanced) (capacity : Option Nat)
    (sized : Sized capacity) (within : board.Within capacity) :
    board.isFull capacity = true ↔ capacity = some (board.store.tally .pending) := by
  cases capacity with
  | none => simp [isFull]
  | some limit =>
      have bound := sized limit rfl
      have most := within limit rfl
      rw [isFull, pending_read board balanced, Nat.mod_eq_of_lt (by omega), decide_eq_true_iff,
        Option.some.injEq]
      omega

end Board

namespace Scheduler

def resolved (scheduler : Scheduler) (reference : String) :
    ResolverCache Callable × Except ResolutionError Callable :=
  scheduler.cache.resolve scheduler.registry.resolve reference

def assigned (scheduler : Scheduler) (request : Request) (id : TaskId) (callable : Callable)
    (now : Instant) : Assignment :=
  Assignment.ofRequest (request.orTimeout scheduler.settings.defaultTimeout) id callable.kind now

section Accept

variable (scheduler : Scheduler) (request : Request) (id : TaskId) (now : Instant)

theorem accept_unresolved (cause : ResolutionError)
    (unknown : (scheduler.resolved request.reference).2 = .error cause)
    (intact : scheduler.board.store.Intact) (absent : scheduler.board.store.find? id = none) :
    scheduler.accept request id now =
      ({ scheduler with
         cache := (scheduler.resolved request.reference).1
         shop := { scheduler.shop with
           board := (scheduler.board.reject id request.reference cause now).1 } },
        .error (.resolution id cause)) := by
  have done := Board.reject_done scheduler.board id request.reference cause now intact absent
  unfold accept
  rw [resolved] at unknown
  simp only [unknown]
  simp only [board] at done ⊢
  simp only [done]
  rfl

variable (callable : Callable)
  (known : (scheduler.resolved request.reference).2 = .ok callable)

include known

theorem accept_full (full : scheduler.board.isFull scheduler.settings.queueCapacity = true) :
    scheduler.accept request id now =
      ({ scheduler with cache := (scheduler.resolved request.reference).1 },
        .error (.queueFull (scheduler.settings.queueCapacity.getD 0))) := by
  have done := Board.enroll_full scheduler.board (scheduler.assigned request id callable now)
    scheduler.settings.queueCapacity now full
  unfold accept
  rw [resolved] at known
  simp only [known]
  simp only [Workshop.enroll, board, assigned] at done ⊢
  simp only [done]
  rfl

theorem accept_free (intact : scheduler.board.store.Intact)
    (absent : scheduler.board.store.find? id = none)
    (free : scheduler.board.isFull scheduler.settings.queueCapacity = false) :
    scheduler.accept request id now =
      ({ scheduler with
         cache := (scheduler.resolved request.reference).1
         shop := { scheduler.shop with
           board := scheduler.board.enrolled (scheduler.assigned request id callable now)
             (scheduler.board.stored (.pending (scheduler.assigned request id callable now)))
             (scheduler.board.tokens.issue id).1 now } },
        .ok ⟨scheduler.assigned request id callable now, callable, scheduler.board.tokens.fresh⟩) := by
  have done := Board.enroll_free scheduler.board (scheduler.assigned request id callable now)
    scheduler.settings.queueCapacity now intact absent free
  unfold accept
  rw [resolved] at known
  simp only [known]
  simp only [Workshop.enroll, board, assigned] at done ⊢
  simp only [done]
  rfl

end Accept

theorem accept_within (scheduler : Scheduler) (request : Request) (id : TaskId) (now : Instant)
    (balanced : scheduler.board.Balanced) (absent : scheduler.board.store.find? id = none)
    (sized : Board.Sized scheduler.settings.queueCapacity)
    (within : scheduler.board.Within scheduler.settings.queueCapacity) :
    (scheduler.accept request id now).1.board.Within scheduler.settings.queueCapacity := by
  cases known : (scheduler.resolved request.reference).2 with
  | error cause =>
      have tally := Store.tally_append scheduler.board.store
        (Board.refusal id request.reference cause now) .pending
      rw [accept_unresolved scheduler request id now cause known balanced.intact absent]
      intro limit same
      change (scheduler.board.reject id request.reference cause now).1.store.tally .pending ≤ limit
      rw [Board.reject_done scheduler.board id request.reference cause now balanced.intact absent]
      exact tally ▸ within limit same
  | ok callable =>
      cases full : scheduler.board.isFull scheduler.settings.queueCapacity with
      | true =>
          rw [accept_full scheduler request id now callable known full]
          exact within
      | false =>
          let assignment := scheduler.assigned request id callable now
          have tally := Store.tally_append scheduler.board.store (.pending assignment) .pending
          rw [if_pos (by rfl)] at tally
          rw [accept_free scheduler request id now callable known balanced.intact absent full]
          intro limit same
          have room : scheduler.settings.queueCapacity ≠ some (scheduler.board.store.tally .pending) :=
            fun equal => by
              rw [(Board.full_iff _ balanced _ sized within).mpr equal] at full
              cases full
          have most := within limit same
          have apart : scheduler.board.store.tally .pending ≠ limit :=
            fun equal => room (same.trans (congrArg some equal.symm))
          change (scheduler.board.stored (.pending assignment)).tally .pending ≤ limit
          rw [Board.stored, tally]
          omega

theorem submit_within (scheduler : Scheduler) (request : Request) (id : TaskId) (now : Instant)
    (balanced : scheduler.board.Balanced) (absent : scheduler.board.store.find? id = none)
    (sized : Board.Sized scheduler.settings.queueCapacity)
    (within : scheduler.board.Within scheduler.settings.queueCapacity) :
    (scheduler.submit request id now).1.board.Within scheduler.settings.queueCapacity := by
  have accepted := accept_within scheduler request id now balanced absent sized within
  unfold submit
  split
  · exact within
  · split
    · split
      · rename_i next error same
        rw [same] at accepted
        exact accepted
      · rename_i next ticket same
        rw [same] at accepted
        exact accepted
    · exact within

theorem progress_within (scheduler next : Scheduler) (now : Instant) (step : Step)
    (balanced : scheduler.board.Balanced) (progress : Progress scheduler next now step)
    (idle : step.ids = []) (capacity : Option Nat) (within : scheduler.board.Within capacity) :
    next.board.Within capacity := by
  intro limit same
  have most := within limit same
  refine Nat.le_trans ?_ most
  cases progress with
  | rests store _ => rw [store]
  | began ticket record _ found waits store _ =>
      have has := Store.find_has_id _ _ record found
      have tally := Store.tally_update scheduler.board.store balanced.intact
        (record.moved .running none now) record (has ▸ found) .pending
      have left : (record.moved .running none now).state ≠ .pending := by simp [TaskRecord.moved]
      rw [if_neg left] at tally
      rw [store]
      omega
  | ordered call orders store _ =>
      have lawful := orders_lawful scheduler now step call orders (by simp [idle])
      have evolves := Board.perform_evolves scheduler.board balanced now call lawful
      rw [store]
      refine Board.evolves_tally _ _ balanced evolves ?_
      intro id
      cases orders with
      | entered _ _ own _ => simp [idle] at own
      | refused _ _ _ own => simp [idle] at own
      | cancelled _ _ => simp [Board.Call.May]
      | evicted _ _ => simp [Board.Call.May]
      | swept _ _ => simp [Board.Call.May, Board.Swept]
      | decided _ _ _ _ _ => simp [Board.Call.May]

end Scheduler

namespace Round

theorem within_perform (round : Round) (used : List TaskId) (now : Instant)
    (steady : round.Steady used) (step : Step) (fresh : ∀ id ∈ step.ids, id ∉ used)
    (sized : Board.Sized round.scheduler.settings.queueCapacity)
    (within : round.board.Within round.scheduler.settings.queueCapacity) :
    (round.perform now step).board.Within round.scheduler.settings.queueCapacity := by
  have balanced : round.scheduler.board.Balanced := steady.sound.balanced
  have progress := progress_perform round used now steady step
  have resting (idle : step.ids = []) :
      (round.perform now step).board.Within round.scheduler.settings.queueCapacity :=
    Scheduler.progress_within round.scheduler _ now step balanced progress idle _ within
  cases step with
  | move move =>
      by_cases submission : ∃ request id, move = .submit request id
      · obtain ⟨request, id, rfl⟩ := submission
        have absent := Desk.fresh_absent _ steady.sound id (fresh id (by simp [Step.ids]))
        exact Scheduler.submit_within round.scheduler request id now balanced absent sized within
      · exact resting (move_ids move fun request id same => submission ⟨request, id, same⟩)
  | take | settle => exact resting rfl
  | accept id =>
      have absent := Desk.fresh_absent _ steady.sound id (fresh id (by simp [Step.ids]))
      change (round.accept id now).board.Within _
      unfold accept
      split
      · exact Scheduler.accept_within round.scheduler _ id now balanced absent sized within
      · exact within

theorem within_run (round : Round) (used : List TaskId) (steady : round.Steady used)
    (history : List (Instant × Step)) (fresh : (used ++ idsOf history).Nodup)
    (sized : Board.Sized round.scheduler.settings.queueCapacity)
    (within : round.board.Within round.scheduler.settings.queueCapacity) :
    (round.run history).board.Within round.scheduler.settings.queueCapacity := by
  let keeps (next : Round) (_ : List TaskId) (_ : List (Instant × Step)) : Prop :=
    next.scheduler.settings = round.scheduler.settings ∧
      next.board.Within round.scheduler.settings.queueCapacity
  refine (run_keeps keeps ?_ round used steady history fresh ⟨rfl, within⟩).2.2
  intro next used steady entry rest unused ⟨settings, within⟩
  have later := within_perform next used entry.1 steady entry.2 unused
  rw [settings] at later
  exact ⟨(setup_perform next entry.1 entry.2).settings.trans settings, later sized within⟩

end Round

end Foreman
