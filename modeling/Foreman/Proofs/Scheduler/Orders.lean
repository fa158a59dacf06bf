import Foreman.Proofs.Board.Turn
import Foreman.Proofs.Scheduler.Steady
import Foreman.Proofs.Workshop.Bodies

set_option autoImplicit false

namespace Foreman

namespace Scheduler

inductive Orders (scheduler : Scheduler) (now : Instant) (step : Step) : Board.Call → Prop where
  | entered (assignment : Assignment) (capacity : Option Nat) (own : assignment.id ∈ step.ids)
      (stamped : assignment.submittedAt = now) :
      Orders scheduler now step (.enroll assignment capacity)
  | refused (id : TaskId) (reference : String) (cause : ResolutionError) (own : id ∈ step.ids) :
      Orders scheduler now step (.reject id reference cause)
  | cancelled (id : TaskId) (asked : step = .move (.cancel id)) :
      Orders scheduler now step (.cancel id)
  | evicted (id : TaskId) (asked : step = .move (.evict id)) : Orders scheduler now step (.evict id)
  | swept (reason : String) (asked : step = .move .receive) :
      Orders scheduler now step (.cancelAll reason)
  | decided (ticket : Ticket) (state : TaskState) (outcome : Outcome)
      (watched : ticket ∈ scheduler.watched)
      (verdict : Verdict scheduler now ticket state outcome) :
      Orders scheduler now step (.finish ticket.assignment state outcome)

inductive Progress (scheduler next : Scheduler) (now : Instant) (step : Step) : Prop where
  | rests (store : next.board.store = scheduler.board.store)
      (called : next.shop.called = scheduler.shop.called)
  | ordered (call : Board.Call) (orders : Orders scheduler now step call)
      (store : next.board.store = (scheduler.board.perform now call).store)
      (called : next.shop.called = scheduler.shop.called)
  | began (ticket : Ticket) (record : TaskRecord) (given : ticket ∈ scheduler.shop.handed)
      (found : scheduler.board.store.find? ticket.id = some record)
      (waits : record.state = .pending)
      (store : next.board.store = scheduler.board.store.update (record.moved .running none now))
      (called : next.shop.called = scheduler.shop.called ++ [ticket.assignment])
      (carried : next.shop.opening ticket ∈ next.shop.activities)

section Calls

variable (scheduler : Scheduler) (now : Instant)

theorem orders_lawful (step : Step) (call : Board.Call) (orders : Orders scheduler now step call)
    (absent : ∀ id ∈ step.ids, scheduler.board.store.find? id = none) :
    call.Lawful scheduler.board := by
  cases orders with
  | entered assignment capacity own stamped => exact absent assignment.id own
  | refused id reference cause own => exact absent id own
  | cancelled id asked => trivial
  | evicted id asked => trivial
  | swept reason asked => trivial
  | decided ticket state outcome watched verdict =>
      exact verdict_terminal scheduler now ticket state outcome verdict

theorem dispatch_rests (ticket : Ticket) :
    (scheduler.dispatch ticket now).board = scheduler.board ∧
      (scheduler.dispatch ticket now).shop.called = scheduler.shop.called := by
  rcases dispatch_cases scheduler now ticket with ⟨same, _⟩ | handed
  · rw [same]
    exact ⟨rfl, rfl⟩
  · rw [handed]
    refine ⟨Workshop.hand_board scheduler.shop ticket, ?_⟩
    change (scheduler.shop.hand ticket).called = scheduler.shop.called
    unfold Workshop.hand
    split <;> rfl

theorem accept_ordered (request : Request) (id : TaskId) (step : Step) (own : id ∈ step.ids) :
    ∃ call, Orders scheduler now step call ∧
      (scheduler.accept request id now).1.board = scheduler.board.perform now call ∧
      (scheduler.accept request id now).1.shop.called = scheduler.shop.called := by
  unfold accept
  cases resolved : scheduler.cache.resolve scheduler.registry.resolve request.reference with
  | mk cache answer =>
      cases answer with
      | error cause =>
          refine ⟨.reject id request.reference cause, .refused id _ cause own, ?_⟩
          cases done : scheduler.board.reject id request.reference cause now with
          | mk last result =>
              have next : scheduler.board.perform now (.reject id request.reference cause) = last :=
                congrArg Prod.fst done
              rw [next]
              simp only [board] at done ⊢
              simp only [done]
              cases result <;> exact ⟨rfl, rfl⟩
      | ok callable =>
          let wanted := request.orTimeout scheduler.settings.defaultTimeout
          let assignment := Assignment.ofRequest wanted id callable.kind now
          let capacity := scheduler.settings.queueCapacity
          refine ⟨.enroll assignment capacity, .entered assignment capacity own rfl, ?_⟩
          cases done : scheduler.board.enroll assignment capacity now with
          | mk last result =>
              have next : scheduler.board.perform now (.enroll assignment capacity) = last :=
                congrArg Prod.fst done
              rw [next]
              simp only [Workshop.enroll, board, assignment, capacity, wanted] at done ⊢
              simp only [done]
              cases result <;> exact ⟨rfl, rfl⟩

theorem submit_progress (request : Request) (id : TaskId) :
    Progress scheduler (scheduler.submit request id now).1 now (.move (.submit request id)) := by
  obtain ⟨call, orders, board, called⟩ :=
    accept_ordered scheduler now request id (.move (.submit request id)) (by simp [Step.ids])
  unfold submit
  cases request.validate with
  | error error => exact .rests rfl rfl
  | ok value =>
      by_cases opened : scheduler.isOpen = true
      · simp only [if_pos opened]
        cases accepted : scheduler.accept request id now with
        | mk last result =>
            rw [accepted] at board called
            cases result with
            | error error => exact .ordered call orders (congrArg Board.store board) called
            | ok ticket => exact .ordered call orders (congrArg Board.store board) called
      · simp only [if_neg opened]
        exact .rests rfl rfl

theorem receive_progress :
    Progress scheduler (scheduler.receive now) now (.move .receive) := by
  rcases receive_cases scheduler now with same | ⟨ticket, rest, _, same⟩ | ⟨mode, rest, _, same⟩
  · rw [same]
    exact .rests rfl rfl
  · rw [same]
    obtain ⟨board, called⟩ := dispatch_rests { scheduler with inbox := rest } now ticket
    exact .rests (congrArg Board.store board) called
  · rw [same]
    cases mode with
    | wait => exact .rests rfl rfl
    | cancel =>
        exact .ordered (.cancelAll "Scheduler shut down before the task finished")
          (.swept _ rfl) rfl rfl

theorem complete_watch_progress (token : Nat) :
    Progress scheduler (scheduler.completeWatch token now) now (.move (.completeWatch token)) := by
  rcases complete_watch_cases scheduler now token with
    same | ⟨watch, found, ⟨_, same⟩ | ⟨state, outcome, verdict, same⟩⟩
  · rw [same]
    exact .rests rfl rfl
  · rw [same]
    exact .rests rfl rfl
  · rw [same]
    have watched := (find_watch scheduler token watch found).1
    exact .ordered (.finish watch.ticket.assignment state outcome)
      (.decided watch.ticket state outcome watched verdict) rfl rfl

theorem expire_watch_progress (token : Nat) :
    Progress scheduler (scheduler.expireWatch token now) now (.move (.expireWatch token)) := by
  rcases expire_watch_cases scheduler now token with same | ⟨watch, found, same⟩
  · rw [same]
    exact .rests rfl rfl
  · rw [same]
    have watched := (find_watch scheduler token watch found).1
    exact .ordered (.finish watch.ticket.assignment .timedOut (timedOut watch.ticket now))
      (.decided watch.ticket .timedOut _ watched .expired) rfl rfl

theorem work_progress (intact : scheduler.board.store.Intact) (deed : Deed) :
    Progress scheduler (scheduler.performDeed now deed) now (.move (.work deed)) := by
  cases Workshop.begins_perform scheduler.shop now intact deed with
  | rests store called => exact .rests store called
  | begins ticket record given found waits store called carried =>
      exact .began ticket record given found waits store called carried

end Calls

theorem move_progress (scheduler : Scheduler) (now : Instant)
    (intact : scheduler.board.store.Intact) (move : Move) (unfired : ∀ ids, move ≠ .fireDue ids) :
    Progress scheduler (scheduler.perform now move) now (.move move) := by
  by_cases planning : move.IsPlanning
  · rcases planning_cases scheduler now move planning with same | ⟨jobs, event, same⟩
    · rw [same]
      exact .rests rfl rfl
    · rw [same]
      exact .rests rfl rfl
  · cases move with
    | start =>
        rcases start_cases scheduler now with same | ⟨_, same⟩
        · rw [perform, same]
          exact .rests rfl rfl
        · rw [perform, same]
          exact .rests rfl rfl
    | stop mode =>
        rcases stop_cases scheduler mode with same | ⟨_, same⟩
        · rw [perform, same]
          exact .rests rfl rfl
        · rw [perform, same]
          exact .rests rfl rfl
    | submit request id => exact submit_progress scheduler now request id
    | cancel id => exact .ordered (.cancel id) (.cancelled id rfl) rfl rfl
    | evict id => exact .ordered (.evict id) (.evicted id rfl) rfl rfl
    | receive =>
        rw [perform]
        split
        · exact receive_progress scheduler now
        · exact .rests rfl rfl
    | fireDue ids => exact absurd rfl (unfired ids)
    | completeWatch token =>
        rw [perform]
        split
        · exact complete_watch_progress scheduler now token
        · exact .rests rfl rfl
    | expireWatch token =>
        rw [perform]
        split
        · exact expire_watch_progress scheduler now token
        · exact .rests rfl rfl
    | releaseWatch token =>
        rw [perform]
        split
        · rcases release_watch_cases scheduler token with same | ⟨_, same⟩
          · rw [same]
            exact .rests rfl rfl
          · rw [same]
            exact .rests rfl rfl
        · exact .rests rfl rfl
    | close =>
        rw [perform]
        split
        · rcases close_cases scheduler now with same | ⟨_, _, same⟩
          · rw [same]
            exact .rests rfl rfl
          · rw [same]
            exact .rests rfl rfl
        · exact .rests rfl rfl
    | work deed => exact work_progress scheduler now intact deed
    | permit gate count => exact .rests rfl rfl
    | addJob _ | removeJob _ | setJobEnabled _ _ => exact absurd trivial planning

end Scheduler

namespace Round

def callsOf (round : Round) (id : TaskId) : Nat := round.scheduler.shop.callsOf id

section Perform

variable (round : Round) (used : List TaskId) (now : Instant)

theorem accept_progress (id : TaskId) :
    Scheduler.Progress round.scheduler (round.accept id now).scheduler now (.accept id) := by
  cases hand : round.hand with
  | some fire =>
      simp only [accept, hand]
      exact .rests rfl rfl
  | none =>
      cases left : round.due with
      | nil =>
          simp only [accept, hand, left]
          exact .rests rfl rfl
      | cons due rest =>
          simp only [accept, hand, left]
          obtain ⟨call, orders, board, called⟩ :=
            round.scheduler.accept_ordered now due.request id (.accept id) (by simp [Step.ids])
          exact .ordered call orders (congrArg Board.store board) called

theorem settle_progress :
    Scheduler.Progress round.scheduler (round.settle now).scheduler now .settle := by
  cases hand : round.hand with
  | none =>
      simp only [settle, hand]
      exact .rests rfl rfl
  | some fire =>
      simp only [settle, hand]
      rcases Scheduler.settle_fire_cases round.scheduler now fire.due fire.id fire.result with
        ⟨ticket, event, _, handed⟩ | ⟨_, same | ⟨event, same⟩⟩
      · rw [handed]
        obtain ⟨board, called⟩ := Scheduler.dispatch_rests _ now ticket
        exact .rests ((congrArg Board.store board).trans rfl) called
      · rw [same]
        exact .rests rfl rfl
      · rw [same]
        exact .rests rfl rfl

theorem progress_perform (steady : round.Steady used) (step : Step) :
    Scheduler.Progress round.scheduler (round.perform now step).scheduler now step := by
  change Scheduler.Progress round.scheduler (round.act now step).scheduler now step
  cases step with
  | move move =>
      rw [act]
      by_cases allowed : round.allows move = true
      · rw [if_pos allowed]
        exact round.scheduler.move_progress now steady.sound.balanced.intact move
          (allows_unfired round move allowed)
      · rw [if_neg allowed]
        exact .rests rfl rfl
  | take =>
      rw [act]
      split
      · exact .rests rfl rfl
      · exact .rests rfl rfl
  | accept id => exact accept_progress round now id
  | settle => exact settle_progress round now

inductive TaskStep (round next : Round) (now : Instant) (step : Step) (id : TaskId) : Prop where
  | rests (record : next.board.store.find? id = round.board.store.find? id)
      (called : next.callsOf id = round.callsOf id)
  | ordered (call : Board.Call) (added : List Event)
      (orders : Scheduler.Orders round.scheduler now step call)
      (turn : Board.Turn now id call (round.board.store.find? id) (next.board.store.find? id) added)
      (called : next.callsOf id = round.callsOf id)
  | began (ticket : Ticket) (record : TaskRecord) (given : ticket ∈ round.scheduler.shop.handed)
      (named : ticket.id = id) (found : round.board.store.find? id = some record)
      (waits : record.state = .pending)
      (later : next.board.store.find? id = some (record.moved .running none now))
      (called : next.callsOf id = round.callsOf id + 1)
      (carried : next.scheduler.shop.opening ticket ∈ next.scheduler.shop.activities)

theorem task_step (steady : round.Steady used) (step : Step)
    (fresh : ∀ id ∈ step.ids, id ∉ used) (id : TaskId) :
    TaskStep round (round.perform now step) now step id := by
  have counted (next : Workshop) (called : next.called = round.scheduler.shop.called) :
      next.callsOf id = round.scheduler.shop.callsOf id := by
    rw [Workshop.callsOf, called, Workshop.callsOf]
  cases progress_perform round used now steady step with
  | rests store called => exact .rests (congrArg (Store.find? · id) store) (counted _ called)
  | ordered call orders store called =>
      have absent (own : TaskId) (member : own ∈ step.ids) :
          round.board.store.find? own = none :=
        Desk.fresh_absent _ steady.sound own (fresh own member)
      have lawful := round.scheduler.orders_lawful now step call orders absent
      obtain ⟨added, turn⟩ :=
        Board.perform_turn round.board steady.sound.balanced now call lawful id
      refine .ordered call added orders ?_ (counted _ called)
      have after := congrArg (Store.find? · id) store
      exact after ▸ turn
  | began ticket record given found waits store called carried =>
      have has := Store.find_has_id _ _ record found
      have count : (round.perform now step).scheduler.shop.callsOf id =
          round.scheduler.shop.callsOf id + if ticket.id = id then 1 else 0 :=
        Workshop.calls_added _ _ ticket.assignment called id
      have after := congrArg (Store.find? · id) store
      by_cases same : ticket.id = id
      · subst same
        rw [if_pos rfl] at count
        refine .began ticket record given rfl found waits (after.trans ?_) count carried
        have moved := Store.find_update_same round.board.store (record.moved .running none now) record
          (has ▸ found)
        rw [← has]
        exact moved
      · rw [if_neg same] at count
        have apart : id ≠ (record.moved .running none now).id := fun equal => same (has.symm.trans equal.symm)
        exact .rests (after.trans (Store.find_update_other round.board.store _ id apart)) count

end Perform

end Round

end Foreman
