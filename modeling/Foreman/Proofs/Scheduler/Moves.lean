import Foreman.Proofs.Board.Sweep
import Foreman.Proofs.Scheduler.Phases

set_option autoImplicit false

namespace Foreman

namespace Scheduler

theorem listening_on (scheduler : Scheduler) (listening : scheduler.isListening = true) :
    scheduler.phase = .on := by
  simp only [isListening, Bool.and_eq_true, beq_iff_eq] at listening
  exact listening.1

section Moves

variable {plans : Prop} (scheduler : Scheduler) (now : Instant) (hand : List Ticket)
  (issued : List (TaskId × Nat)) (used : List TaskId)

theorem submit_cases (request : Request) (id : TaskId) (intact : scheduler.board.store.Intact)
    (absent : scheduler.board.store.find? id = none) :
    (scheduler.submit request id now).1 = scheduler ∨
      ∃ cache board result, scheduler.isOpen = true ∧ Accepted scheduler.board id board result ∧
        (scheduler.submit request id now).1 =
          { scheduler with
            cache := cache
            shop := { scheduler.shop with board := board }
            inbox := scheduler.inbox ++ (ticketsOf result).map .dispatch } := by
  unfold submit
  split
  · exact .inl rfl
  · split
    · rename_i opened
      obtain ⟨cache, board, result, same, accepted⟩ :=
        accept_cases scheduler request id now intact absent
      refine .inr ⟨cache, board, result, opened, accepted, ?_⟩
      rw [same]
      cases result with
      | ok ticket => rfl
      | error error => simp [ticketsOf]
    · exact .inl rfl

theorem queued_append (inbox : List Command) (tickets : List Ticket) :
    (inbox ++ tickets.map Command.dispatch).filterMap Command.ticket? =
      inbox.filterMap Command.ticket? ++ tickets := by
  rw [List.filterMap_append, List.filterMap_map]
  exact congrArg _ (List.filterMap_some)

theorem submit_shifts (request : Request) (id : TaskId) (fresh : id ∉ used)
    (sound : (scheduler.desk hand issued used).Sound) :
    Desk.Shifts plans (scheduler.desk hand issued used)
      ((scheduler.submit request id now).1.desk hand
        (issued ++ (scheduler.submit request id now).1.board.tokens.stamps [id]) (used ++ [id])) := by
  have absent := Desk.fresh_absent _ sound id fresh
  rcases submit_cases scheduler now request id sound.balanced.intact absent with
    same | ⟨cache, board, result, _, accepted, same⟩
  · rw [same, stamps_unheld, List.append_nil]
    · exact Desk.shifts_one _ _ (.spent id)
    · rintro pair member rfl
      exact fresh (sound.given pair (sound.table pair member)).1
  · rw [same]
    have shifts : Desk.Shifts plans (scheduler.desk hand issued used)
        { scheduler.desk hand issued used with
          board := board
          queued := hand ++ scheduler.queued ++ ticketsOf result
          issued := issued ++ board.tokens.stamps [id]
          used := used ++ [id] } :=
      accepted_shifts (scheduler.desk hand issued used) sound id fresh board result accepted
    have queue : hand ++ scheduler.queued ++ ticketsOf result = hand ++
        (scheduler.inbox ++ (ticketsOf result).map Command.dispatch).filterMap Command.ticket? := by
      rw [queued_append, List.append_assoc, queued]
    rw [queue] at shifts
    exact shifts

theorem orderly_submit (request : Request) (id : TaskId) (orderly : scheduler.Orderly)
    (intact : scheduler.board.store.Intact) (absent : scheduler.board.store.find? id = none) :
    (scheduler.submit request id now).1.Orderly := by
  rcases submit_cases scheduler now request id intact absent with
    same | ⟨cache, board, result, opened, _, same⟩
  · rw [same]
    exact orderly
  · have on := open_on scheduler orderly opened
    have inbox := orderly.on on
    rw [same]
    refine orderly_on _ on ?_
    change Inbox scheduler.isOpen (scheduler.inbox ++ _)
    rw [opened] at inbox ⊢
    cases result with
    | ok ticket => exact inbox_submit scheduler.inbox ticket inbox
    | error error => simpa [ticketsOf] using inbox

theorem start_shifts (orderly : scheduler.Orderly) :
    Desk.Shifts plans (scheduler.desk hand issued used)
      ((scheduler.start now).1.desk hand issued used) := by
  rcases start_cases scheduler now with same | ⟨off, same⟩
  · rw [same]
    exact .refl
  · have inbox := (orderly.closed (by simp [off])).2
    let started := { scheduler with
      shop := { scheduler.shop with
        pools := scheduler.shop.pools ++ [Pool.ofSize scheduler.poolSize scheduler.cores] }
      isOpen := true
      phase := .on
      inbox := [] }
    have unmoved : started.desk hand issued used = scheduler.desk hand issued used := by
      simp [started, desk, queued, inbox, Workshop.handed, Pool.ofSize, board, watched]
    rw [same, ← unmoved]
    exact publish_shifts started hand issued used (Event.ofScheduler .startup now)

theorem orderly_start (orderly : scheduler.Orderly) : (scheduler.start now).1.Orderly := by
  rcases start_cases scheduler now with same | ⟨_, same⟩
  · rw [same]
    exact orderly
  · rw [same]
    exact orderly_on _ rfl .empty

theorem stop_shifts (mode : ShutdownMode) :
    Desk.Shifts plans (scheduler.desk hand issued used)
      ((scheduler.stop mode).1.desk hand issued used) := by
  rcases stop_cases scheduler mode with same | ⟨_, same⟩
  · rw [same]
    exact .refl
  · have unmoved : ({ scheduler with
        isOpen := false
        inbox := scheduler.inbox ++ [.shutdown mode] } : Scheduler).desk hand issued used =
        scheduler.desk hand issued used := by
      simp [desk, queued, Command.ticket?, board, watched]
    rw [same, unmoved]
    exact .refl

theorem orderly_stop (mode : ShutdownMode) (orderly : scheduler.Orderly) :
    (scheduler.stop mode).1.Orderly := by
  rcases stop_cases scheduler mode with same | ⟨opened, same⟩
  · rw [same]
    exact orderly
  · have on := open_on scheduler orderly opened
    have inbox := orderly.on on
    rw [opened] at inbox
    rw [same]
    exact orderly_on _ on (inbox_stop scheduler.inbox mode inbox)

theorem receive_shifts (orderly : scheduler.Orderly) (on : scheduler.phase = .on)
    (balanced : scheduler.board.Balanced) :
    Desk.Shifts plans (scheduler.desk hand issued used)
      ((scheduler.receive now).desk hand issued used) := by
  have valid := orderly.on on
  rcases receive_cases scheduler now with same | ⟨ticket, rest, inbox, same⟩ | ⟨mode, rest, inbox, same⟩
  · rw [same]
    exact .refl
  · have start : scheduler.desk hand issued used =
        { ({ scheduler with inbox := rest } : Scheduler).desk hand issued used with
          queued := hand ++ ticket :: rest.filterMap Command.ticket? } := by
      simp [desk, queued, inbox, Command.ticket?, board, watched]
    rw [same, start]
    apply dispatch_shifts { scheduler with inbox := rest } now hand issued used balanced.intact ticket
    · intro other member
      rcases List.mem_append.mp member with own | later
      · exact .inr (List.mem_append_left _ own)
      · rcases List.mem_cons.mp later with same | behind
        · exact .inl same
        · exact .inr (List.mem_append_right _ behind)
    · intro other member
      rcases List.mem_append.mp member with own | behind
      · exact List.mem_append_left _ own
      · exact List.mem_append_right _ (List.mem_cons_of_mem _ behind)
    · simp
  · rw [inbox] at valid
    obtain ⟨_, rfl⟩ := inbox_shutdown mode rest scheduler.isOpen valid
    have unmoved : scheduler.desk hand issued used =
        ({ scheduler with inbox := [] } : Scheduler).desk hand issued used := by
      simp [desk, queued, inbox, Command.ticket?, board, watched]
    rw [same, unmoved]
    cases mode with
    | wait => exact .refl
    | cancel =>
        have swept := Board.cancel_all_evolves "Scheduler shut down before the task finished" now
          scheduler.board balanced
        exact board_shifts { scheduler with inbox := [] } hand issued used _ Board.Swept
          (by simp [Board.Swept]) (by simp [Board.Swept]) (by simp [Board.Swept]) swept

theorem orderly_receive (orderly : scheduler.Orderly) (on : scheduler.phase = .on) :
    (scheduler.receive now).Orderly := by
  have valid := orderly.on on
  rcases receive_cases scheduler now with same | ⟨ticket, rest, inbox, same⟩ | ⟨mode, rest, inbox, same⟩
  · rw [same]
    exact orderly
  · rw [inbox] at valid
    have tail := inbox_tail ticket rest scheduler.isOpen valid
    obtain ⟨phase, isOpen, left⟩ := alike_dispatch { scheduler with inbox := rest } now ticket
    rw [same]
    refine orderly_on _ (phase.trans on) ?_
    rw [isOpen, left]
    exact tail
  · rw [inbox] at valid
    obtain ⟨closed, _⟩ := inbox_shutdown mode rest scheduler.isOpen valid
    rw [same]
    refine ⟨by simp [shutdown], fun _ => ?_, by simp [shutdown]⟩
    cases mode with
    | wait => exact ⟨closed, rfl⟩
    | cancel => exact ⟨closed, rfl⟩

theorem close_shifts :
    Desk.Shifts plans (scheduler.desk hand issued used)
      ((scheduler.close now).desk hand issued used) := by
  rcases close_cases scheduler now with same | ⟨_, _, same⟩
  · rw [same]
    exact .refl
  · let closed := { scheduler with
      shop := { scheduler.shop with spawned := [], fibers := [] }
      phase := .off }
    have dropped : Desk.Shifts plans (scheduler.desk hand issued used)
        (closed.desk hand issued used) := by
      refine Desk.shifts_one _ _ (.passed _ _ closed.shop.handed (fun _ queued => queued)
        (fun _ watching => .inl watching) ?_ (fun _ queued => .inl queued)
        fun _ watching => .inl watching)
      intro ticket given
      rcases List.mem_append.mp given with pooled | spawned
      · exact .inl (List.mem_append_left _ pooled)
      · cases spawned
    rw [same]
    exact Desk.shifts_trans _ _ _ dropped
      (publish_shifts closed hand issued used (Event.ofScheduler .shutdown now))

theorem orderly_close (orderly : scheduler.Orderly) : (scheduler.close now).Orderly := by
  rcases close_cases scheduler now with same | ⟨closing, watches, same⟩
  · rw [same]
    exact orderly
  · have closed := orderly.closed (by simp [closing])
    rw [same]
    refine ⟨fun on => ?_, fun _ => closed, fun _ => watches⟩
    cases on

theorem work_shifts (deed : Deed) (balanced : scheduler.board.Balanced) :
    Desk.Shifts plans (scheduler.desk hand issued used)
      ((scheduler.performDeed now deed).desk hand issued used) := by
  have proceeds := Workshop.proceeds_perform scheduler.shop balanced now deed
  have claimed : Desk.Shift plans (scheduler.desk hand issued used)
      { scheduler.desk hand issued used with board := (scheduler.shop.perform now deed).board } := by
    refine .evolved _ (Workshop.Claims scheduler.shop.handed) ?_ ?_ ?_ proceeds.board
    · simp [Workshop.Claims]
    · simp [Workshop.Claims]
    · rintro id (aside | ⟨ticket, given, same⟩)
      · cases aside
      · cases same
        exact ⟨ticket, given, rfl⟩
  refine .step _ _ (Desk.shifts_one _ _ claimed) ?_
  exact .passed _ _ (scheduler.shop.perform now deed).handed (fun _ queued => queued)
    (fun _ watching => .inl watching) (fun ticket given => .inl (proceeds.handed ticket given))
    (fun _ queued => .inl queued) fun _ watching => .inl watching

theorem planned_shifts (ok : plans) (jobs : JobTable) (event : Event) :
    Desk.Shifts plans (scheduler.desk hand issued used)
      (((scheduler.withJobs jobs).publish event).desk hand issued used) :=
  Desk.shifts_trans _ _ _ (Desk.shifts_one _ _ (.planned ok jobs))
    (publish_shifts (scheduler.withJobs jobs) hand issued used event)

end Moves

theorem move_shifts (scheduler : Scheduler) (now : Instant) (hand : List Ticket)
    (issued : List (TaskId × Nat)) (used : List TaskId)
    (sound : (scheduler.desk hand issued used).Sound) (orderly : scheduler.Orderly) (move : Move)
    (unfired : ∀ ids, move ≠ .fireDue ids) (unsubmitted : ∀ request id, move ≠ .submit request id) :
    Desk.Shifts move.IsPlanning (scheduler.desk hand issued used)
      ((scheduler.perform now move).desk hand issued used) := by
  have balanced : scheduler.board.Balanced := sound.balanced
  by_cases planning : move.IsPlanning
  · rcases planning_cases scheduler now move planning with same | ⟨jobs, event, same⟩
    · rw [same]
      exact .refl
    · rw [same]
      exact planned_shifts scheduler hand issued used planning jobs event
  · cases move with
    | start => exact start_shifts scheduler now hand issued used orderly
    | stop mode => exact stop_shifts scheduler hand issued used mode
    | submit request id => exact absurd rfl (unsubmitted request id)
    | cancel id =>
        exact board_shifts scheduler hand issued used _ _ (by simp) (by simp) (by simp)
          (Board.cancel_evolves scheduler.board now balanced id)
    | evict id =>
        exact board_shifts scheduler hand issued used _ _ (by simp) (by simp) (by simp)
          (Board.evict_evolves scheduler.board id balanced)
    | receive =>
        rw [perform]
        split
        · rename_i listening
          have on := listening_on scheduler listening
          exact receive_shifts scheduler now hand issued used orderly on balanced
        · exact .refl
    | fireDue ids => exact absurd rfl (unfired ids)
    | completeWatch token =>
        rw [perform]
        split
        · exact complete_watch_shifts scheduler now hand issued used balanced token
        · exact .refl
    | expireWatch token =>
        rw [perform]
        split
        · exact expire_watch_shifts scheduler now hand issued used balanced token
        · exact .refl
    | releaseWatch token =>
        rw [perform]
        split
        · exact release_watch_shifts scheduler hand issued used token
        · exact .refl
    | close =>
        rw [perform]
        split
        · exact close_shifts scheduler now hand issued used
        · exact .refl
    | work deed => exact work_shifts scheduler now hand issued used deed balanced
    | permit gate count => exact .refl
    | addJob _ | removeJob _ | setJobEnabled _ _ => exact absurd trivial planning

theorem orderly_move (scheduler : Scheduler) (now : Instant) (orderly : scheduler.Orderly)
    (move : Move) (unfired : ∀ ids, move ≠ .fireDue ids)
    (unsubmitted : ∀ request id, move ≠ .submit request id) :
    (scheduler.perform now move).Orderly := by
  by_cases phasing : move.IsPhasing
  · cases move with
    | start => exact orderly_start scheduler now orderly
    | stop mode => exact orderly_stop scheduler mode orderly
    | submit request id => exact absurd rfl (unsubmitted request id)
    | receive =>
        rw [perform]
        split
        · rename_i listening
          exact orderly_receive scheduler now orderly (listening_on scheduler listening)
        · exact orderly
    | fireDue ids => exact absurd rfl (unfired ids)
    | close =>
        rw [perform]
        split
        · exact orderly_close scheduler now orderly
        · exact orderly
    | _ => cases phasing
  · obtain ⟨alike, watches⟩ := alike_move scheduler now move phasing
    exact orderly_alike scheduler _ orderly alike fun _ => watches

end Scheduler

end Foreman
