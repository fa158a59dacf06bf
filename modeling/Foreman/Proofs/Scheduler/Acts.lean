import Foreman.Proofs.Board.Calls
import Foreman.Proofs.Scheduler.Supervision
import Foreman.Proofs.Workshop.Efforts
import Foreman.Proofs.Workshop.Flow
import Foreman.Scheduler.Simulation

set_option autoImplicit false

namespace Foreman

theorem Board.finish_other (board : Board) (intact : board.store.Intact) (assignment : Assignment)
    (state : TaskState) (outcome : Outcome) (now : Instant) (id : TaskId)
    (other : id ≠ assignment.id) :
    (board.finish assignment state outcome now).1.store.find? id = board.store.find? id := by
  rcases end_cases board now intact assignment.id assignment.reference TaskState.active state outcome
    with ⟨record, found, _, _, won⟩ | ⟨_, lost⟩
  · have has := Store.find_has_id board.store assignment.id record found
    rw [finish, won, moved_found board record (has ▸ found), if_neg]
    exact fun same => other (same.symm.trans has)
  · rw [finish, lost]

namespace Workshop

theorem hand_uncalled (shop : Workshop) (ticket : Ticket) :
    (shop.hand ticket).uncalled ≤ shop.uncalled + 1 := by
  unfold hand
  split
  · have queued := queue_total (fun pool => pool.waiting.length) 1 ticket
      (fun pool => Nat.le_of_eq List.length_append) shop.pools
    simp only [uncalled]
    omega
  · simp only [uncalled, List.length_append, List.length_cons, List.length_nil]
    omega

end Workshop

def Move.IsPlain : Move → Prop
  | .start | .stop _ | .receive | .completeWatch _ | .expireWatch _ | .releaseWatch _ | .close
  | .work _ => True
  | _ => False

namespace Scheduler

-- What goes on by itself where no job fires. A watch ends together with its task at most.
inductive Act (scheduler : Scheduler) (now : Instant) : Scheduler → Prop where
  | dropped (ticket : Ticket) (rest : List Command)
      (inbox : scheduler.inbox = .dispatch ticket :: rest) :
      Act scheduler now { scheduler with inbox := rest }
  | dispatched (ticket : Ticket) (rest : List Command) (record : TaskRecord)
      (inbox : scheduler.inbox = .dispatch ticket :: rest)
      (found : scheduler.board.store.find? ticket.id = some record)
      (waits : record.state = .pending) (on : scheduler.phase = .on) :
      Act scheduler now { scheduler with
        inbox := rest
        shop := scheduler.shop.hand ticket
        watches := scheduler.watches ++ [Watch.begin ticket now] }
  | swept (reason : String) (rest : List Command)
      (inbox : scheduler.inbox = .shutdown .cancel :: rest) :
      Act scheduler now
        { scheduler.withBoard (scheduler.board.cancelAll reason now).1 with
          inbox := []
          phase := .closing }
  | ended (watch : Watch) (board : Board) (member : watch ∈ scheduler.watches)
      (others : ∀ id, id ≠ watch.ticket.id →
        board.store.find? id = scheduler.board.store.find? id) :
      Act scheduler now ((scheduler.endWatch watch.ticket.token).withBoard board)
  | closed (event : Event) (closing : scheduler.phase = .closing) :
      Act scheduler now (publish { scheduler with
        shop := { scheduler.shop with spawned := [], fibers := [] }
        phase := .off } event)
  | worked (deed : Deed)
      (lightens : scheduler.shop.Lightens (scheduler.shop.perform now deed)) :
      Act scheduler now (scheduler.performDeed now deed)

def bears (scheduler : Scheduler) (token : Nat) : Nat :=
  Ticket.bearers token scheduler.queued + scheduler.shop.bears token

def keeps (scheduler : Scheduler) (token : Nat) : Nat :=
  Ticket.bearers token scheduler.queued + Ticket.bearers token scheduler.watched

structure Apart (scheduler : Scheduler) : Prop where
  borne : ∀ token, scheduler.bears token ≤ 1
  kept : ∀ token, scheduler.keeps token ≤ 1
  unborne : ∀ token, scheduler.board.tokens.fresh ≤ token →
    scheduler.bears token = 0 ∧ scheduler.keeps token = 0

theorem apart_shop (scheduler : Scheduler) (apart : scheduler.Apart) : scheduler.shop.Apart :=
  fun token => Nat.le_trans (Nat.le_add_left _ _) (apart.borne token)

section Chosen

variable (scheduler : Scheduler) (now : Instant)

theorem dispatch_pending (intact : scheduler.board.store.Intact) (ticket : Ticket)
    (past : ∀ record, scheduler.board.store.find? ticket.id = some record →
      record.state ≠ .pending) : scheduler.dispatch ticket now = scheduler := by
  have got := Store.get_intact scheduler.board.store intact ticket.assignment.id
  unfold dispatch
  split
  · rfl
  · rw [got]
    cases found : scheduler.board.store.find? ticket.assignment.id with
    | none => rfl
    | some record => exact if_neg (past record found)

theorem receive_acts (intact : scheduler.board.store.Intact) (on : scheduler.phase = .on)
    (waiting : scheduler.inbox ≠ []) (cancelling : .shutdown .wait ∉ scheduler.inbox) :
    Act scheduler now (scheduler.receive now) := by
  cases inbox : scheduler.inbox with
  | nil => exact absurd inbox waiting
  | cons command rest =>
      cases command with
      | dispatch ticket =>
          have same : scheduler.receive now = dispatch { scheduler with inbox := rest } ticket now := by
            simp only [receive, inbox]
          rw [same]
          by_cases pending : ∃ record, scheduler.board.store.find? ticket.id = some record ∧
              record.state = .pending
          · obtain ⟨record, found, waits⟩ := pending
            rcases dispatch_cases { scheduler with inbox := rest } now ticket with
              ⟨dropped, _⟩ | handed
            · rw [dropped]
              exact .dropped ticket rest inbox
            · rw [handed]
              exact .dispatched ticket rest record inbox found waits on
          · rw [dispatch_pending { scheduler with inbox := rest } now intact ticket
              fun record found waits => pending ⟨record, found, waits⟩]
            exact .dropped ticket rest inbox
      | shutdown mode =>
          have same : scheduler.receive now = shutdown { scheduler with inbox := [] } mode now := by
            simp only [receive, inbox]
          rw [same]
          cases mode with
          | wait =>
              rw [inbox] at cancelling
              exact absurd List.mem_cons_self cancelling
          | cancel => exact .swept _ rest inbox

theorem finish_acts (intact : scheduler.board.store.Intact) (watch : Watch)
    (member : watch ∈ scheduler.watches) (state : TaskState) (outcome : Outcome) :
    Act scheduler now
      ((scheduler.endWatch watch.ticket.token).finish watch.ticket state outcome now) :=
  .ended watch _ member fun id other =>
    Board.finish_other scheduler.board intact watch.ticket.assignment state outcome now id other

variable (apart : scheduler.Apart)

include apart

theorem watch_unique (watch other : Watch) (member : watch ∈ scheduler.watches)
    (present : other ∈ scheduler.watches) (same : other.ticket.token = watch.ticket.token) :
    other = watch := by
  have once : scheduler.watches.countP (fun other => other.ticket.token == watch.ticket.token) ≤ 1 := by
    have kept := apart.kept watch.ticket.token
    rw [keeps, Ticket.bearers, Ticket.bearers, watched, List.countP_map] at kept
    exact Nat.le_trans (Nat.le_add_left _ _) kept
  exact bearer_unique _ scheduler.watches once other watch present member (by simpa using same)
    (by simp)

theorem watch_found (watch : Watch) (member : watch ∈ scheduler.watches) :
    scheduler.findWatch watch.ticket.token = some watch := by
  have present : (scheduler.findWatch watch.ticket.token).isSome := by
    rw [findWatch, List.find?_isSome]
    exact ⟨watch, member, by simp⟩
  obtain ⟨other, found⟩ := Option.isSome_iff_exists.mp present
  have named : other.ticket.token = watch.ticket.token := by simpa using List.find?_some found
  rw [found, watch_unique scheduler apart watch other member (List.mem_of_find?_eq_some found) named]

theorem complete_watch_acts (intact : scheduler.board.store.Intact) (watch : Watch)
    (member : watch ∈ scheduler.watches)
    (ended : (scheduler.shop.end? watch.ticket.token).isSome = true) :
    Act scheduler now (scheduler.completeWatch watch.ticket.token now) := by
  obtain ⟨result, known⟩ := Option.isSome_iff_exists.mp ended
  have found := watch_found scheduler apart watch member
  simp only [completeWatch, found, known, completed]
  split
  · exact finish_acts scheduler now intact watch member _ _
  · split
    · exact .ended watch scheduler.board member fun _ _ => rfl
    · exact finish_acts scheduler now intact watch member _ _

theorem expire_watch_acts (intact : scheduler.board.store.Intact) (watch : Watch)
    (member : watch ∈ scheduler.watches) (expired : watch.isExpired now = true) :
    Act scheduler now (scheduler.expireWatch watch.ticket.token now) := by
  have found := watch_found scheduler apart watch member
  simp only [expireWatch, found, if_pos expired]
  exact .ended watch _ member fun id other =>
    Board.finish_other scheduler.board intact watch.ticket.assignment .timedOut
      (timedOut watch.ticket now) now id other

omit apart in
theorem release_watch_acts (watch : Watch) (member : watch ∈ scheduler.watches)
    (cancelled : scheduler.board.tokens.isCancelled watch.ticket.token = true) :
    Act scheduler now (scheduler.releaseWatch watch.ticket.token) := by
  rw [releaseWatch, if_pos cancelled]
  exact .ended watch scheduler.board member fun _ _ => rfl

theorem watch_move_acts (intact : scheduler.board.store.Intact)
    (watching : scheduler.isWatching = true) (watch : Watch) (member : watch ∈ scheduler.watches)
    (move : Move) (chosen : Simulation.watchMove scheduler now watch = some move) :
    move.IsPlain ∧ Act scheduler now (scheduler.perform now move) := by
  simp only [Simulation.watchMove] at chosen
  split at chosen
  · rename_i ended
    cases chosen
    rw [perform, if_pos watching]
    exact ⟨trivial, complete_watch_acts scheduler now apart intact watch member ended⟩
  · split at chosen
    · rename_i expired
      cases chosen
      rw [perform, if_pos watching]
      exact ⟨trivial, expire_watch_acts scheduler now apart intact watch member expired⟩
    · split at chosen
      · rename_i cancelled
        cases chosen
        rw [perform, if_pos watching]
        exact ⟨trivial, release_watch_acts scheduler now watch member cancelled⟩
      · cases chosen

theorem fiber_acts (move : Move)
    (chosen : (scheduler.shop.fiberDeed now).map Move.work = some move) :
    move.IsPlain ∧ Act scheduler now (scheduler.perform now move) := by
  obtain ⟨deed, fiber, rfl⟩ := Option.map_eq_some_iff.mp chosen
  exact ⟨trivial, .worked deed (Workshop.fiber_deed_lightens scheduler.shop now
    (apart_shop scheduler apart) deed fiber)⟩

end Chosen

theorem jobless_due (scheduler : Scheduler) (now : Instant)
    (jobless : scheduler.board.jobs.jobs = []) : Simulation.hasDueJob scheduler now = false := by
  rw [Simulation.hasDueJob, JobTable.nextWake, jobless]
  rfl

end Scheduler

namespace Simulation

variable (idOf : Nat → TaskId) (simulation : Simulation) (now : Instant)

theorem chosen_acts (intact : simulation.scheduler.board.store.Intact)
    (apart : simulation.scheduler.Apart) (jobless : simulation.scheduler.board.jobs.jobs = [])
    (cancelling : .shutdown .wait ∉ simulation.scheduler.inbox) (move : Move)
    (chosen : nextMove? idOf simulation now = some move) :
    move.IsPlain ∧ Scheduler.Act simulation.scheduler now (simulation.scheduler.perform now move) := by
  rw [nextMove?, Option.orElse_eq_or, Option.or_eq_some_iff] at chosen
  rcases chosen with pooled | ⟨_, coordinated⟩
  · obtain ⟨deed, pool, rfl⟩ := Option.map_eq_some_iff.mp pooled
    exact ⟨trivial, .worked deed (Workshop.pools_lighten simulation.scheduler.shop now
      (Scheduler.apart_shop _ apart) deed pool)⟩
  · simp only [coordinatorMove] at coordinated
    split at coordinated
    · rename_i ready
      cases coordinated
      rw [Bool.and_eq_true] at ready
      rw [Scheduler.perform, if_pos ready.1]
      have on : simulation.scheduler.phase = .on := by
        simp only [Scheduler.isListening, Bool.and_eq_true, beq_iff_eq] at ready
        exact ready.1.1
      exact ⟨trivial, simulation.scheduler.receive_acts now intact on (by simpa using ready.2)
        cancelling⟩
    · split at coordinated
      · rename_i watching
        rw [Option.orElse_eq_or, Option.or_eq_some_iff] at coordinated
        rcases coordinated with fiber | ⟨_, behind⟩
        · exact simulation.scheduler.fiber_acts now apart move fiber
        · rw [Option.orElse_eq_or, Option.or_eq_some_iff] at behind
          rcases behind with watched | ⟨_, last⟩
          · obtain ⟨watch, member, own⟩ := List.exists_of_findSome?_eq_some watched
            exact simulation.scheduler.watch_move_acts now apart intact watching watch member move own
          · rw [Scheduler.jobless_due simulation.scheduler now jobless, Bool.and_false,
              if_neg Bool.false_ne_true] at last
            split at last
            · rename_i closing
              cases last
              rw [Scheduler.perform, if_pos watching, Scheduler.close, if_pos closing]
              exact ⟨trivial, .closed _ closing.1⟩
            · cases last
      · split at coordinated
        · cases coordinated
        · exact simulation.scheduler.fiber_acts now apart move coordinated

theorem toil_lowered (scheduler next : Scheduler) (issued later : Nat)
    (jobs : next.board.jobs = scheduler.board.jobs)
    (lowered : next.inbox.length < scheduler.inbox.length ∧
        next.shop.uncalled ≤ scheduler.shop.uncalled + 1 ∨
      next.inbox = scheduler.inbox ∧ (next.shop.uncalled < scheduler.shop.uncalled ∨
        next.shop.uncalled = scheduler.shop.uncalled ∧
          next.shop.efforts + next.watches.length + (if next.phase = .closing then 1 else 0) <
            scheduler.shop.efforts + scheduler.watches.length +
              (if scheduler.phase = .closing then 1 else 0))) :
    toil ⟨next, later⟩ < toil ⟨scheduler, issued⟩ := by
  have plans : Toil.total future next.board.jobs.jobs =
      Toil.total future scheduler.board.jobs.jobs := by
    rw [jobs]
  refine .inr ⟨plans, ?_⟩
  change 2 * next.inbox.length + next.shop.uncalled <
      2 * scheduler.inbox.length + scheduler.shop.uncalled ∨
    2 * next.inbox.length + next.shop.uncalled =
      2 * scheduler.inbox.length + scheduler.shop.uncalled ∧ _
  rcases lowered with ⟨shorter, most⟩ | ⟨same, fewer | ⟨called, less⟩⟩
  · exact .inl (by omega)
  · rw [same]
    exact .inl (Nat.add_lt_add_left fewer _)
  · rw [same, called]
    exact .inr ⟨rfl, less⟩

theorem act_lowers (scheduler next : Scheduler) (issued later : Nat) (act : scheduler.Act now next)
    (jobs : next.board.jobs = scheduler.board.jobs) :
    toil ⟨next, later⟩ < toil ⟨scheduler, issued⟩ := by
  refine toil_lowered scheduler next issued later jobs ?_
  cases act with
  | dropped ticket rest inbox =>
      rw [inbox]
      exact .inl ⟨Nat.lt_succ_self _, Nat.le_succ _⟩
  | dispatched ticket rest record inbox found waits on =>
      rw [inbox]
      exact .inl ⟨Nat.lt_succ_self _, scheduler.shop.hand_uncalled ticket⟩
  | swept reason rest inbox =>
      rw [inbox]
      exact .inl ⟨Nat.succ_pos _, Nat.le_succ _⟩
  | ended watch board member others =>
      have fewer : (scheduler.endWatch watch.ticket.token).watches.length <
          scheduler.watches.length :=
        List.length_filter_lt_length_iff_exists.mpr ⟨watch, member, by simp⟩
      exact .inr ⟨rfl, .inr ⟨rfl, Nat.add_lt_add_right (Nat.add_lt_add_left fewer _) _⟩⟩
  | closed event closing =>
      -- Fibers that are dropped leave nothing to do either.
      have uncalled : Workshop.uncalled { scheduler.shop with spawned := [], fibers := [] } +
          scheduler.shop.spawned.length = scheduler.shop.uncalled := rfl
      have efforts : Workshop.efforts { scheduler.shop with spawned := [], fibers := [] } +
          Toil.total Activity.effort scheduler.shop.fibers = scheduler.shop.efforts := rfl
      refine .inr ⟨rfl, ?_⟩
      change Workshop.uncalled { scheduler.shop with spawned := [], fibers := [] } < _ ∨
        Workshop.uncalled { scheduler.shop with spawned := [], fibers := [] } = _ ∧
          Workshop.efforts { scheduler.shop with spawned := [], fibers := [] } +
            scheduler.watches.length + 0 < _
      rw [if_pos closing]
      omega
  | worked deed lightens =>
      rcases lightens with fewer | ⟨same, less⟩
      · exact .inr ⟨rfl, .inl fewer⟩
      · exact .inr ⟨rfl, .inr ⟨same, Nat.add_lt_add_right (Nat.add_lt_add_right less _) _⟩⟩

end Simulation

end Foreman
