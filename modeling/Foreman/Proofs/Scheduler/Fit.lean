import Foreman.Proofs.Scheduler.Entry
import Foreman.Proofs.Scheduler.Orders
import Foreman.Proofs.Scheduler.Shutdown

set_option autoImplicit false

namespace Foreman

namespace Scheduler

structure Upholds (scheduler next : Scheduler) : Prop where
  jobs : next.board.jobs = scheduler.board.jobs
  fresh : scheduler.board.tokens.fresh ≤ next.board.tokens.fresh
  told : ∀ token ∈ scheduler.board.tokens.cancelled, token ∈ next.board.tokens.cancelled
  records : ∀ id record, scheduler.board.store.find? id = some record →
    ∃ later, next.board.store.find? id = some later ∧ later.reference = record.reference ∧
      (record.state.isTerminal = true → later = record)

end Scheduler

theorem Round.upholds_perform (round : Round) (used : List TaskId) (now : Instant)
    (steady : round.Steady used) (step : Step) (fresh : ∀ id ∈ step.ids, id ∉ used)
    (unplanned : ¬ step.IsPlanning) (unevicted : ∀ id, step ≠ .move (.evict id)) :
    round.scheduler.Upholds (round.perform now step).scheduler := by
  have shifts := (continues_perform round used now steady step fresh).shifts
  obtain ⟨onward, told⟩ := Desk.shifts_tokens _ _ shifts
  refine ⟨Desk.shifts_jobs _ _ shifts unplanned, onward, told, fun id record found => ?_⟩
  have stored : round.board.store.find? id = some record := found
  change ∃ later, (round.perform now step).board.store.find? id = some later ∧ _
  cases task_step round used now steady step fresh id with
  | rests same _ => exact ⟨record, same.trans stored, rfl, fun _ => rfl⟩
  | began ticket waiting given named before waits later _ =>
      rw [stored, Option.some.injEq] at before
      subst before
      exact ⟨_, later, rfl, fun ended => by rw [waits] at ended; cases ended⟩
  | ordered call added orders turn _ =>
      rw [stored] at turn
      generalize (round.perform now step).board.store.find? id = after at turn
      cases turn with
      | kept _ _ => exact ⟨record, rfl, rfl, fun _ => rfl⟩
      | started _ _ _ waits _ =>
          exact ⟨_, rfl, rfl, fun ended => by rw [waits] at ended; cases ended⟩
      | ended _ _ _ _ _ _ active _ _ =>
          exact ⟨_, rfl, rfl, fun ended => by rw [active] at ended; cases ended⟩
      | evicted _ _ =>
          cases orders with
          | evicted _ asked => exact absurd asked (unevicted id)

namespace Scheduler

structure Fit (scheduler : Scheduler) (names : List (TaskId × String)) : Prop where
  distinct : (names.map Prod.fst).Nodup
  steady : ∃ issued made, (Round.mk scheduler [] none issued made).Steady (names.map Prod.fst)
  jobless : scheduler.board.jobs.jobs = []
  apart : scheduler.Apart
  flows : scheduler.Flows
  minded : scheduler.Minded
  named : ∀ entry ∈ names, ∃ record,
    scheduler.board.store.find? entry.1 = some record ∧ record.reference = entry.2

section Fit

variable (scheduler : Scheduler) (names : List (TaskId × String)) (fit : scheduler.Fit names)
  (now : Instant)

include fit

theorem fit_balanced : scheduler.board.Balanced := by
  obtain ⟨issued, made, steady⟩ := fit.steady
  exact steady.sound.balanced

theorem fit_orderly : scheduler.Orderly := by
  obtain ⟨issued, made, steady⟩ := fit.steady
  exact steady.orderly

theorem plain_upholds (move : Move) (plain : move.IsPlain) :
    scheduler.Upholds (scheduler.perform now move) ∧
      ∃ issued made, (Round.mk (scheduler.perform now move) [] none issued made).Steady
        (names.map Prod.fst) := by
  obtain ⟨issued, made, steady⟩ := fit.steady
  let round : Round := ⟨scheduler, [], none, issued, made⟩
  have allowed : round.allows move = true := by
    cases move <;> first | rfl | exact plain.elim
  have unsubmitted : ∀ request id, move ≠ .submit request id := by
    rintro request id rfl
    exact plain
  have idle := Round.move_ids move unsubmitted
  have fresh : ∀ id ∈ (Step.move move).ids, id ∉ names.map Prod.fst := by
    rw [idle]
    exact fun id none => absurd none List.not_mem_nil
  have after := Round.move_desk round now move allowed unsubmitted
  have unplanned : ¬ (Step.move move).IsPlanning := by
    cases move <;> first | exact id | exact plain.elim
  have unevicted : ∀ id, Step.move move ≠ .move (.evict id) := by
    rintro id ⟨⟩
    exact plain
  have upholds := round.upholds_perform _ now steady (.move move) fresh unplanned unevicted
  have next := Round.steady_perform round _ now steady (.move move) fresh
  rw [after] at upholds next
  rw [idle, List.append_nil] at next
  exact ⟨upholds, issued, made, next⟩

theorem fit_named (next : Scheduler) (upholds : scheduler.Upholds next) :
    ∀ entry ∈ names, ∃ record,
      next.board.store.find? entry.1 = some record ∧ record.reference = entry.2 := by
  intro entry member
  obtain ⟨record, found, named⟩ := fit.named entry member
  obtain ⟨later, stored, same, _⟩ := upholds.records entry.1 record found
  exact ⟨later, stored, same.trans named⟩

theorem fit_record (id : TaskId) (known : id ∈ names.map Prod.fst) :
    ∃ record, scheduler.board.store.find? id = some record ∧
      scheduler.board.store.get id = .ok (some record) := by
  obtain ⟨entry, member, rfl⟩ := List.mem_map.mp known
  obtain ⟨record, found, _⟩ := fit.named entry member
  exact ⟨record, found, by rw [Store.get_intact _ (fit_balanced scheduler names fit).intact, found]⟩

theorem fit_returned (off : scheduler.phase = .off) (record : TaskRecord)
    (member : record ∈ scheduler.board.store.records) : record.state.isTerminal = true := by
  obtain ⟨issued, made, steady⟩ := fit.steady
  exact (Round.steady_attended _ _ steady).returned off record member

theorem fit_act (move : Move) (plain : move.IsPlain)
    (act : scheduler.Act now (scheduler.perform now move)) :
    (scheduler.perform now move).Fit names := by
  obtain ⟨upholds, steady⟩ := plain_upholds scheduler names fit now move plain
  obtain ⟨issued, made, before⟩ := fit.steady
  refine ⟨fit.distinct, steady, ?_, ?_, act_flows scheduler _ now act fit.flows, ?_,
    fit_named scheduler names fit _ upholds⟩
  · rw [upholds.jobs]
    exact fit.jobless
  · exact apart_fewer scheduler _ fit.apart upholds.fresh (act_bears scheduler _ now act)
      (act_keeps scheduler _ now act)
  · exact act_minded scheduler _ now [] issued _ before.sound act fit.minded upholds.told

theorem fit_start : (scheduler.start now).1.Fit names := by
  obtain ⟨upholds, steady⟩ := plain_upholds scheduler names fit now .start trivial
  change scheduler.Upholds (scheduler.start now).1 at upholds
  change ∃ issued made, (Round.mk (scheduler.start now).1 [] none issued made).Steady _ at steady
  rcases start_cases scheduler now with same | ⟨off, same⟩
  · rw [same]
    exact fit
  · have named := fit_named scheduler names fit _ upholds
    rw [same] at upholds steady named ⊢
    refine ⟨fit.distinct, steady, upholds.jobs ▸ fit.jobless, ?_, ?_, ?_, named⟩
    · -- The new pool has no tickets yet.
      refine apart_fewer scheduler _ fit.apart upholds.fresh (fun token => ?_)
        fun token => Nat.add_le_add_right (Nat.zero_le _) _
      have pools := Toil.total_append (Pool.bears token) scheduler.shop.pools
        [Pool.ofSize scheduler.poolSize scheduler.cores]
      refine Nat.add_le_add (Nat.zero_le _) ?_
      exact Nat.add_le_add_right (Nat.add_le_add_right (Nat.le_of_eq pools) _) _
    · exact ⟨fit.flows.registry, fit.flows.cache, fun ticket member => (by cases member),
        Workshop.flows_same scheduler.shop _ fit.flows.shop rfl rfl⟩
    · exact ⟨fit.minded.watched, fun closing => (by cases closing), fun member => by cases member⟩

theorem fit_stop : (scheduler.stop .cancel).1.Fit names := by
  obtain ⟨upholds, steady⟩ := plain_upholds scheduler names fit Instant.epoch (.stop .cancel) trivial
  change scheduler.Upholds (scheduler.stop .cancel).1 at upholds
  change ∃ issued made, (Round.mk (scheduler.stop .cancel).1 [] none issued made).Steady _ at steady
  rcases stop_cases scheduler .cancel with same | ⟨_, same⟩
  · rw [same]
    exact fit
  · have queued : (scheduler.inbox ++ [Command.shutdown .cancel]).filterMap Command.ticket? =
        scheduler.queued := by
      rw [List.filterMap_append]
      exact List.append_nil _
    rw [same] at upholds steady ⊢
    refine ⟨fit.distinct, steady, fit.jobless, ?_, ?_, ?_, fit.named⟩
    · refine apart_fewer scheduler _ fit.apart (Nat.le_refl _) (fun token => ?_) fun token => ?_
      · exact Nat.add_le_add_right (Nat.le_of_eq (congrArg (Ticket.bearers token) queued)) _
      · exact Nat.add_le_add_right (Nat.le_of_eq (congrArg (Ticket.bearers token) queued)) _
    · refine ⟨fit.flows.registry, fit.flows.cache, fun ticket member => ?_, fit.flows.shop⟩
      exact fit.flows.queued ticket (queued ▸ (show ticket ∈ List.filterMap _ _ from member))
    · refine ⟨fit.minded.watched, fit.minded.closing, fun member => ?_⟩
      rcases List.mem_append.mp member with before | last
      · exact fit.minded.cancelling before
      · cases List.mem_singleton.mp last

theorem fit_submit (request : Request) (id : TaskId)
    (taken : Taken (scheduler.submit request id now).2) :
    (scheduler.submit request id now).1.Fit (names ++ [(id, request.reference)]) := by
  obtain ⟨issued, made, steady⟩ := fit.steady
  have intact := steady.sound.balanced.intact
  obtain ⟨absent, entry, _⟩ := submit_entry scheduler request id now intact taken
  let round : Round := ⟨scheduler, [], none, issued, made⟩
  have unnamed : id ∉ names.map Prod.fst := by
    intro known
    obtain ⟨entry, member, same⟩ := List.mem_map.mp known
    obtain ⟨record, found, _⟩ := fit.named entry member
    rw [same, absent] at found
    cases found
  have fresh : ∀ other ∈ (Step.move (.submit request id)).ids, other ∉ names.map Prod.fst :=
    fun other own => List.mem_singleton.mp own ▸ unnamed
  have upholds := round.upholds_perform _ now steady (.move (.submit request id)) fresh not_false
    (by simp)
  change scheduler.Upholds (scheduler.submit request id now).1 at upholds
  obtain ⟨_, record, stored, referred⟩ :=
    entry_store scheduler request id now _ entry intact absent
  have next : ∃ issued made, (Round.mk (scheduler.submit request id now).1 [] none issued made).Steady
      ((names ++ [(id, request.reference)]).map Prod.fst) := by
    rw [List.map_append]
    exact ⟨_, made, Round.steady_perform round _ now steady (.move (.submit request id)) fresh⟩
  have distinct : ((names ++ [(id, request.reference)]).map Prod.fst).Nodup := by
    rw [List.map_append]
    refine List.nodup_append.mpr ⟨fit.distinct, List.pairwise_singleton _ _, ?_⟩
    intro known member other own same
    have again : known = id := same.trans (List.mem_singleton.mp own)
    exact unnamed (again ▸ member)
  refine ⟨distinct, next, upholds.jobs ▸ fit.jobless,
    entry_apart scheduler request id now _ entry fit.apart upholds.fresh,
    entry_flows scheduler request id now _ entry fit.flows,
    entry_minded scheduler request id now _ entry intact absent fit.minded upholds.told, ?_⟩
  intro entry member
  rcases List.mem_append.mp member with before | last
  · exact fit_named scheduler names fit _ upholds entry before
  · rw [List.mem_singleton.mp last]
    exact ⟨record, stored, referred⟩

theorem fit_rest (idOf : Nat → TaskId) (issued : Nat) (closed : scheduler.isOpen = false)
    (rests : Simulation.nextMove? idOf ⟨scheduler, issued⟩ now = none) :
    scheduler.phase = .off := by
  have orderly := fit_orderly scheduler names fit
  have free := Workshop.flows_free scheduler.shop fit.flows.shop
  rw [Simulation.nextMove?, Option.orElse_eq_or, Option.or_eq_none_iff] at rests
  have coordinated := rests.2
  simp only [Simulation.coordinatorMove] at coordinated
  cases phase : scheduler.phase with
  | off => rfl
  | on =>
      have valid := orderly.on phase
      rw [closed] at valid
      have waiting : scheduler.inbox.isEmpty = false := by
        generalize scheduler.inbox = inbox at valid
        cases valid <;> rfl
      have listening : scheduler.isListening = true := by
        simp [isListening, phase, free]
      rw [listening, waiting] at coordinated
      cases coordinated
  | closing =>
      have watching : scheduler.isWatching = true := by
        simp [isWatching, phase, free]
      have deaf : scheduler.isListening = false := by
        simp [isListening, phase]
      simp only [deaf, watching, phase, Bool.false_and, Bool.false_eq_true, if_false, if_true,
        true_and, Option.orElse_eq_or, Option.or_eq_none_iff] at coordinated
      obtain ⟨_, unwatched, unclosed⟩ := coordinated
      cases watches : scheduler.watches with
      | nil =>
          rw [watches] at unclosed
          cases unclosed
      | cons watch rest =>
          have member : watch ∈ scheduler.watches := by
            rw [watches]
            exact List.mem_cons_self
          have told := List.contains_iff_mem.mpr (fit.minded.closing phase watch member)
          have none := List.findSome?_eq_none_iff.mp unwatched watch member
          simp only [Simulation.watchMove, Tokens.isCancelled, told] at none
          split at none
          · cases none
          · split at none <;> cases none

end Fit

theorem fit_new (settings : Settings) (registry : Registry Callable) (cores : Nat)
    (scheduler : Scheduler) (built : Scheduler.new settings registry cores = .ok scheduler)
    (flows : ∀ reference callable, registry.resolve reference = .ok callable → callable.Flows) :
    scheduler.Fit [] := by
  have steady := Round.steady_new settings registry cores scheduler built
  have same := new_cases settings registry cores scheduler built
  refine ⟨List.nodup_nil, ⟨[], [], steady⟩, ?_, ?_, ?_, ?_, fun entry member => by cases member⟩
  · rw [same]
    rfl
  · rw [same]
    exact ⟨fun _ => Nat.zero_le _, fun _ => Nat.zero_le _, fun _ _ => ⟨rfl, rfl⟩⟩
  · rw [same]
    exact ⟨flows, fun _ _ found => (by cases found), fun _ member => (by cases member),
      fun _ member => (by cases member), fun _ member => (by cases member)⟩
  · rw [same]
    exact ⟨fun _ member => (by cases member), fun closing => (by cases closing),
      fun member => by cases member⟩

end Scheduler

end Foreman
