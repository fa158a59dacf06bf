import Foreman.Proofs.Scheduler.Fit

set_option autoImplicit false

namespace Foreman

-- The moves that nobody asks for.
def Move.IsOwn : Move → Prop
  | .receive | .fireDue _ | .completeWatch _ | .expireWatch _ | .releaseWatch _ | .close
  | .work _ => True
  | _ => False

namespace Scheduler

section Own

variable (scheduler : Scheduler) (names : List (TaskId × String)) (fit : scheduler.Fit names)
  (now : Instant)

include fit

theorem receive_own : scheduler.perform now .receive = scheduler ∨
    scheduler.Act now (scheduler.perform now .receive) := by
  rw [perform]
  split
  · rename_i listening
    rw [isListening, Bool.and_eq_true, beq_iff_eq] at listening
    by_cases empty : scheduler.inbox = []
    · exact .inl (by rw [receive, empty])
    · exact .inr (receive_acts scheduler now (fit_balanced scheduler names fit).intact listening.1
        empty fit.minded.cancelling)
  · exact .inl rfl

theorem fire_own (ids : Nat → TaskId) : scheduler.perform now (.fireDue ids) = scheduler := by
  rw [perform]
  split
  · have idle (table : JobTable) (jobless : table.jobs = []) (isActive : TaskId → Bool) :
        table.takeDue now isActive = (table, []) := by
      obtain ⟨entries, _, _⟩ := table
      obtain rfl : entries = [] := List.map_eq_nil_iff.mp jobless
      rfl
    rw [fireDue, idle scheduler.board.jobs fit.jobless]
    rfl
  · rfl

theorem complete_own (token : Nat) : scheduler.perform now (.completeWatch token) = scheduler ∨
    scheduler.Act now (scheduler.perform now (.completeWatch token)) := by
  rw [perform]
  split
  · cases found : scheduler.findWatch token with
    | none => exact .inl (by rw [completeWatch, found])
    | some watch =>
        cases known : scheduler.shop.end? token with
        | none => exact .inl (by rw [completeWatch, found, known])
        | some result =>
            obtain rfl : watch.ticket.token = token := by simpa using List.find?_some found
            exact .inr (complete_watch_acts scheduler now fit.apart
              (fit_balanced scheduler names fit).intact watch (List.mem_of_find?_eq_some found)
              (by rw [known]; rfl))
  · exact .inl rfl

theorem expire_own (token : Nat) : scheduler.perform now (.expireWatch token) = scheduler ∨
    scheduler.Act now (scheduler.perform now (.expireWatch token)) := by
  rw [perform]
  split
  · cases found : scheduler.findWatch token with
    | none => exact .inl (by rw [expireWatch, found])
    | some watch =>
        cases expired : watch.isExpired now with
        | false => exact .inl (by simp only [expireWatch, found, expired, Bool.false_eq_true, if_false])
        | true =>
            obtain rfl : watch.ticket.token = token := by simpa using List.find?_some found
            exact .inr (expire_watch_acts scheduler now fit.apart
              (fit_balanced scheduler names fit).intact watch (List.mem_of_find?_eq_some found) expired)
  · exact .inl rfl

omit fit in
theorem release_own (token : Nat) : scheduler.perform now (.releaseWatch token) = scheduler ∨
    scheduler.Act now (scheduler.perform now (.releaseWatch token)) := by
  rw [perform]
  split
  · by_cases watched : ∃ watch ∈ scheduler.watches, watch.ticket.token = token
    · obtain ⟨watch, member, rfl⟩ := watched
      cases cancelled : scheduler.board.tokens.isCancelled watch.ticket.token with
      | false => exact .inl (by rw [releaseWatch, cancelled, if_neg Bool.false_ne_true])
      | true => exact .inr (release_watch_acts scheduler now watch member cancelled)
    · have same : scheduler.endWatch token = scheduler := by
        have kept : scheduler.watches.filter (fun watch => watch.ticket.token != token) =
            scheduler.watches :=
          List.filter_eq_self.mpr fun watch member => by
            simpa using fun same => watched ⟨watch, member, same⟩
        rw [endWatch, kept]
      exact .inl (by rw [releaseWatch, same, ite_self])
  · exact .inl rfl

omit fit in
theorem close_own : scheduler.perform now .close = scheduler ∨
    scheduler.Act now (scheduler.perform now .close) := by
  rw [perform]
  split
  · by_cases closing : scheduler.phase = .closing ∧ scheduler.watches.isEmpty
    · rw [close, if_pos closing]
      exact .inr (.closed _ closing.1)
    · exact .inl (by rw [close, if_neg closing])
  · exact .inl rfl

theorem work_own (deed : Deed) : scheduler.perform now (.work deed) = scheduler ∨
    scheduler.Act now (scheduler.perform now (.work deed)) := by
  rcases Workshop.perform_lightens scheduler.shop now (apart_shop scheduler fit.apart) deed with
    same | lightens
  · exact .inl (by rw [perform, performDeed, same])
  · exact .inr (.worked deed lightens)

theorem own_acts (move : Move) (own : move.IsOwn) : scheduler.perform now move = scheduler ∨
    move.IsPlain ∧ scheduler.Act now (scheduler.perform now move) := by
  cases move with
  | receive => exact (receive_own scheduler names fit now).imp_right fun act => ⟨trivial, act⟩
  | fireDue ids => exact .inl (fire_own scheduler names fit now ids)
  | completeWatch token =>
      exact (complete_own scheduler names fit now token).imp_right fun act => ⟨trivial, act⟩
  | expireWatch token =>
      exact (expire_own scheduler names fit now token).imp_right fun act => ⟨trivial, act⟩
  | releaseWatch token =>
      exact (release_own scheduler now token).imp_right fun act => ⟨trivial, act⟩
  | close => exact (close_own scheduler now).imp_right fun act => ⟨trivial, act⟩
  | work deed => exact (work_own scheduler names fit now deed).imp_right fun act => ⟨trivial, act⟩
  | _ => exact own.elim

variable (move : Move) (own : move.IsOwn)

include own

theorem own_fit : (scheduler.perform now move).Fit names := by
  rcases own_acts scheduler names fit now move own with same | ⟨plain, act⟩
  · rw [same]
    exact fit
  · exact fit_act scheduler names fit now move plain act

theorem own_open : (scheduler.perform now move).isOpen = scheduler.isOpen := by
  rcases own_acts scheduler names fit now move own with same | ⟨_, act⟩
  · rw [same]
  · exact act_open scheduler _ now act

theorem own_settled (record : TaskRecord)
    (found : scheduler.board.store.find? record.id = some record)
    (ended : record.state.isTerminal = true) :
    (scheduler.perform now move).board.store.find? record.id = some record := by
  rcases own_acts scheduler names fit now move own with same | ⟨plain, _⟩
  · rw [same]
    exact found
  · obtain ⟨upholds, _⟩ := plain_upholds scheduler names fit now move plain
    obtain ⟨later, stored, _, settled⟩ := upholds.records record.id record found
    rw [stored, settled ended]

theorem own_lowers (issued later : Nat) : scheduler.perform now move = scheduler ∨
    Simulation.toil ⟨scheduler.perform now move, later⟩ < Simulation.toil ⟨scheduler, issued⟩ := by
  rcases own_acts scheduler names fit now move own with same | ⟨plain, act⟩
  · exact .inl same
  · have upholds := (plain_upholds scheduler names fit now move plain).1
    exact .inr (Simulation.act_lowers now scheduler _ issued later act upholds.jobs)

omit fit in
theorem own_off (off : scheduler.phase = .off) : (scheduler.perform now move).phase = .off := by
  have deaf : scheduler.isListening = false := by rw [isListening, off]; rfl
  have blind : scheduler.isWatching = false := by rw [isWatching, off]; rfl
  cases move with
  | work deed => exact off
  | receive | fireDue _ => rw [perform, deaf]; exact off
  | completeWatch _ | expireWatch _ | releaseWatch _ | close => rw [perform, blind]; exact off
  | _ => exact own.elim

end Own

-- However it goes on, it is off in the end: until then there is something it can do at any time, and it
-- cannot do something for ever.
inductive WindsUp : Scheduler → Prop where
  | off (scheduler : Scheduler) (off : scheduler.phase = .off) : WindsUp scheduler
  | on (scheduler : Scheduler)
      (able : ∀ now, ∃ move : Move, move.IsOwn ∧ scheduler.perform now move ≠ scheduler)
      (every : ∀ now (move : Move), move.IsOwn → scheduler.perform now move ≠ scheduler →
        WindsUp (scheduler.perform now move)) : WindsUp scheduler

end Scheduler

namespace Simulation

theorem watch_own (scheduler : Scheduler) (now : Instant) (watch : Watch) (move : Move)
    (chosen : watchMove scheduler now watch = some move) : move.IsOwn := by
  simp only [watchMove] at chosen
  split at chosen
  · cases chosen
    trivial
  · split at chosen
    · cases chosen
      trivial
    · split at chosen
      · cases chosen
        trivial
      · cases chosen

theorem next_own (idOf : Nat → TaskId) (simulation : Simulation) (now : Instant) (move : Move)
    (chosen : nextMove? idOf simulation now = some move) : move.IsOwn := by
  have worked (deed : Option Deed) (own : deed.map Move.work = some move) : move.IsOwn := by
    obtain ⟨deed, _, rfl⟩ := Option.map_eq_some_iff.mp own
    trivial
  rw [nextMove?, Option.orElse_eq_or, Option.or_eq_some_iff] at chosen
  rcases chosen with pooled | ⟨_, coordinated⟩
  · exact worked _ pooled
  · simp only [coordinatorMove] at coordinated
    split at coordinated
    · cases coordinated
      trivial
    · split at coordinated
      · rw [Option.orElse_eq_or, Option.or_eq_some_iff] at coordinated
        rcases coordinated with fiber | ⟨_, behind⟩
        · exact worked _ fiber
        · rw [Option.orElse_eq_or, Option.or_eq_some_iff] at behind
          rcases behind with watched | ⟨_, last⟩
          · obtain ⟨watch, _, own⟩ := List.exists_of_findSome?_eq_some watched
            exact watch_own simulation.scheduler now watch move own
          · split at last
            · cases last
              trivial
            · split at last
              · cases last
                trivial
              · cases last
      · split at coordinated
        · cases coordinated
        · exact worked _ coordinated

end Simulation

theorem Scheduler.fit_winds_up (scheduler : Scheduler) (names : List (TaskId × String))
    (fit : scheduler.Fit names) (closed : scheduler.isOpen = false) : scheduler.WindsUp := by
  by_cases off : scheduler.phase = .off
  · exact .off scheduler off
  · refine .on scheduler (fun now => ?_) fun now move own changed => ?_
    · cases chosen : Simulation.nextMove? TaskId.ofNumber ⟨scheduler, 0⟩ now with
      | none => exact absurd (fit_rest scheduler names fit now _ 0 closed chosen) off
      | some move =>
          have own := Simulation.next_own TaskId.ofNumber ⟨scheduler, 0⟩ now move chosen
          obtain ⟨plain, act⟩ := Simulation.chosen_acts TaskId.ofNumber ⟨scheduler, 0⟩ now
            (fit_balanced scheduler names fit).intact fit.apart fit.jobless fit.minded.cancelling move
            chosen
          have upholds := (plain_upholds scheduler names fit now move plain).1
          have lowered := Simulation.act_lowers now scheduler _ 0 0 act upholds.jobs
          refine ⟨move, own, fun same => ?_⟩
          rw [same] at lowered
          exact Toil.less_irrefl _ lowered
    · have lowered := (own_lowers scheduler names fit now move own 0 0).resolve_left changed
      exact fit_winds_up (scheduler.perform now move) names (own_fit scheduler names fit now move own)
        ((own_open scheduler names fit now move own).trans closed)
termination_by Simulation.toil ⟨scheduler, 0⟩
decreasing_by exact lowered

end Foreman
