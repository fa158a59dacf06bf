import Foreman.Proofs.Scheduler.Fit

set_option autoImplicit false

namespace Foreman.Simulation

variable (idOf : Nat → TaskId) (names : List (TaskId × String))

section Steps

variable (simulation : Simulation) (now : Instant) (fit : simulation.scheduler.Fit names)

include fit

theorem move_acts (move : Move) (chosen : nextMove? idOf simulation now = some move) :
    move.IsPlain ∧ simulation.scheduler.Act now (simulation.scheduler.perform now move) :=
  chosen_acts idOf simulation now (Scheduler.fit_balanced _ names fit).intact fit.apart fit.jobless
    fit.minded.cancelling move chosen

theorem step_acts (next : Simulation) (stepped : (works idOf).step? now simulation = some next) :
    next.scheduler.Fit names ∧ next.scheduler.isOpen = simulation.scheduler.isOpen := by
  obtain ⟨moved, _⟩ := Option.filter_eq_some_iff.mp stepped
  obtain ⟨move, chosen, rfl⟩ := Option.map_eq_some_iff.mp moved
  obtain ⟨plain, act⟩ := move_acts idOf names simulation now fit move chosen
  exact ⟨Scheduler.fit_act _ names fit now move plain act, Scheduler.act_open _ _ now act⟩

-- Whatever is chosen leaves less to do, so it is a step.
theorem step_chosen (rests : (works idOf).step? now simulation = none) :
    nextMove? idOf simulation now = none := by
  cases chosen : nextMove? idOf simulation now with
  | none => rfl
  | some move =>
      obtain ⟨plain, act⟩ := move_acts idOf names simulation now fit move chosen
      have upholds := (Scheduler.plain_upholds _ names fit now move plain).1
      have lowered : toil (simulation.apply now move) < toil simulation :=
        act_lowers now _ _ simulation.issued _ act upholds.jobs
      have moved : ((nextMove? idOf simulation now).map (simulation.apply now)).filter
          (fun next => decide (toil next < toil simulation)) = none := rests
      rw [chosen, Option.map_some, Option.filter_some, if_pos (decide_eq_true lowered)] at moved
      cases moved

end Steps

section Moments

variable (moment : Moment Simulation) (fit : moment.state.scheduler.Fit names)

include fit

theorem settle_fit : (settle idOf moment).state.scheduler.Fit names :=
  (works idOf).settle_keeps (fun simulation => simulation.scheduler.Fit names)
    (fun now simulation next fit stepped => (step_acts idOf names simulation now fit next stepped).1)
    moment fit

theorem until_fit (goal : Scheduler → Bool) (limit : Option Instant) :
    (runUntil idOf goal limit moment).1.state.scheduler.Fit names :=
  (works idOf).until_keeps (fun simulation => simulation.scheduler.Fit names)
    (fun now simulation next fit stepped => (step_acts idOf names simulation now fit next stepped).1)
    _ limit moment fit

theorem settle_closed (closed : moment.state.scheduler.isOpen = false) :
    (settle idOf moment).state.scheduler.isOpen = false := by
  have kept := (works idOf).settle_keeps
    (fun simulation => simulation.scheduler.Fit names ∧ simulation.scheduler.isOpen = false)
    (fun now simulation next keeps stepped =>
      have ⟨after, same⟩ := step_acts idOf names simulation now keeps.1 next stepped
      ⟨after, same.trans keeps.2⟩) moment ⟨fit, closed⟩
  exact kept.2

theorem settle_off (closed : moment.state.scheduler.isOpen = false) :
    (settle idOf moment).state.scheduler.phase = .off := by
  have settled := settle_fit idOf names moment fit
  obtain ⟨rests, _⟩ := (works idOf).settle_rests moment
  exact Scheduler.fit_rest _ names settled moment.now idOf _
    (settle_closed idOf names moment fit closed)
    (step_chosen idOf names _ moment.now settled rests)

theorem stop_off : (stop idOf moment .cancel).1.state.scheduler.Fit names ∧
    (stop idOf moment .cancel).1.state.scheduler.phase = .off := by
  let stopped : Moment Simulation :=
    { moment with
      state := { moment.state with scheduler := (moment.state.scheduler.stop .cancel).1 } }
  have asked : stopped.state.scheduler.Fit names := Scheduler.fit_stop _ names fit
  have closed : stopped.state.scheduler.isOpen = false := by
    change (moment.state.scheduler.stop .cancel).1.isOpen = false
    unfold Scheduler.stop
    split
    · rfl
    · rename_i shut
      exact Bool.not_eq_true _ ▸ shut
  have settled := settle_fit idOf names stopped asked
  have called : call idOf moment (fun scheduler _ => scheduler.stop .cancel) =
      (settle idOf stopped, (moment.state.scheduler.stop .cancel).2) := rfl
  rw [stop, called]
  cases (moment.state.scheduler.stop .cancel).2 with
  | error error => exact ⟨settled, settle_off idOf names stopped asked closed⟩
  | ok done =>
      refine ⟨until_fit idOf names _ settled _ none, ?_⟩
      have off := settle_off idOf names _ settled (settle_closed idOf names stopped asked closed)
      have reached := (works idOf).until_settled
        (fun simulation => simulation.scheduler.phase == .off) none (settle idOf stopped)
        (beq_iff_eq.mpr off)
      simp only [runUntil, reached]
      exact off

end Moments

end Foreman.Simulation
