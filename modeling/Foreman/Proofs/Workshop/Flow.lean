import Foreman.Proofs.Workshop.Calls

set_option autoImplicit false

namespace Foreman

def Process.Flows : Process → Prop
  | .finish _ => True
  | .sleep _ next => next.Flows
  | .gate _ next => next.Flows
  | .hold _ _ => False
  | .rest next => next.Flows

def Callable.Flows (callable : Callable) : Prop :=
  ∀ count arguments, (callable.body count arguments).Flows

namespace Activity

structure Flows (activity : Activity) : Prop where
  process : activity.process.Flows
  free : activity.isHolding = false

theorem flows_proceed (now : Instant) (process next : Process) (gates last : Gates) (wait : Wait)
    (proceeded : proceed now process gates = (last, .waits next wait)) (flows : process.Flows)
    (ticket : Ticket) : Flows ⟨ticket, next, wait⟩ := by
  induction process generalizing gates with
  | finish ending => cases proceeded
  | rest later ih =>
      cases proceeded
      exact ⟨flows, rfl⟩
  | sleep millis later ih =>
      cases proceeded
      exact ⟨flows, rfl⟩
  | gate name later ih =>
      simp only [proceed] at proceeded
      split at proceeded
      · rename_i open_ passed
        exact ih open_ proceeded flows
      · cases proceeded
        exact ⟨flows, rfl⟩
  | hold name later ih => cases flows

end Activity

namespace Workshop

structure Flows (shop : Workshop) : Prop where
  spawned : ∀ ticket ∈ shop.spawned, ticket.callable.Flows
  fibers : ∀ activity ∈ shop.fibers, activity.Flows

section Flows

variable (shop : Workshop) (now : Instant)

theorem flows_free (flows : shop.Flows) : shop.isHeld = false := by
  rw [isHeld, List.any_eq_false]
  intro activity member
  rw [(flows.fibers activity member).free]
  exact Bool.false_ne_true

theorem flows_same (next : Workshop) (flows : shop.Flows) (spawned : next.spawned = shop.spawned)
    (fibers : next.fibers = shop.fibers) : next.Flows :=
  ⟨spawned ▸ flows.spawned, fibers ▸ flows.fibers⟩

theorem flows_hand (flows : shop.Flows) (ticket : Ticket) (callable : ticket.callable.Flows) :
    (shop.hand ticket).Flows := by
  unfold hand
  split
  · exact flows_same shop _ flows rfl rfl
  · refine ⟨fun other member => ?_, flows.fibers⟩
    rcases List.mem_append.mp member with before | last
    · exact flows.spawned other before
    · exact List.mem_singleton.mp last ▸ callable

theorem flows_take (flows : shop.Flows) (index : Nat) : (shop.take index now).Flows := by
  rcases take_cases shop now index with
    same | ⟨pool, ticket, rest, claimant, _, _, _, ⟨result, same⟩ | ⟨result, same⟩⟩
  · rw [same]
    exact flows
  · obtain ⟨_, spawned, fibers⟩ := claim_places _ now ticket claimant false result
    rw [same]
    exact flows_same shop _ flows spawned fibers
  · obtain ⟨_, spawned, fibers⟩ := claim_places _ now ticket claimant true result
    rw [same]
    exact flows_same shop _ flows spawned fibers

theorem flows_work (flows : shop.Flows) (index token : Nat) : (shop.work index token now).Flows := by
  rcases work_cases shop now index token with
    same | ⟨pool, activity, gates, _, _, _, ⟨ending, same⟩ | ⟨process, wait, same⟩⟩
  · rw [same]
    exact flows
  · rw [same]
    exact flows_same shop _ flows rfl rfl
  · rw [same]
    exact flows_same shop _ flows rfl rfl

theorem flows_launch (flows : shop.Flows) : (shop.launch now).Flows := by
  rcases launch_cases shop now with same | ⟨ticket, rest, claimant, queue, ways⟩
  · rw [same]
    exact flows
  · have popped : Flows { shop with spawned := rest } := by
      refine ⟨fun other member => flows.spawned other ?_, flows.fibers⟩
      rw [queue]
      exact List.mem_cons_of_mem _ member
    have own : ticket.callable.Flows := by
      refine flows.spawned ticket ?_
      rw [queue]
      exact List.mem_cons_self
    rcases ways with ⟨result, same⟩ | ⟨result, same⟩
    · obtain ⟨_, spawned, fibers⟩ := claim_places _ now ticket claimant false result
      rw [same]
      exact flows_same _ _ popped spawned fibers
    · obtain ⟨_, spawned, fibers⟩ := claim_places _ now ticket claimant true result
      have claimed := flows_same _ claimant popped spawned fibers
      rw [same]
      refine ⟨claimed.spawned, fun activity member => ?_⟩
      rcases List.mem_append.mp member with before | last
      · exact claimed.fibers activity before
      · rw [List.mem_singleton.mp last]
        exact ⟨own _ _, rfl⟩

theorem flows_unwind (flows : shop.Flows) (token : Nat) (outcome : Option Outcome) :
    (shop.unwind token outcome now).Flows :=
  ⟨flows.spawned, fun activity member => flows.fibers activity (List.mem_filter.mp member).1⟩

theorem flows_put (flows : shop.Flows) (activity : Activity) (own : activity.Flows) (gates : Gates) :
    Flows { shop with gates := gates, fibers := activity.put shop.fibers } := by
  refine ⟨flows.spawned, fun other member => ?_⟩
  obtain ⟨before, present, changed⟩ := List.mem_map.mp member
  split at changed
  · exact changed ▸ own
  · exact changed ▸ flows.fibers before present

theorem flows_poll (flows : shop.Flows) (token : Nat) : (shop.poll token now).Flows := by
  cases found : Activity.find? token shop.fibers with
  | none =>
      have rests : shop.poll token now = shop := by simp only [poll, found]
      rw [rests]
      exact flows
  | some activity =>
      by_cases cancelled : (shop.board.tokens.isCancelled token && !activity.isHolding) = true
      · rw [poll_cancelled shop now token activity found cancelled]
        exact flows_unwind shop now flows token none
      · cases resumed : activity.resume shop.gates now with
        | none =>
            have rests : shop.poll token now = shop := by
              simp only [poll, found, if_neg cancelled, resumed]
            rw [rests]
            exact flows
        | some turn =>
            rcases poll_ways shop now token activity turn.1 turn.2 found cancelled resumed with
              ⟨ending, _, same⟩ | ⟨process, wait, waits, same⟩
            · rw [same]
              exact flows_unwind { shop with gates := turn.1 } now (flows_same shop _ flows rfl rfl)
                token _
            · obtain ⟨released, _, proceeded⟩ := Option.map_eq_some_iff.mp resumed
              have own := flows.fibers activity (find_activity token shop.fibers activity found).1
              rw [same]
              refine flows_put shop flows _ ?_ turn.1
              exact Activity.flows_proceed now activity.process process released turn.1 wait
                (proceeded.trans (congrArg (turn.1, ·) waits)) own.process activity.ticket

theorem flows_perform (flows : shop.Flows) (deed : Deed) : (shop.perform now deed).Flows :=
  after_deed shop now Flows flows (flows_take shop now flows) (flows_work shop now flows)
    (flows_launch shop now flows) (flows_poll shop now flows) deed

end Flows

end Workshop

end Foreman
