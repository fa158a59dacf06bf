import Foreman.Proofs.Time.Clockwork
import Foreman.Proofs.Workshop.Deeds

set_option autoImplicit false

namespace Foreman

theorem bearer_unique {α : Type} (isBorne : α → Bool) (items : List α)
    (once : items.countP isBorne ≤ 1) (first second : α) (here : first ∈ items)
    (there : second ∈ items) (own : isBorne first = true) (also : isBorne second = true) :
    first = second := by
  induction items with
  | nil => cases here
  | cons item rest ih =>
      have counts (other : α) (behind : other ∈ rest) (borne : isBorne other = true) :
          0 < rest.countP isBorne := List.countP_pos_iff.mpr ⟨other, behind, borne⟩
      rw [List.countP_cons] at once
      rcases List.mem_cons.mp here with head | behind
      · rcases List.mem_cons.mp there with same | later
        · exact head.trans same.symm
        · have more := counts second later also
          rw [← head, if_pos own] at once
          omega
      · have more := counts first behind own
        rcases List.mem_cons.mp there with same | later
        · rw [← same, if_pos also] at once
          omega
        · exact ih (by omega) behind later

namespace Ticket

def bearers (token : Nat) (tickets : List Ticket) : Nat :=
  tickets.countP fun ticket => ticket.token == token

theorem bearers_append (token : Nat) (first second : List Ticket) :
    bearers token (first ++ second) = bearers token first + bearers token second :=
  List.countP_append

theorem bearers_cons (token : Nat) (ticket : Ticket) (rest : List Ticket) :
    bearers token (ticket :: rest) = bearers token [ticket] + bearers token rest :=
  bearers_append token [ticket] rest

end Ticket

namespace Activity

def bearers (token : Nat) (activities : List Activity) : Nat :=
  activities.countP fun activity => activity.token == token

theorem bearers_hired (token : Nat) (activities : List Activity) (activity : Activity) :
    bearers token (activities ++ [activity]) =
      bearers token activities + Ticket.bearers token [activity.ticket] :=
  List.countP_append

theorem bearers_put (token : Nat) (activity : Activity) (activities : List Activity) :
    bearers token (activity.put activities) = bearers token activities := by
  rw [bearers, put, List.countP_map, bearers]
  refine List.countP_congr fun other _ => ?_
  by_cases same : other.token = activity.token
  · simp [same]
  · simp [same]

theorem bearers_drop (token ended : Nat) (activities : List Activity) :
    bearers token (drop ended activities) ≤ bearers token activities :=
  List.filter_sublist.countP_le

end Activity

namespace Pool

def bears (token : Nat) (pool : Pool) : Nat :=
  Ticket.bearers token pool.waiting + Activity.bearers token pool.working

end Pool

namespace Workshop

def bears (shop : Workshop) (token : Nat) : Nat :=
  Toil.total (Pool.bears token) shop.pools + Ticket.bearers token shop.spawned +
    Activity.bearers token shop.fibers

theorem queue_total (count : Pool → Nat) (most : Nat) (ticket : Ticket)
    (adds : ∀ pool : Pool, count (pool.add ticket) ≤ count pool + most) (pools : List Pool) :
    Toil.total count (queue ticket pools) ≤ Toil.total count pools + most := by
  induction pools with
  | nil => exact Nat.zero_le _
  | cons pool rest ih =>
      cases rest with
      | nil =>
          have added := adds pool
          simp only [queue, Toil.total, List.foldr]
          omega
      | cons next later =>
          rw [queue]
          · simp only [Toil.total, List.foldr] at ih ⊢
            omega
          · exact List.cons_ne_nil next later

section Bears

variable (shop : Workshop) (now : Instant) (token : Nat)

theorem bears_claim (ticket : Ticket) (claimant : Workshop) (won : Bool)
    (result : shop.claim ticket now = (claimant, won)) : claimant.bears token = shop.bears token := by
  obtain ⟨pools, spawned, fibers⟩ := claim_places shop now ticket claimant won result
  rw [bears, pools, spawned, fibers, bears]

theorem bears_set_pool (index : Nat) (old pool : Pool) (found : shop.pools[index]? = some old) :
    (shop.setPool index pool).bears token + old.bears token = shop.bears token + pool.bears token := by
  have set := Toil.total_set (Pool.bears token) shop.pools index old pool found
  simp only [bears, setPool]
  omega

theorem bears_take (index : Nat) : (shop.take index now).bears token ≤ shop.bears token := by
  rcases take_cases shop now index with
    same | ⟨pool, ticket, rest, claimant, found, waiting, working, ways⟩
  · exact Nat.le_of_eq (congrArg (Workshop.bears · token) same)
  · have set := bears_set_pool shop token index pool rest found
    have whole : pool.bears token = Ticket.bearers token [ticket] + rest.bears token := by
      rw [Pool.bears, waiting, working, Ticket.bearers_cons, Nat.add_assoc, Pool.bears]
    rcases ways with ⟨result, same⟩ | ⟨result, same⟩
    · have claimed := bears_claim (shop.setPool index rest) now token ticket claimant false result
      have skipped : (shop.take index now).bears token = claimant.bears token := by
        rw [same]
        rfl
      omega
    · -- The ticket goes on as an activity.
      let busy := rest.employ (claimant.call ticket).2
      have claimed := bears_claim (shop.setPool index rest) now token ticket claimant true result
      have place := claim_place shop now index pool rest found ticket claimant true result
      have again := bears_set_pool claimant token index rest busy place
      have employed : busy.bears token = rest.bears token + Ticket.bearers token [ticket] := by
        have hired := Activity.bearers_hired token rest.working (claimant.call ticket).2
        exact (congrArg _ hired).trans (Nat.add_assoc _ _ _).symm
      have taken : (shop.take index now).bears token = (claimant.setPool index busy).bears token := by
        rw [same]
        rfl
      omega

theorem bears_work (index ended : Nat) :
    (shop.work index ended now).bears token ≤ shop.bears token := by
  rcases work_cases shop now index ended with
    same | ⟨pool, activity, gates, found, _, _, ⟨ending, same⟩ | ⟨process, wait, same⟩⟩
  · exact Nat.le_of_eq (congrArg (Workshop.bears · token) same)
  · have fewer : (pool.discharge ended).bears token ≤ pool.bears token :=
      Nat.add_le_add_left (Activity.bearers_drop token ended pool.working) _
    have set := bears_set_pool shop token index pool (pool.discharge ended) found
    have worked : (shop.work index ended now).bears token =
        (shop.setPool index (pool.discharge ended)).bears token := by
      rw [same]
      rfl
    omega
  · let later := { activity with process := process, wait := wait }
    have kept : (pool.update later).bears token = pool.bears token :=
      congrArg (Ticket.bearers token pool.waiting + ·) (Activity.bearers_put token later pool.working)
    have set := bears_set_pool shop token index pool (pool.update later) found
    have worked : (shop.work index ended now).bears token =
        (shop.setPool index (pool.update later)).bears token := by
      rw [same]
      rfl
    omega

theorem bears_launch : (shop.launch now).bears token ≤ shop.bears token := by
  rcases launch_cases shop now with same | ⟨ticket, rest, claimant, queue, ways⟩
  · exact Nat.le_of_eq (congrArg (Workshop.bears · token) same)
  · have whole : shop.bears token =
        ({ shop with spawned := rest } : Workshop).bears token + Ticket.bearers token [ticket] := by
      simp only [bears, queue, Ticket.bearers_cons token ticket rest]
      omega
    rcases ways with ⟨result, same⟩ | ⟨result, same⟩
    · have claimed := bears_claim { shop with spawned := rest } now token ticket claimant false result
      have skipped : (shop.launch now).bears token = claimant.bears token := by
        rw [same]
        rfl
      omega
    · have claimed := bears_claim { shop with spawned := rest } now token ticket claimant true result
      have launched : (shop.launch now).bears token =
          claimant.bears token + Ticket.bearers token [ticket] := by
        have hired := Activity.bearers_hired token claimant.fibers (claimant.call ticket).2
        rw [same]
        exact (congrArg _ hired).trans (Nat.add_assoc _ _ _).symm
      omega

theorem bears_unwind (ended : Nat) (outcome : Option Outcome) :
    (shop.unwind ended outcome now).bears token ≤ shop.bears token :=
  Nat.add_le_add_left (Activity.bearers_drop token ended shop.fibers) _

theorem bears_poll (ended : Nat) : (shop.poll ended now).bears token ≤ shop.bears token := by
  rcases poll_cases shop now ended with
    same | same | ⟨activity, gates, _, _, ⟨ending, same⟩ | ⟨process, wait, same⟩⟩
  · exact Nat.le_of_eq (congrArg (Workshop.bears · token) same)
  · rw [same]
    exact bears_unwind shop now token ended none
  · rw [same]
    exact bears_unwind { shop with gates := gates } now token ended _
  · rw [same]
    exact Nat.add_le_add_left (Nat.le_of_eq (Activity.bearers_put token _ shop.fibers)) _

theorem bears_perform (deed : Deed) : (shop.perform now deed).bears token ≤ shop.bears token :=
  after_deed shop now (fun next => next.bears token ≤ shop.bears token) (Nat.le_refl _)
    (bears_take shop now token) (bears_work shop now token) (bears_launch shop now token)
    (bears_poll shop now token) deed

theorem bears_hand (ticket : Ticket) :
    (shop.hand ticket).bears token ≤ shop.bears token + Ticket.bearers token [ticket] := by
  unfold hand
  split
  · have added (pool : Pool) :
        (pool.add ticket).bears token ≤ pool.bears token + Ticket.bearers token [ticket] := by
      simp only [Pool.add, Pool.bears, Ticket.bearers_append]
      omega
    have queued := queue_total (Pool.bears token) _ ticket added shop.pools
    simp only [bears]
    omega
  · simp only [bears, Ticket.bearers_append]
    omega

end Bears

end Workshop

end Foreman
