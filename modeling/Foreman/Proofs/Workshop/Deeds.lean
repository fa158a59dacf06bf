import Foreman.Proofs.Board.Calls
import Foreman.Proofs.Workshop.Calls

set_option autoImplicit false

namespace Foreman

def Ticket.id (ticket : Ticket) : TaskId := ticket.assignment.id

namespace Workshop

def handed (shop : Workshop) : List Ticket := shop.pools.flatMap Pool.waiting ++ shop.spawned

def Claims (tickets : List Ticket) (effect : Board.Effect) : Prop :=
  effect = .aside ∨ ∃ ticket ∈ tickets, effect = .started ticket.id

structure Proceeds (shop next : Workshop) : Prop where
  board : Board.Evolves (Claims shop.handed) shop.board next.board
  handed : ∀ ticket ∈ next.handed, ticket ∈ shop.handed

theorem proceeds_refl (shop : Workshop) : shop.Proceeds shop :=
  ⟨.refl, fun _ member => member⟩

theorem waiting_set (pools : List Pool) (index : Nat) (pool : Pool) (ticket : Ticket)
    (member : ticket ∈ (pools.set index pool).flatMap Pool.waiting) :
    ticket ∈ pools.flatMap Pool.waiting ∨ ticket ∈ pool.waiting := by
  obtain ⟨other, present, waits⟩ := List.mem_flatMap.mp member
  rcases List.mem_or_eq_of_mem_set present with before | same
  · exact .inl (List.mem_flatMap.mpr ⟨other, before, waits⟩)
  · exact .inr (same ▸ waits)

theorem waiting_handed (shop : Workshop) (index : Nat) (pool : Pool)
    (found : shop.pools[index]? = some pool) (ticket : Ticket) (waits : ticket ∈ pool.waiting) :
    ticket ∈ shop.handed :=
  List.mem_append_left _ (List.mem_flatMap.mpr ⟨pool, List.mem_of_getElem? found, waits⟩)

theorem set_pool_handed (shop next : Workshop) (index : Nat) (old pool : Pool)
    (found : shop.pools[index]? = some old) (fewer : ∀ ticket ∈ pool.waiting, ticket ∈ old.waiting)
    (pools : ∀ ticket ∈ next.pools.flatMap Pool.waiting,
      ticket ∈ shop.pools.flatMap Pool.waiting ∨ ticket ∈ pool.waiting)
    (spawned : next.spawned = shop.spawned) : ∀ ticket ∈ next.handed, ticket ∈ shop.handed := by
  intro ticket member
  rcases List.mem_append.mp member with pooled | launched
  · rcases pools ticket pooled with before | waits
    · exact List.mem_append_left _ before
    · exact waiting_handed shop index old found ticket (fewer ticket waits)
  · exact List.mem_append_right _ (spawned ▸ launched)

theorem claim_evolves (shop : Workshop) (balanced : shop.board.Balanced) (ticket : Ticket)
    (now : Instant) :
    Board.Evolves (· = .started ticket.id) shop.board (shop.claim ticket now).1.board := by
  unfold claim
  split
  · exact .refl
  · exact Board.mark_running_evolves shop.board now balanced ticket.assignment

theorem claims_ticket (tickets : List Ticket) (ticket : Ticket) (member : ticket ∈ tickets)
    (effect : Board.Effect) (starts : effect = .started ticket.id) : Claims tickets effect :=
  .inr ⟨ticket, member, starts⟩

theorem busy_evolves (tickets : List Ticket) (board : Board) (busy size : Nat) :
    Board.Evolves (Claims tickets) board (board.setUtilization busy size) :=
  Board.evolves_one _ _ _ (.inl rfl) (.aside _ rfl rfl rfl rfl rfl rfl)

theorem proceeds_take (shop : Workshop) (balanced : shop.board.Balanced) (index : Nat)
    (now : Instant) : shop.Proceeds (shop.take index now) := by
  rcases take_cases shop now index with
    same | ⟨pool, ticket, rest, claimant, found, waiting, _, ways⟩
  · rw [same]
    exact proceeds_refl shop
  · have member : ticket ∈ shop.handed :=
      waiting_handed shop index pool found ticket (by rw [waiting]; exact List.mem_cons_self)
    have fewer : ∀ other ∈ rest.waiting, other ∈ pool.waiting :=
      fun other waits => by rw [waiting]; exact List.mem_cons_of_mem _ waits
    have claimed := claim_evolves (shop.setPool index rest) balanced ticket now
    have wide := Board.evolves_mono _ _ claimed (claims_ticket shop.handed ticket member)
    obtain ⟨pools, spawned, _⟩ :=
      claim_places (shop.setPool index rest) now ticket (claim _ ticket now).1 _ rfl
    have left (other : Ticket)
        (pooled : other ∈ ((shop.setPool index rest).claim ticket now).1.pools.flatMap Pool.waiting) :
        other ∈ shop.pools.flatMap Pool.waiting ∨ other ∈ rest.waiting := by
      rw [pools] at pooled
      exact waiting_set shop.pools index rest other pooled
    rcases ways with ⟨result, same⟩ | ⟨result, same⟩
    · rw [result] at spawned wide left
      rw [same]
      exact ⟨wide, set_pool_handed shop _ index pool rest found fewer left spawned⟩
    · rw [result] at spawned wide left
      rw [same]
      refine ⟨Board.evolves_trans _ _ _ wide (busy_evolves _ _ _ _),
        set_pool_handed shop _ index pool rest found fewer ?_ spawned⟩
      intro other pooled
      rcases waiting_set claimant.pools index _ other pooled with before | waits
      · exact left other before
      · exact .inr waits

theorem proceeds_work (shop : Workshop) (index token : Nat) (now : Instant) :
    shop.Proceeds (shop.work index token now) := by
  rcases work_cases shop now index token with
    same | ⟨pool, activity, gates, found, _, _, ⟨ending, same⟩ | ⟨process, wait, same⟩⟩
  · rw [same]
    exact proceeds_refl shop
  · rw [same]
    refine ⟨busy_evolves _ _ _ _, set_pool_handed shop _ index pool pool found
      (fun _ waits => waits) ?_ rfl⟩
    exact waiting_set shop.pools index (pool.discharge token)
  · rw [same]
    refine ⟨.refl, set_pool_handed shop _ index pool pool found (fun _ waits => waits) ?_ rfl⟩
    exact waiting_set shop.pools index (pool.update { activity with process := process, wait := wait })

theorem proceeds_launch (shop : Workshop) (balanced : shop.board.Balanced) (now : Instant) :
    shop.Proceeds (shop.launch now) := by
  rcases launch_cases shop now with same | ⟨ticket, rest, claimant, queue, ways⟩
  · rw [same]
    exact proceeds_refl shop
  · have member : ticket ∈ shop.handed := by
      apply List.mem_append_right
      rw [queue]
      exact List.mem_cons_self
    have claimed := claim_evolves { shop with spawned := rest } balanced ticket now
    have wide := Board.evolves_mono _ _ claimed (claims_ticket shop.handed ticket member)
    obtain ⟨pools, spawned, _⟩ :=
      claim_places { shop with spawned := rest } now ticket (claim _ ticket now).1 _ rfl
    have left (other : Ticket)
        (present : other ∈ (claim { shop with spawned := rest } ticket now).1.handed) :
        other ∈ shop.handed := by
      rw [handed, pools, spawned] at present
      rcases List.mem_append.mp present with pooled | launched
      · exact List.mem_append_left _ pooled
      · apply List.mem_append_right
        rw [queue]
        exact List.mem_cons_of_mem _ launched
    rcases ways with ⟨result, same⟩ | ⟨result, same⟩
    · rw [result] at wide left
      rw [same]
      exact ⟨wide, left⟩
    · rw [result] at wide left
      rw [same]
      exact ⟨wide, left⟩

theorem proceeds_poll (shop : Workshop) (token : Nat) (now : Instant) :
    shop.Proceeds (shop.poll token now) := by
  rcases poll_cases shop now token with
    same | same | ⟨activity, gates, _, _, ⟨ending, same⟩ | ⟨process, wait, same⟩⟩
  · rw [same]
    exact proceeds_refl shop
  · rw [same]
    exact ⟨.refl, fun _ member => member⟩
  · rw [same]
    exact ⟨.refl, fun _ member => member⟩
  · rw [same]
    exact ⟨.refl, fun _ member => member⟩

theorem proceeds_perform (shop : Workshop) (balanced : shop.board.Balanced) (now : Instant)
    (deed : Deed) : shop.Proceeds (shop.perform now deed) :=
  after_deed shop now shop.Proceeds (proceeds_refl shop)
    (fun index => proceeds_take shop balanced index now)
    (fun index token => proceeds_work shop index token now) (proceeds_launch shop balanced now)
    (fun token => proceeds_poll shop token now) deed

end Workshop

end Foreman
