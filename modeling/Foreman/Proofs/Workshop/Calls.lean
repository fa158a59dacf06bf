import Foreman.Workshop.Deed

set_option autoImplicit false

namespace Foreman.Workshop

theorem next_cases (pool rest : Pool) (ticket : Ticket) (next : pool.next? = some (ticket, rest)) :
    pool.waiting = ticket :: rest.waiting ∧ pool.working = rest.working := by
  unfold Pool.next? at next
  split at next
  · cases next
  · rename_i first waiting whole
    split at next
    · rw [Option.some.injEq, Prod.mk.injEq] at next
      rw [whole, ← next.1, ← next.2]
      exact ⟨rfl, rfl⟩
    · cases next

section Deeds

variable (shop : Workshop) (now : Instant)

theorem claim_places (ticket : Ticket) (claimant : Workshop) (won : Bool)
    (result : shop.claim ticket now = (claimant, won)) :
    claimant.pools = shop.pools ∧ claimant.spawned = shop.spawned ∧
      claimant.fibers = shop.fibers := by
  unfold claim at result
  split at result
  · cases result
    exact ⟨rfl, rfl, rfl⟩
  · cases result
    exact ⟨rfl, rfl, rfl⟩

theorem claim_place (index : Nat) (pool rest : Pool) (found : shop.pools[index]? = some pool)
    (ticket : Ticket) (claimant : Workshop) (won : Bool)
    (result : (shop.setPool index rest).claim ticket now = (claimant, won)) :
    claimant.pools[index]? = some rest := by
  rw [(claim_places (shop.setPool index rest) now ticket claimant won result).1]
  exact List.getElem?_set_self (List.getElem?_eq_some_iff.mp found).1

theorem take_ways (index : Nat) (pool rest : Pool) (ticket : Ticket)
    (found : shop.pools[index]? = some pool) (next : pool.next? = some (ticket, rest)) :
    ∃ claimant, (shop.setPool index rest).claim ticket now = (claimant, false) ∧
        shop.take index now = claimant.report ticket.token none now ∨
      (shop.setPool index rest).claim ticket now = (claimant, true) ∧
        let busy := rest.employ (claimant.call ticket).2
        shop.take index now = ((claimant.call ticket).1.setPool index busy).showBusy busy := by
  have taken : shop.pools[index]?.bind Pool.next? = some (ticket, rest) := by
    rw [found]
    exact next
  cases result : (shop.setPool index rest).claim ticket now with
  | mk claimant won =>
      refine ⟨claimant, ?_⟩
      cases won with
      | false => exact .inl ⟨rfl, by simp only [take, taken, result]; rfl⟩
      | true => exact .inr ⟨rfl, by simp only [take, taken, result]; rfl⟩

theorem take_cases (index : Nat) :
    shop.take index now = shop ∨
      ∃ pool ticket rest claimant, shop.pools[index]? = some pool ∧
        pool.waiting = ticket :: rest.waiting ∧ pool.working = rest.working ∧
        ((shop.setPool index rest).claim ticket now = (claimant, false) ∧
            shop.take index now = claimant.report ticket.token none now ∨
          (shop.setPool index rest).claim ticket now = (claimant, true) ∧
            let busy := rest.employ (claimant.call ticket).2
            shop.take index now = ((claimant.call ticket).1.setPool index busy).showBusy busy) := by
  cases taken : shop.pools[index]?.bind Pool.next? with
  | none => exact .inl (by simp only [take, taken])
  | some pair =>
      obtain ⟨ticket, rest⟩ := pair
      obtain ⟨pool, found, next⟩ := Option.bind_eq_some_iff.mp taken
      obtain ⟨waiting, working⟩ := next_cases pool rest ticket next
      obtain ⟨claimant, ways⟩ := take_ways shop now index pool rest ticket found next
      exact .inr ⟨pool, ticket, rest, claimant, found, waiting, working, ways⟩

theorem find_activity (token : Nat) (activities : List Activity) (activity : Activity)
    (found : Activity.find? token activities = some activity) :
    activity ∈ activities ∧ activity.ticket.token = token :=
  ⟨List.mem_of_find?_eq_some found, by simpa [Activity.token] using List.find?_some found⟩

theorem work_ways (index token : Nat) (pool : Pool) (activity : Activity) (gates : Gates)
    (turn : Turn) (found : shop.pools[index]? = some pool)
    (working : Activity.find? token pool.working = some activity)
    (resumed : activity.resume shop.gates now = some (gates, turn)) :
    (∃ ending, turn = .ended ending ∧ shop.work index token now =
        conclude { shop with gates := gates } index pool token ending now) ∨
      ∃ process wait, turn = .waits process wait ∧ shop.work index token now =
        setPool { shop with gates := gates } index
          (pool.update { activity with process := process, wait := wait }) := by
  cases turn with
  | ended ending => exact .inl ⟨ending, rfl, by simp only [work, found, working, resumed]⟩
  | waits process wait =>
      exact .inr ⟨process, wait, rfl, by simp only [work, found, working, resumed]⟩

theorem work_cases (index token : Nat) :
    shop.work index token now = shop ∨
      ∃ pool activity gates, shop.pools[index]? = some pool ∧ activity ∈ pool.working ∧
        activity.ticket.token = token ∧
        ((∃ ending, shop.work index token now =
            conclude { shop with gates := gates } index pool token ending now) ∨
          ∃ process wait, shop.work index token now =
            setPool { shop with gates := gates } index
              (pool.update { activity with process := process, wait := wait })) := by
  cases found : shop.pools[index]? with
  | none => exact .inl (by simp only [work, found])
  | some pool =>
      cases working : Activity.find? token pool.working with
      | none => exact .inl (by simp only [work, found, working])
      | some activity =>
          obtain ⟨member, named⟩ := find_activity token pool.working activity working
          cases resumed : activity.resume shop.gates now with
          | none => exact .inl (by simp only [work, found, working, resumed])
          | some turn =>
              refine .inr ⟨pool, activity, turn.1, rfl, member, named, ?_⟩
              rcases work_ways shop now index token pool activity turn.1 turn.2 found working resumed
                with ⟨ending, _, same⟩ | ⟨process, wait, _, same⟩
              · exact .inl ⟨ending, same⟩
              · exact .inr ⟨process, wait, same⟩

theorem launch_ways (ticket : Ticket) (rest : List Ticket) (queue : shop.spawned = ticket :: rest) :
    ∃ claimant, claim { shop with spawned := rest } ticket now = (claimant, false) ∧
        shop.launch now = claimant.report ticket.token none now ∨
      claim { shop with spawned := rest } ticket now = (claimant, true) ∧
        shop.launch now = { (claimant.call ticket).1 with
          fibers := claimant.fibers ++ [(claimant.call ticket).2] } := by
  cases result : claim { shop with spawned := rest } ticket now with
  | mk claimant won =>
      refine ⟨claimant, ?_⟩
      cases won with
      | false => exact .inl ⟨rfl, by simp only [launch, queue, result]; rfl⟩
      | true => exact .inr ⟨rfl, by simp only [launch, queue, result]; rfl⟩

theorem launch_cases :
    shop.launch now = shop ∨
      ∃ ticket rest claimant, shop.spawned = ticket :: rest ∧
        (claim { shop with spawned := rest } ticket now = (claimant, false) ∧
            shop.launch now = claimant.report ticket.token none now ∨
          claim { shop with spawned := rest } ticket now = (claimant, true) ∧
            shop.launch now = { (claimant.call ticket).1 with
              fibers := claimant.fibers ++ [(claimant.call ticket).2] }) := by
  cases queue : shop.spawned with
  | nil => exact .inl (by simp only [launch, queue])
  | cons ticket rest =>
      obtain ⟨claimant, ways⟩ := launch_ways shop now ticket rest queue
      exact .inr ⟨ticket, rest, claimant, rfl, ways⟩

theorem poll_ways (token : Nat) (activity : Activity) (gates : Gates) (turn : Turn)
    (found : Activity.find? token shop.fibers = some activity)
    (uncancelled : ¬ (shop.board.tokens.isCancelled token && !activity.isHolding) = true)
    (resumed : activity.resume shop.gates now = some (gates, turn)) :
    (∃ ending : Ending, turn = .ended ending ∧ shop.poll token now =
        unwind { shop with gates := gates } token (some (ending.outcome .async now)) now) ∨
      ∃ process wait, turn = .waits process wait ∧ shop.poll token now =
        { shop with
          gates := gates
          fibers := Activity.put { activity with process := process, wait := wait }
            shop.fibers } := by
  cases turn with
  | ended ending => exact .inl ⟨ending, rfl, by simp only [poll, found, if_neg uncancelled, resumed]⟩
  | waits process wait =>
      exact .inr ⟨process, wait, rfl, by simp only [poll, found, if_neg uncancelled, resumed]⟩

theorem poll_cancelled (token : Nat) (activity : Activity)
    (found : Activity.find? token shop.fibers = some activity)
    (cancelled : (shop.board.tokens.isCancelled token && !activity.isHolding) = true) :
    shop.poll token now = shop.unwind token none now := by
  simp only [poll, found, if_pos cancelled]

theorem poll_cases (token : Nat) :
    shop.poll token now = shop ∨ shop.poll token now = shop.unwind token none now ∨
      ∃ activity gates, activity ∈ shop.fibers ∧ activity.ticket.token = token ∧
        ((∃ ending : Ending, shop.poll token now =
            unwind { shop with gates := gates } token (some (ending.outcome .async now)) now) ∨
          ∃ process wait, shop.poll token now =
            { shop with
              gates := gates
              fibers := Activity.put { activity with process := process, wait := wait }
                shop.fibers }) := by
  cases found : Activity.find? token shop.fibers with
  | none => exact .inl (by simp only [poll, found])
  | some activity =>
      obtain ⟨member, named⟩ := find_activity token shop.fibers activity found
      by_cases cancelled : (shop.board.tokens.isCancelled token && !activity.isHolding) = true
      · exact .inr (.inl (poll_cancelled shop now token activity found cancelled))
      · cases resumed : activity.resume shop.gates now with
        | none => exact .inl (by simp only [poll, found, if_neg cancelled, resumed])
        | some turn =>
            refine .inr (.inr ⟨activity, turn.1, member, named, ?_⟩)
            rcases poll_ways shop now token activity turn.1 turn.2 found cancelled resumed with
              ⟨ending, _, same⟩ | ⟨process, wait, _, same⟩
            · exact .inl ⟨ending, same⟩
            · exact .inr ⟨process, wait, same⟩

theorem after_deed (holds : Workshop → Prop) (rests : holds shop)
    (taken : ∀ index, holds (shop.take index now))
    (worked : ∀ index token, holds (shop.work index token now)) (launched : holds (shop.launch now))
    (polled : ∀ token, holds (shop.poll token now)) (deed : Deed) : holds (shop.perform now deed) := by
  cases deed with
  | take index => exact taken index
  | work index token => exact worked index token
  | launch =>
      by_cases held : shop.isHeld = true
      · rw [perform, if_pos held]
        exact rests
      · rw [perform, if_neg held]
        exact launched
  | poll token =>
      by_cases held : (shop.isHeld && !shop.holds token) = true
      · rw [perform, if_pos held]
        exact rests
      · rw [perform, if_neg held]
        exact polled token

end Deeds

end Foreman.Workshop
