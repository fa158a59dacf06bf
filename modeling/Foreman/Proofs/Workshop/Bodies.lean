import Foreman.Proofs.Workshop.Deeds

set_option autoImplicit false

namespace Foreman.Workshop

def callsOf (shop : Workshop) (id : TaskId) : Nat :=
  shop.called.countP fun assignment => assignment.id == id

def activities (shop : Workshop) : List Activity := shop.pools.flatMap Pool.working ++ shop.fibers

def opening (shop : Workshop) (ticket : Ticket) : Activity where
  ticket := ticket
  process :=
    ticket.callable.body (shop.calls ticket.assignment.reference) ticket.assignment.arguments
  wait := .turn

theorem working_carried (shop : Workshop) (index : Nat) (pool : Pool)
    (found : shop.pools[index]? = some pool) (activity : Activity)
    (member : activity ∈ pool.working) : activity ∈ shop.activities :=
  List.mem_append_left _ (List.mem_flatMap.mpr ⟨pool, List.mem_of_getElem? found, member⟩)

theorem calls_added (shop next : Workshop) (assignment : Assignment)
    (called : next.called = shop.called ++ [assignment]) (id : TaskId) :
    next.callsOf id = shop.callsOf id + if assignment.id = id then 1 else 0 := by
  by_cases same : assignment.id = id
  · simp [callsOf, called, List.countP_append, same]
  · simp [callsOf, called, List.countP_append, same]

inductive Begins (now : Instant) (shop next : Workshop) : Prop where
  | rests (store : next.board.store = shop.board.store) (called : next.called = shop.called)
  | begins (ticket : Ticket) (record : TaskRecord) (given : ticket ∈ shop.handed)
      (found : shop.board.store.find? ticket.id = some record) (waits : record.state = .pending)
      (store : next.board.store = shop.board.store.update (record.moved .running none now))
      (called : next.called = shop.called ++ [ticket.assignment])
      (carried : next.opening ticket ∈ next.activities)

section Deeds

variable (shop : Workshop) (now : Instant)

-- A claim that is lost changes nothing.
theorem claim_cases (intact : shop.board.store.Intact) (ticket : Ticket) :
    (∃ record, shop.board.store.find? ticket.id = some record ∧ record.state = .pending ∧
      shop.claim ticket now =
        ({ shop with
           board := shop.board.moved record ticket.assignment.reference .running none now }, true)) ∨
      shop.claim ticket now = (shop, false) := by
  by_cases cancelled : shop.board.tokens.isCancelled ticket.token = true
  · exact .inr (by rw [claim, if_pos cancelled])
  · rcases Board.mark_running_cases shop.board now intact ticket.assignment with
      ⟨record, found, waits, won⟩ | ⟨_, lost⟩
    · exact .inl ⟨record, found, waits, by rw [claim, if_neg cancelled, won]⟩
    · exact .inr (by rw [claim, if_neg cancelled, lost])

theorem begins_take (intact : shop.board.store.Intact) (index : Nat) :
    Begins now shop (shop.take index now) := by
  rcases take_cases shop now index with
    same | ⟨pool, ticket, rest, claimant, found, waiting, _, ways⟩
  · rw [same]
    exact .rests rfl rfl
  · have given : ticket ∈ shop.handed := by
      refine waiting_handed shop index pool found ticket ?_
      rw [waiting]
      exact List.mem_cons_self
    rcases claim_cases (shop.setPool index rest) now intact ticket with
      ⟨record, stored, waits, won⟩ | lost
    · rcases ways with ⟨result, _⟩ | ⟨result, same⟩
      · cases won.symm.trans result
      · cases won.symm.trans result
        have bound := (List.getElem?_eq_some_iff.mp found).1
        rw [same]
        refine .begins ticket record given stored waits (Board.moved_store _ _ _ _ _ _) rfl ?_
        refine working_carried _ index _ (List.getElem?_set_self ?_) _
          (List.mem_append_right _ (List.mem_singleton.mpr rfl))
        change index < (shop.pools.set index rest).length
        rw [List.length_set]
        exact bound
    · rcases ways with ⟨result, same⟩ | ⟨result, _⟩
      · cases lost.symm.trans result
        rw [same]
        exact .rests rfl rfl
      · cases lost.symm.trans result

theorem begins_work (index token : Nat) : Begins now shop (shop.work index token now) := by
  rcases work_cases shop now index token with
    same | ⟨pool, activity, gates, _, _, _, ⟨ending, same⟩ | ⟨process, wait, same⟩⟩
  · rw [same]
    exact .rests rfl rfl
  · rw [same]
    exact .rests rfl rfl
  · rw [same]
    exact .rests rfl rfl

theorem begins_launch (intact : shop.board.store.Intact) : Begins now shop (shop.launch now) := by
  rcases launch_cases shop now with same | ⟨ticket, rest, claimant, queue, ways⟩
  · rw [same]
    exact .rests rfl rfl
  · have given : ticket ∈ shop.handed := by
      apply List.mem_append_right
      rw [queue]
      exact List.mem_cons_self
    rcases claim_cases { shop with spawned := rest } now intact ticket with
      ⟨record, stored, waits, won⟩ | lost
    · rcases ways with ⟨result, _⟩ | ⟨result, same⟩
      · cases won.symm.trans result
      · cases won.symm.trans result
        rw [same]
        exact .begins ticket record given stored waits (Board.moved_store _ _ _ _ _ _) rfl
          (List.mem_append_right _ (List.mem_append_right _ (List.mem_singleton.mpr rfl)))
    · rcases ways with ⟨result, same⟩ | ⟨result, _⟩
      · cases lost.symm.trans result
        rw [same]
        exact .rests rfl rfl
      · cases lost.symm.trans result

theorem begins_poll (token : Nat) : Begins now shop (shop.poll token now) := by
  rcases poll_cases shop now token with
    same | same | ⟨activity, gates, _, _, ⟨ending, same⟩ | ⟨process, wait, same⟩⟩
  · rw [same]
    exact .rests rfl rfl
  · rw [same]
    exact .rests rfl rfl
  · rw [same]
    exact .rests rfl rfl
  · rw [same]
    exact .rests rfl rfl

theorem begins_perform (intact : shop.board.store.Intact) (deed : Deed) :
    Begins now shop (shop.perform now deed) :=
  after_deed shop now (Begins now shop) (.rests rfl rfl) (begins_take shop now intact)
    (begins_work shop now) (begins_launch shop now intact) (begins_poll shop now) deed

end Deeds

end Foreman.Workshop
