import Foreman.Proofs.Workshop.Deeds

set_option autoImplicit false

namespace Foreman

def Outcome.Suits (outcome : Outcome) (kind : Kind) : Prop :=
  ∀ reason, outcome = .failure reason → reason.origin = kind.origin

theorem Ending.outcome_suits (ending : Ending) (kind : Kind) (now : Instant) :
    (ending.outcome kind now).Suits kind := by
  intro reason failed
  cases ending with
  | value result => cases failed
  | error cause =>
      cases cause with
      | chain outermost causes =>
          cases failed
          rfl
      | _ =>
          cases failed
          rfl
  | panic message =>
      cases failed
      rfl

namespace Activity

theorem put_ticket (activities : List Activity) (old activity other : Activity)
    (found : old ∈ activities) (same : activity.ticket = old.ticket)
    (member : other ∈ activity.put activities) : ∃ before ∈ activities, before.ticket = other.ticket := by
  obtain ⟨before, present, changed⟩ := List.mem_map.mp member
  by_cases replaced : before.token = activity.token
  · rw [if_pos replaced] at changed
    exact ⟨old, found, same.symm.trans (congrArg Activity.ticket changed)⟩
  · rw [if_neg replaced] at changed
    exact ⟨before, present, congrArg Activity.ticket changed⟩

end Activity

namespace Workshop

structure Runs (known : Ticket → Prop) (called : List Assignment) (kind : Kind)
    (ticket : Ticket) : Prop where
  known : known ticket
  kind : ticket.assignment.kind = kind
  called : ticket.assignment ∈ called

structure Tended (known : Ticket → Prop) (called : List Assignment) (pool : Pool) : Prop where
  waiting : ∀ ticket ∈ pool.waiting, ticket.assignment.kind = .sync
  working : ∀ activity ∈ pool.working, Runs known called .sync activity.ticket

structure Honest (known : Ticket → Prop) (shop : Workshop) : Prop where
  pools : ∀ pool ∈ shop.pools, Tended known shop.called pool
  spawned : ∀ ticket ∈ shop.spawned, ticket.assignment.kind = .async
  fibers : ∀ activity ∈ shop.fibers, Runs known shop.called .async activity.ticket
  ended : ∀ entry ∈ shop.ended, ∀ outcome, entry.outcome = some outcome →
    ∃ ticket kind, Runs known shop.called kind ticket ∧ ticket.token = entry.token ∧
      outcome.Suits kind

theorem runs_mono (known wider : Ticket → Prop) (called more : List Assignment) (kind : Kind)
    (ticket : Ticket) (runs : Runs known called kind ticket)
    (wide : ∀ other, known other → wider other) (kept : ∀ entry ∈ called, entry ∈ more) :
    Runs wider more kind ticket :=
  ⟨wide ticket runs.known, runs.kind, kept _ runs.called⟩

section Keeps

variable {known : Ticket → Prop} (shop : Workshop)

theorem honest_mono (honest : shop.Honest known) (wider : Ticket → Prop)
    (wide : ∀ ticket, known ticket → wider ticket) (more : List Assignment)
    (kept : ∀ entry ∈ shop.called, entry ∈ more) :
    ({ shop with called := more } : Workshop).Honest wider := by
  have runs (kind : Kind) (ticket : Ticket) (before : Runs known shop.called kind ticket) :
      Runs wider more kind ticket := runs_mono known wider shop.called more kind ticket before wide kept
  refine ⟨fun pool member => ⟨(honest.pools pool member).waiting, ?_⟩, honest.spawned,
    fun activity member => runs _ _ (honest.fibers activity member), ?_⟩
  · exact fun activity working => runs _ _ ((honest.pools pool member).working activity working)
  · intro entry member outcome given
    obtain ⟨ticket, kind, before, named, suits⟩ := honest.ended entry member outcome given
    exact ⟨ticket, kind, runs kind ticket before, named, suits⟩

theorem honest_called (honest : shop.Honest known) (assignment : Assignment) :
    ({ shop with called := shop.called ++ [assignment] } : Workshop).Honest known :=
  honest_mono shop honest known (fun _ holds => holds) _
    fun _ member => List.mem_append_left _ member

theorem honest_board (honest : shop.Honest known) (board : Board) :
    ({ shop with board := board } : Workshop).Honest known :=
  ⟨honest.pools, honest.spawned, honest.fibers, honest.ended⟩

theorem honest_gates (honest : shop.Honest known) (gates : Gates) :
    ({ shop with gates := gates } : Workshop).Honest known :=
  ⟨honest.pools, honest.spawned, honest.fibers, honest.ended⟩

theorem honest_pool (honest : shop.Honest known) (index : Nat) (pool : Pool)
    (tended : Tended known shop.called pool) : (shop.setPool index pool).Honest known := by
  refine ⟨fun other member => ?_, honest.spawned, honest.fibers, honest.ended⟩
  rcases List.mem_or_eq_of_mem_set member with before | same
  · exact honest.pools other before
  · exact same ▸ tended

theorem honest_fibers (honest : shop.Honest known) (spawned : List Ticket) (fibers : List Activity)
    (fewer : ∀ ticket ∈ spawned, ticket.assignment.kind = .async)
    (running : ∀ activity ∈ fibers, Runs known shop.called .async activity.ticket) :
    ({ shop with spawned := spawned, fibers := fibers } : Workshop).Honest known :=
  ⟨honest.pools, fewer, running, honest.ended⟩

theorem honest_report (honest : shop.Honest known) (token : Nat) (outcome : Option Outcome)
    (now : Instant)
    (own : ∀ result, outcome = some result →
      ∃ ticket kind, Runs known shop.called kind ticket ∧ ticket.token = token ∧ result.Suits kind) :
    (shop.report token outcome now).Honest known := by
  refine ⟨honest.pools, honest.spawned, honest.fibers, fun entry member result given => ?_⟩
  rcases List.mem_append.mp member with before | last
  · exact honest.ended entry before result given
  · rw [List.mem_singleton.mp last] at given ⊢
    exact own result given

theorem honest_skip (honest : shop.Honest known) (token : Nat) (now : Instant) :
    (shop.report token none now).Honest known :=
  honest_report shop honest token none now (by simp)

end Keeps

section Deeds

variable {known : Ticket → Prop} (shop : Workshop) (now : Instant)

theorem claim_honest (honest : shop.Honest known) (ticket : Ticket) :
    (shop.claim ticket now).1.Honest known ∧ (shop.claim ticket now).1.called = shop.called := by
  unfold claim
  split
  · exact ⟨honest, rfl⟩
  · exact ⟨honest_board shop honest _, rfl⟩

theorem honest_take (honest : shop.Honest known) (given : ∀ ticket ∈ shop.handed, known ticket)
    (index : Nat) : (shop.take index now).Honest known := by
  rcases take_cases shop now index with
    same | ⟨pool, ticket, rest, claimant, found, waiting, working, ways⟩
  · rw [same]
    exact honest
  · have tended := honest.pools pool (List.mem_of_getElem? found)
    have first : ticket ∈ pool.waiting := by
      rw [waiting]
      exact List.mem_cons_self
    have left : Tended known shop.called rest := by
      refine ⟨fun other member => tended.waiting other ?_, working ▸ tended.working⟩
      rw [waiting]
      exact List.mem_cons_of_mem _ member
    obtain ⟨claimed, called⟩ := claim_honest (shop.setPool index rest) now
      (honest_pool shop honest index rest left) ticket
    rcases ways with ⟨result, same⟩ | ⟨result, same⟩
    · rw [result] at claimed
      rw [same]
      exact honest_skip claimant claimed ticket.token now
    · rw [result] at claimed called
      rw [same]
      have counted := honest_called claimant claimed ticket.assignment
      let busy := rest.employ (claimant.call ticket).2
      refine honest_board _ (honest_pool _ counted index busy ⟨left.waiting, ?_⟩) _
      intro activity employed
      rcases List.mem_append.mp employed with before | last
      · refine runs_mono known known _ _ _ _ (left.working activity before) (fun _ holds => holds)
          fun entry member => List.mem_append_left _ ?_
        rw [called]
        exact member
      · rw [List.mem_singleton.mp last]
        exact ⟨given ticket (waiting_handed shop index pool found ticket first),
          tended.waiting ticket first, List.mem_append_right _ (List.mem_singleton.mpr rfl)⟩

theorem honest_work (honest : shop.Honest known) (index token : Nat) :
    (shop.work index token now).Honest known := by
  rcases work_cases shop now index token with
    same | ⟨pool, activity, gates, found, working, named, ways⟩
  · rw [same]
    exact honest
  · have tended := honest.pools pool (List.mem_of_getElem? found)
    have opened := honest_gates shop honest gates
    rcases ways with ⟨ending, same⟩ | ⟨process, wait, same⟩
    · rw [same]
      have fewer : Tended known shop.called (pool.discharge token) :=
        ⟨tended.waiting, fun other member => tended.working other (List.mem_filter.mp member).1⟩
      refine honest_report _ (honest_board _ (honest_pool _ opened index _ fewer) _) token _ now ?_
      rintro result ⟨⟩
      exact ⟨activity.ticket, .sync, tended.working activity working, named,
        ending.outcome_suits .sync now⟩
    · rw [same]
      refine honest_pool _ opened index _ ⟨tended.waiting, fun other member => ?_⟩
      obtain ⟨before, earlier, kept⟩ := Activity.put_ticket pool.working activity
        { activity with process := process, wait := wait } other working rfl member
      exact kept ▸ tended.working before earlier

theorem honest_launch (honest : shop.Honest known) (given : ∀ ticket ∈ shop.handed, known ticket) :
    (shop.launch now).Honest known := by
  rcases launch_cases shop now with same | ⟨ticket, rest, claimant, queue, ways⟩
  · rw [same]
    exact honest
  · have first : ticket ∈ shop.spawned := by
      rw [queue]
      exact List.mem_cons_self
    have fewer (other : Ticket) (member : other ∈ rest) : other.assignment.kind = .async := by
      refine honest.spawned other ?_
      rw [queue]
      exact List.mem_cons_of_mem _ member
    have popped := honest_fibers shop honest rest shop.fibers fewer honest.fibers
    have claimed := (claim_honest { shop with spawned := rest } now popped ticket).1
    rcases ways with ⟨result, same⟩ | ⟨result, same⟩
    · rw [result] at claimed
      rw [same]
      exact honest_skip claimant claimed ticket.token now
    · rw [result] at claimed
      rw [same]
      have counted := honest_called claimant claimed ticket.assignment
      refine honest_fibers _ counted claimant.spawned _ claimed.spawned ?_
      intro activity running
      rcases List.mem_append.mp running with before | last
      · exact counted.fibers activity before
      · rw [List.mem_singleton.mp last]
        exact ⟨given ticket (List.mem_append_right _ first), honest.spawned ticket first,
          List.mem_append_right _ (List.mem_singleton.mpr rfl)⟩

theorem honest_unwind (honest : shop.Honest known) (token : Nat) (outcome : Option Outcome)
    (own : ∀ result, outcome = some result →
      ∃ ticket kind, Runs known shop.called kind ticket ∧ ticket.token = token ∧ result.Suits kind) :
    (shop.unwind token outcome now).Honest known :=
  honest_report _ (honest_fibers shop honest shop.spawned _ honest.spawned
    fun activity member => honest.fibers activity (List.mem_filter.mp member).1) token outcome now own

theorem honest_poll (honest : shop.Honest known) (token : Nat) :
    (shop.poll token now).Honest known := by
  rcases poll_cases shop now token with
    same | same | ⟨activity, gates, present, named, ⟨ending, same⟩ | ⟨process, wait, same⟩⟩
  · rw [same]
    exact honest
  · rw [same]
    exact honest_unwind shop now honest token none (by simp)
  · rw [same]
    refine honest_unwind _ now (honest_gates shop honest gates) token _ ?_
    rintro result ⟨⟩
    exact ⟨activity.ticket, .async, honest.fibers activity present, named,
      ending.outcome_suits .async now⟩
  · rw [same]
    refine honest_fibers _ (honest_gates shop honest gates) shop.spawned _ honest.spawned ?_
    intro other member
    obtain ⟨before, earlier, kept⟩ := Activity.put_ticket shop.fibers activity
      { activity with process := process, wait := wait } other present rfl member
    exact kept ▸ honest.fibers before earlier

theorem honest_perform (honest : shop.Honest known) (given : ∀ ticket ∈ shop.handed, known ticket)
    (deed : Deed) : (shop.perform now deed).Honest known :=
  after_deed shop now (Honest known) honest (honest_take shop now honest given)
    (honest_work shop now honest) (honest_launch shop now honest given) (honest_poll shop now honest)
    deed

theorem queue_tended (called : List Assignment) (ticket : Ticket)
    (kind : ticket.assignment.kind = .sync) (pools : List Pool)
    (tended : ∀ pool ∈ pools, Tended known called pool) :
    ∀ pool ∈ queue ticket pools, Tended known called pool := by
  induction pools with
  | nil => exact tended
  | cons first rest ih =>
      have own := tended first List.mem_cons_self
      cases rest with
      | nil =>
          intro pool member
          rw [queue, List.mem_singleton] at member
          subst member
          refine ⟨fun other waits => ?_, own.working⟩
          rcases List.mem_append.mp waits with before | last
          · exact own.waiting other before
          · exact List.mem_singleton.mp last ▸ kind
      | cons next later =>
          intro pool member
          rw [queue] at member
          · rcases List.mem_cons.mp member with same | behind
            · exact same ▸ own
            · exact ih (fun other inside => tended other (List.mem_cons_of_mem _ inside)) pool behind
          · exact List.cons_ne_nil next later

theorem honest_hand (honest : shop.Honest known) (ticket : Ticket) :
    (shop.hand ticket).Honest known := by
  unfold hand
  split
  · rename_i kind
    exact ⟨queue_tended shop.called ticket kind shop.pools honest.pools, honest.spawned, honest.fibers,
      honest.ended⟩
  · rename_i kind
    refine honest_fibers shop honest _ shop.fibers (fun other member => ?_) honest.fibers
    rcases List.mem_append.mp member with before | last
    · exact honest.spawned other before
    · exact List.mem_singleton.mp last ▸ kind

end Deeds

end Workshop

end Foreman
