import Foreman.Proofs.Workshop.Verdicts

set_option autoImplicit false

namespace Foreman

def Ending.Tells (ending : Ending) (outcome : Outcome) : Prop :=
  match ending with
  | .value result => outcome = .success result
  | _ => ∃ reason, outcome = .failure reason ∧ reason.origin = .sync

theorem Ending.outcome_tells (ending : Ending) (now : Instant) :
    ending.Tells (ending.outcome .sync now) := by
  cases ending with
  | value result => rfl
  | error cause =>
      cases cause with
      | chain outermost causes => exact ⟨_, rfl, rfl⟩
      | _ => exact ⟨_, rfl, rfl⟩
  | panic message => exact ⟨_, rfl, rfl⟩

namespace Crew

-- Tickets that are yet to be begun with, by the beats that they need for it.
def steps (crew : Crew) : Nat :=
  3 * crew.pool.waiting.length + 2 * crew.picked.length + crew.cleared.length

def efforts (crew : Crew) : Nat := Toil.total Activity.effort crew.pool.working

def Able (crew : Crew) (now : Instant) : Beat → Prop
  | .pick => crew.pool.waiting ≠ [] ∧ crew.hands < crew.pool.workers
  | .check token => token ∈ crew.picked.map Ticket.token
  | .mark token => token ∈ crew.cleared.map Ticket.token
  | .work token => ∃ activity ∈ crew.pool.working, activity.token = token ∧
      activity.canResume crew.gates now = true
  | _ => False

structure Idle (size : Nat) (now : Instant) (crew : Crew) : Prop where
  picked : crew.picked = []
  cleared : crew.cleared = []
  blocked : ∀ activity ∈ crew.pool.working, activity.canResume crew.gates now = false
  full : crew.pool.waiting = [] ∨ crew.pool.working.length = size

-- However the workers go on, they come to an end, and they are idle then.
inductive Settles (size : Nat) (now : Instant) : Crew → Prop where
  | onward (crew : Crew)
      (next : ∀ beat, crew.Able now beat → Settles size now (crew.perform now beat))
      (last : (∀ beat, ¬ crew.Able now beat) → crew.Idle size now) : Settles size now crew

def Lightens (crew next : Crew) : Prop :=
  next.steps < crew.steps ∨ next.steps = crew.steps ∧ next.efforts < crew.efforts

section Able

variable (size : Nat) (given : List Ticket) (crew : Crew) (manned : Manned size given crew)
  (distinct : (given.map Ticket.token).Nodup) (now : Instant)

theorem token_found (token : Nat) (tickets : List Ticket)
    (member : token ∈ tickets.map Ticket.token) :
    ∃ ticket ∈ tickets, ticket.token = token ∧ Ticket.find? token tickets = some ticket := by
  obtain ⟨own, present, named⟩ := List.mem_map.mp member
  have there : (Ticket.find? token tickets).isSome := by
    rw [Ticket.find?, List.find?_isSome]
    exact ⟨own, present, by simpa using named⟩
  obtain ⟨ticket, found⟩ := Option.isSome_iff_exists.mp there
  obtain ⟨listed, same⟩ := Ticket.find_ticket token tickets ticket found
  exact ⟨ticket, listed, same, found⟩

include manned distinct

theorem working_once (token : Nat) : Activity.bearers token crew.pool.working ≤ 1 := by
  have apart := (posts_distinct crew given manned.placed distinct).2.2
  have once := List.nodup_iff_count_le_one.mp apart token
  rw [List.count, List.countP_map] at once
  exact once

theorem check_lightens (token : Nat) (picked : token ∈ crew.picked.map Ticket.token) :
    crew.Lightens (crew.check token now) := by
  obtain ⟨ticket, member, rfl, found⟩ := token_found token crew.picked picked
  have fewer := (picked_without crew given manned.placed distinct ticket member).1
  left
  by_cases cancelled : crew.board.tokens.isCancelled ticket.token = true
  · rw [check_cancelled crew now ticket.token ticket found cancelled]
    simp only [steps]
    omega
  · rw [check_clear crew now ticket.token ticket found cancelled]
    simp only [steps, List.length_append, List.length_singleton]
    omega

theorem mark_lightens (token : Nat) (cleared : token ∈ crew.cleared.map Ticket.token) :
    crew.Lightens (crew.mark token now) := by
  obtain ⟨ticket, member, rfl, found⟩ := token_found token crew.cleared cleared
  have fewer := (cleared_without crew given manned.placed distinct ticket member).1
  have rest : (crew.mark ticket.token now).steps = 3 * crew.pool.waiting.length +
      2 * crew.picked.length + (Ticket.drop ticket.token crew.cleared).length := by
    rcases mark_ways crew manned.intact now ticket.token ticket found with
      ⟨_, board, same⟩ | ⟨_, same⟩
    · rw [same]
      rfl
    · rw [same]
      rfl
  left
  rw [rest, steps]
  omega

theorem work_lightens (activity : Activity) (member : activity ∈ crew.pool.working)
    (able : activity.canResume crew.gates now = true) :
    crew.Lightens (crew.work activity.token now) := by
  have once := working_once size given crew manned distinct activity.token
  have found := Activity.bearer_found crew.pool.working activity member once
  obtain ⟨gates, turn, resumed⟩ := activity.can_resume now crew.gates able
  right
  cases turn with
  | ended ending =>
      rw [work_ended crew now activity gates found ending resumed]
      exact ⟨rfl, Activity.drop_lowers crew.pool.working activity member⟩
  | waits process wait =>
      have shorter := activity.resume_shortens now crew.gates gates process wait resumed
      rw [work_waits crew now activity gates found process wait resumed]
      exact ⟨rfl, Activity.put_lowers crew.pool.working activity member once
        { activity with process := process, wait := wait } rfl (Nat.succ_lt_succ shorter)⟩

theorem able_lightens (beat : Beat) (able : crew.Able now beat) :
    beat.tickets = [] ∧ crew.Lightens (crew.perform now beat) := by
  cases beat with
  | pick =>
      obtain ⟨waits, free⟩ := able
      obtain ⟨ticket, waiting, first⟩ := List.exists_cons_of_ne_nil waits
      refine ⟨rfl, .inl ?_⟩
      rw [perform, pick_first crew ticket waiting first free]
      simp only [steps, first, List.length_cons, List.length_append, List.length_nil]
      omega
  | check token => exact ⟨rfl, check_lightens size given crew manned distinct now token able⟩
  | mark token => exact ⟨rfl, mark_lightens size given crew manned distinct now token able⟩
  | work token =>
      obtain ⟨activity, member, rfl, resumable⟩ := able
      exact ⟨rfl, work_lightens size given crew manned distinct now activity member resumable⟩
  | queue ticket | call call | permit gate count => cases able

omit distinct in
theorem stuck_idle (stuck : ∀ beat, ¬ crew.Able now beat) : crew.Idle size now := by
  have picked : crew.picked = [] := by
    apply List.eq_nil_iff_forall_not_mem.mpr
    exact fun ticket member => stuck (.check ticket.token) (List.mem_map_of_mem member)
  have cleared : crew.cleared = [] := by
    apply List.eq_nil_iff_forall_not_mem.mpr
    exact fun ticket member => stuck (.mark ticket.token) (List.mem_map_of_mem member)
  refine ⟨picked, cleared, ?_, ?_⟩
  · intro activity member
    by_contra able
    exact stuck (.work activity.token) ⟨activity, member, rfl, by simpa using able⟩
  · by_cases waits : crew.pool.waiting = []
    · exact .inl waits
    · have busy : ¬ crew.hands < crew.pool.workers := fun free => stuck .pick ⟨waits, free⟩
      have most := manned.staffed.hands
      rw [manned.staffed.workers] at busy
      simp only [hands, picked, cleared, List.length_nil] at busy most
      exact .inr (by omega)

end Able

theorem manned_settles (size : Nat) (given : List Ticket) (now : Instant) (crew : Crew)
    (manned : Manned size given crew) (distinct : (given.map Ticket.token).Nodup) :
    Settles size now crew := by
  refine .onward crew (fun beat able => ?_) (stuck_idle size given crew manned now)
  have lightens := able_lightens size given crew manned distinct now beat able
  have goes := goes_perform crew now manned.intact beat
  have next := manned_goes goes size given manned distinct
  rw [lightens.1, List.append_nil] at next
  exact manned_settles size given now (crew.perform now beat) next distinct
termination_by (crew.steps, crew.efforts)
decreasing_by
  rcases lightens.2 with fewer | ⟨same, less⟩
  · exact .left _ _ fewer
  · rw [same]
    exact .right _ less

structure Accounts (size : Nat) (start : Crew) (history : List (Instant × Beat)) (crew : Crew) :
    Prop where
  busy : crew.pool.busy = crew.pool.working.length ∧ crew.pool.busy ≤ size
  -- A ticket waits, is with a worker or has ended, and has no second place.
  placed : crew.places.Perm ((queued history).map Ticket.token)
  cleared : ∀ ticket ∈ crew.cleared,
    Seen (fun past _ beat => past.Clears ticket.token beat) start history
  skipped : ∀ token time, (⟨token, none, time⟩ : End) ∈ crew.ended ↔
    Seen (fun past now beat => now = time ∧ past.Skips token beat) start history
  accepted : ∀ token, token ∈ crew.begun.map Activity.token ↔
    Seen (fun past _ beat => past.Accepts token beat) start history
  called : crew.called = crew.begun.map fun activity => activity.ticket.assignment
  bodies : ∀ (index : Nat) (activity : Activity), crew.begun[index]? = some activity →
    activity.ticket ∈ queued history ∧
      activity.process = activity.ticket.callable.body
        ((crew.called.take (index + 1)).countP fun assignment =>
          assignment.reference == activity.ticket.assignment.reference)
        activity.ticket.assignment.arguments
  -- Each body that was called is in execution, or has been answered for, once.
  invoked : (crew.begun.map Activity.token).Perm
    (crew.pool.working.map Activity.token ++ crew.answered.map End.token)
  uncalled : ∀ token time, (⟨token, none, time⟩ : End) ∈ crew.ended →
    token ∉ crew.begun.map Activity.token
  told : ∀ entry ∈ crew.ended, ∀ outcome, entry.outcome = some outcome → ∃ first ∈ crew.begun,
    first.token = entry.token ∧ first.process.alone.1.Tells outcome
  settles : ∀ now, crew.Settles size now
  drained : crew.pool.waiting = [] → crew.picked = [] → crew.cleared = [] →
    crew.pool.working = [] → crew.pool.busy = 0 ∧
      (crew.ended.map End.token).Perm ((queued history).map Ticket.token)
  inLine : size = 1 → (crew.begun.map Activity.ticket).Sublist (queued history)

section Accounts

variable {size : Nat} {given : List Ticket} {crew : Crew} (manned : Manned size given crew)

theorem begun_first (crew : Crew) : (crew.begun.map Activity.ticket).Sublist crew.line := by
  rw [line, List.append_assoc, List.append_assoc]
  exact List.sublist_append_left _ _

include manned

theorem manned_busy : crew.pool.busy = crew.pool.working.length ∧ crew.pool.busy ≤ size := by
  have busy := manned.staffed.busy
  have most := manned.staffed.hands
  rw [hands] at most
  exact ⟨busy, by omega⟩

theorem manned_uncalled (distinct : (given.map Ticket.token).Nodup) (token : Nat) (time : Instant)
    (skipped : (⟨token, none, time⟩ : End) ∈ crew.ended) :
    token ∉ crew.begun.map Activity.token := by
  intro begun
  have apart : crew.places.Nodup := manned.placed.nodup_iff.mpr distinct
  simp only [places, List.nodup_append] at apart
  have here : token ∈ crew.ended.map End.token := List.mem_map_of_mem (f := End.token) skipped
  rcases List.mem_append.mp (manned.attended.invoked.mem_iff.mp begun) with working | told
  · exact apart.2.2 token (by simp [working]) token here rfl
  · obtain ⟨entry, answered, same⟩ := List.mem_map.mp told
    obtain ⟨member, outcome⟩ := List.mem_filter.mp answered
    have one := List.inj_on_of_nodup_map apart.2.1 member skipped same
    rw [one] at outcome
    cases outcome

theorem manned_told (entry : End) (member : entry ∈ crew.ended) (outcome : Outcome)
    (given : entry.outcome = some outcome) : ∃ first ∈ crew.begun,
      first.token = entry.token ∧ first.process.alone.1.Tells outcome := by
  have answered : entry ∈ crew.answered := List.mem_filter.mpr ⟨member, by simp [given]⟩
  obtain ⟨first, begins, named, ended⟩ := manned.attended.told entry answered
  rw [given, Option.some.injEq] at ended
  exact ⟨first, begins, named, ended ▸ first.process.alone.1.outcome_tells entry.time⟩

theorem manned_drained (waiting : crew.pool.waiting = []) (picked : crew.picked = [])
    (cleared : crew.cleared = []) (working : crew.pool.working = []) :
    crew.pool.busy = 0 ∧ (crew.ended.map End.token).Perm (given.map Ticket.token) := by
  have placed := manned.placed
  have busy := manned.staffed.busy
  rw [working] at busy
  simp only [places, waiting, picked, cleared, working, List.map_nil, List.nil_append] at placed
  exact ⟨busy, placed⟩

end Accounts

theorem tickets_accounted (room size cores : Nat) (positive : 0 < size)
    (history : List (Instant × Beat)) (distinct : ((queued history).map Ticket.token).Nodup) :
    let start := ofBoard (Board.empty room) size cores
    Accounts size start history (start.run history) := by
  intro start
  have opens := manned_start room size cores positive
  have manned : Manned size (queued history) (start.run history) :=
    run_manned history size [] start opens distinct
  obtain ⟨known, called, bodies, invoked, _, _⟩ := manned.attended
  have begun := begun_first (start.run history)
  refine ⟨manned_busy manned, manned.placed, ?_, ?_, ?_, called, ?_, invoked,
    manned_uncalled manned distinct, manned_told manned,
    fun now => manned_settles size _ now _ manned distinct, manned_drained manned, ?_⟩
  · intro ticket member
    have seen := run_clears history start opens.intact ticket.token (List.mem_map_of_mem member)
    exact seen.resolve_left List.not_mem_nil
  · intro token time
    have seen := run_skips history start opens.intact token time
    exact seen.trans (or_iff_right List.not_mem_nil)
  · intro token
    have seen := run_accepts history start opens.intact token
    exact seen.trans (or_iff_right List.not_mem_nil)
  · intro index activity found
    have first := List.mem_map_of_mem (f := Activity.ticket) (List.mem_of_getElem? found)
    exact ⟨known activity.ticket (begun.subset first), bodies index activity found⟩
  · exact fun single => begun.trans (manned.inLine single)

def shift : List (Instant × Beat) :=
  let ticket (number : Nat) (process : Process) : Ticket :=
    ⟨Assignment.ofRequest (Request.new "tasks:shift") (TaskId.ofNumber number) .sync Instant.epoch,
      ⟨.sync, fun _ _ => process⟩, number⟩
  let tickets : List Ticket :=
    [ticket 0 (.finish (.value (.int 12))), ticket 1 (.rest (.finish (.panic none))),
      ticket 2 (.finish (.value .null)), ticket 3 (.finish (.value .null))]
  let enrolments := tickets.map fun ticket => Beat.call (.enroll ticket.assignment none)
  let beats : List Beat :=
    enrolments ++ tickets.map Beat.queue ++
      [.pick, .check 0, .mark 0, .call (.cancel (TaskId.ofNumber 2)), .work 0,
        .pick, .check 1, .mark 1, .work 1, .work 1, .pick, .check 2,
        .pick, .check 3, .call (.cancel (TaskId.ofNumber 3)), .mark 3]
  beats.map fun beat => (Instant.epoch, beat)

theorem shift_accounted :
    0 < 1 ∧ ((queued shift).map Ticket.token).Nodup ∧
      let crew := (ofBoard (Board.empty 4) 1 8).run shift
      crew.pool.busy = 0 ∧ (crew.ended.map End.token).Perm [0, 1, 2, 3] ∧
        crew.begun.map Activity.token = [0, 1] ∧
        (crew.begun.map Activity.ticket).Sublist (queued shift) ∧
        (∀ entry ∈ crew.ended, entry.token = 3 → entry.outcome = none) := by
  have distinct : ((queued shift).map Ticket.token).Nodup := by decide +kernel
  have accounts := tickets_accounted 4 1 8 Nat.one_pos shift distinct
  obtain ⟨busy, ended⟩ := accounts.drained (by rfl) (by rfl) (by rfl) (by rfl)
  have begun : ((ofBoard (Board.empty 4) 1 8).run shift).begun.map Activity.token = [0, 1] := by
    decide +kernel
  refine ⟨Nat.one_pos, distinct, busy, ended, begun, accounts.inLine rfl, ?_⟩
  intro entry member named
  by_contra told
  obtain ⟨outcome, given⟩ := Option.ne_none_iff_exists'.mp told
  obtain ⟨first, begins, same, _⟩ := accounts.told entry member outcome given
  have listed := List.mem_map_of_mem (f := Activity.token) begins
  rw [begun, same, named] at listed
  revert listed
  decide

end Crew

end Foreman
