import Foreman.Proofs.Scheduler.Fires
import Foreman.Proofs.Scheduler.Round

set_option autoImplicit false

namespace Foreman.Round

def current (round : Round) (job : String) : Option TaskId :=
  match round.hand with
  | some fire =>
      if fire.due.id = job then some fire.id
      else (round.board.jobs.find? job).bind Job.lastTask
  | none => (round.board.jobs.find? job).bind Job.lastTask

-- The jobs that a round still has to deal with.
def outstanding (round : Round) : List String :=
  (round.hand.map fun fire => fire.due.id).toList ++ round.due.map DueJob.id

structure Exclusive (round : Round) (used : List TaskId) (job : String) : Prop where
  distinct : round.board.jobs.ids.Nodup
  once : round.outstanding.Nodup
  listed : job ∈ round.outstanding → ∃ entry, round.board.jobs.find? job = some entry
  known : ∀ pair ∈ round.made, pair.2 ∈ used
  single : ∀ task, (job, task) ∈ round.made → round.board.isActive task = true →
    round.current job = some task
  free : job ∈ round.due.map DueJob.id → ∀ task, (job, task) ∈ round.made →
    round.board.isActive task = false
  answered : ∀ fire, round.hand = some fire →
    fire.id ∈ used ∧ ((∀ ticket, fire.result ≠ .ok ticket) → round.board.isActive fire.id = false)

def Calms (round next : Round) (used : List TaskId) : Prop :=
  ∀ task ∈ used, next.board.isActive task = true → round.board.isActive task = true

theorem calms_inactive (round next : Round) (used : List TaskId) (calms : round.Calms next used)
    (task : TaskId) (known : task ∈ used) (inactive : round.board.isActive task = false) :
    next.board.isActive task = false := by
  by_contra active
  have before := calms task known (by simpa using active)
  rw [inactive] at before
  cases before

theorem current_keeps (round next : Round) (hand : next.hand = round.hand) (job : String)
    (keeps : round.board.jobs.Keeps next.board.jobs job) (task : TaskId)
    (named : round.current job = some task) : next.current job = some task := by
  have last (found : (round.board.jobs.find? job).bind Job.lastTask = some task) :
      (next.board.jobs.find? job).bind Job.lastTask = some task := by
    obtain ⟨entry, listed, written⟩ := Option.bind_eq_some_iff.mp found
    obtain ⟨later, stays, same⟩ := keeps entry listed
    rw [stays]
    exact same.trans written
  unfold current at named ⊢
  rw [hand]
  split at named
  · split at named
    · rename_i own
      rw [if_pos own]
      exact named
    · rename_i other
      rw [if_neg other]
      exact last named
  · exact last named

theorem exclusive_kept (round next : Round) (used all : List TaskId) (job : String)
    (exclusive : round.Exclusive used job) (more : ∀ id ∈ used, id ∈ all)
    (calms : round.Calms next used) (hand : next.hand = round.hand) (due : next.due = round.due)
    (made : next.made = round.made) (keeps : round.board.jobs.Keeps next.board.jobs job)
    (distinct : next.board.jobs.ids.Nodup) : next.Exclusive all job := by
  have left : next.outstanding = round.outstanding := by
    rw [outstanding, outstanding, hand, due]
  refine ⟨distinct, left ▸ exclusive.once, ?_, ?_, ?_, ?_, ?_⟩
  · rw [left]
    intro member
    obtain ⟨entry, found⟩ := exclusive.listed member
    obtain ⟨later, stays, _⟩ := keeps entry found
    exact ⟨later, stays⟩
  · rw [made]
    exact fun pair member => more pair.2 (exclusive.known pair member)
  · rw [made]
    intro task member active
    have before := calms task (exclusive.known (job, task) member) active
    exact current_keeps round next hand job keeps task (exclusive.single task member before)
  · rw [due, made]
    intro taken task member
    exact calms_inactive round next used calms task (exclusive.known (job, task) member)
      (exclusive.free taken task member)
  · rw [hand]
    intro fire held
    obtain ⟨known, answered⟩ := exclusive.answered fire held
    exact ⟨more fire.id known, fun failed =>
      calms_inactive round next used calms fire.id known (answered failed)⟩

section Rounds

variable (round next : Round) (used : List TaskId) (job : String)
  (exclusive : round.Exclusive used job) (calms : round.Calms next used)

include exclusive calms

-- Jobs are taken while nothing is in hand, and none of them has an active task.
theorem exclusive_taken (isActive : TaskId → Bool) (same : isActive = round.board.isActive)
    (now : Instant) (hand : round.hand = none) (nextHand : next.hand = none)
    (made : next.made = round.made)
    (jobs : next.board.jobs = (round.board.jobs.takeDue now isActive).1)
    (due : next.due = (round.board.jobs.takeDue now isActive).2) : next.Exclusive used job := by
  have outstands : next.outstanding = next.due.map DueJob.id := by
    simp [outstanding, nextHand]
  have keeps : round.board.jobs.Keeps next.board.jobs job := by
    rw [jobs]
    exact JobTable.take_due_keeps _ now isActive job
  have found (taken : job ∈ next.due.map DueJob.id) :
      ∃ entry, round.board.jobs.find? job = some entry ∧ entry.inFlight isActive = false := by
    obtain ⟨taken, member, named⟩ := List.mem_map.mp taken
    rw [← named]
    rw [due] at member
    exact JobTable.take_due_found _ now isActive exclusive.distinct taken member
  refine ⟨?_, ?_, ?_, made ▸ exclusive.known, ?_, ?_, ?_⟩
  · rw [jobs]
    exact JobTable.take_due_distinct _ now isActive exclusive.distinct
  · rw [outstands, due]
    exact JobTable.take_due_once _ now isActive exclusive.distinct
  · rw [outstands]
    intro taken
    obtain ⟨entry, listed, _⟩ := found taken
    obtain ⟨later, stays, _⟩ := keeps entry listed
    exact ⟨later, stays⟩
  · rw [made]
    intro task member active
    have before := calms task (exclusive.known (job, task) member) active
    exact current_keeps round next (nextHand.trans hand.symm) job keeps task
      (exclusive.single task member before)
  · rw [made]
    intro taken task member
    obtain ⟨entry, listed, landed⟩ := found taken
    refine calms_inactive round next used calms task (exclusive.known (job, task) member) ?_
    by_contra active
    have running : round.board.isActive task = true := by simpa using active
    have named := exclusive.single task member running
    rw [current, hand] at named
    simp only [listed, Option.bind_some] at named
    rw [Job.inFlight, named, Option.any_some, same, running] at landed
    cases landed
  · rw [nextHand]
    intro fire held
    cases held

theorem exclusive_accepted (id : TaskId) (due : DueJob) (rest : List DueJob)
    (result : Except SchedulerError Ticket) (hand : round.hand = none)
    (left : round.due = due :: rest) (nextHand : next.hand = some ⟨due, id, result⟩)
    (nextDue : next.due = rest) (nextMade : next.made = round.made ++ [(due.id, id)])
    (jobs : next.board.jobs = round.board.jobs)
    (failed : (∀ ticket, result ≠ .ok ticket) → next.board.isActive id = false) :
    next.Exclusive (used ++ [id]) job := by
  have outstands : next.outstanding = round.outstanding := by
    simp [outstanding, nextHand, nextDue, hand, left]
  refine ⟨jobs ▸ exclusive.distinct, outstands ▸ exclusive.once, ?_, ?_, ?_, ?_, ?_⟩
  · rw [outstands, jobs]
    exact exclusive.listed
  · rw [nextMade]
    intro pair member
    rcases List.mem_append.mp member with earlier | last
    · exact List.mem_append_left _ (exclusive.known pair earlier)
    · rw [List.mem_singleton.mp last]
      simp
  · rw [nextMade]
    intro task member active
    rw [current, nextHand, jobs]
    rcases List.mem_append.mp member with earlier | last
    · have before := calms task (exclusive.known (job, task) earlier) active
      have different : due.id ≠ job := by
        intro named
        have inactive := exclusive.free (by simp [left, named]) task earlier
        rw [before] at inactive
        cases inactive
      have named := exclusive.single task earlier before
      rw [current, hand] at named
      simpa only [if_neg different] using named
    · cases List.mem_singleton.mp last
      simp
  · rw [nextDue, nextMade]
    intro taken task member
    have behind : job ∈ round.due.map DueJob.id := by
      rw [left]
      exact List.mem_cons_of_mem _ taken
    rcases List.mem_append.mp member with earlier | last
    · exact calms_inactive round next used calms task (exclusive.known (job, task) earlier)
        (exclusive.free behind task earlier)
    · cases List.mem_singleton.mp last
      have once := exclusive.once
      simp only [outstanding, hand, left, List.map_cons, Option.map_none, Option.toList_none,
        List.nil_append, List.nodup_cons] at once
      exact absurd taken once.1
  · rw [nextHand]
    rintro fire held
    cases held
    exact ⟨by simp, failed⟩

theorem exclusive_settled (fire : Fire) (hand : round.hand = some fire) (nextHand : next.hand = none)
    (due : next.due = round.due) (made : next.made = round.made)
    (jobs : next.board.jobs = round.board.jobs.written fire.due.id fire.id fire.result) :
    next.Exclusive used job := by
  have outstands : round.outstanding = fire.due.id :: next.outstanding := by
    simp [outstanding, nextHand, due, hand]
  have written (own : fire.due.id = job) : ∃ later, next.board.jobs.find? job = some later ∧
      ∀ ticket, fire.result = .ok ticket → later.lastTask = some fire.id := by
    obtain ⟨entry, found⟩ := exclusive.listed (by simp [outstands, own])
    rw [jobs, own]
    exact JobTable.written_own _ job fire.id fire.result entry found
  have keeps (other : fire.due.id ≠ job) : round.board.jobs.Keeps next.board.jobs job := by
    rw [jobs]
    exact JobTable.written_keeps _ fire.due.id fire.id fire.result job other
  obtain ⟨known, answered⟩ := exclusive.answered fire hand
  refine ⟨?_, ?_, ?_, made ▸ exclusive.known, ?_, ?_, ?_⟩
  · rw [jobs]
    exact JobTable.written_distinct _ fire.due.id fire.id fire.result exclusive.distinct
  · have once := exclusive.once
    rw [outstands] at once
    exact once.of_cons
  · intro member
    by_cases own : fire.due.id = job
    · obtain ⟨later, stays, _⟩ := written own
      exact ⟨later, stays⟩
    · obtain ⟨entry, found⟩ := exclusive.listed (by simp [outstands, member])
      obtain ⟨later, stays, _⟩ := keeps own entry found
      exact ⟨later, stays⟩
  · rw [made]
    intro task member active
    have before := calms task (exclusive.known (job, task) member) active
    have named := exclusive.single task member before
    rw [current, hand] at named
    rw [current, nextHand]
    by_cases own : fire.due.id = job
    · simp only [if_pos own, Option.some.injEq] at named
      subst named
      obtain ⟨later, stays, last⟩ := written own
      rw [stays]
      cases result : fire.result with
      | ok ticket => exact last ticket result
      | error error =>
          have inactive := answered (by simp [result])
          rw [before] at inactive
          cases inactive
    · simp only [if_neg own] at named
      obtain ⟨entry, listed, last⟩ := Option.bind_eq_some_iff.mp named
      obtain ⟨later, stays, same⟩ := keeps own entry listed
      rw [stays]
      exact same.trans last
  · rw [due, made]
    intro taken task member
    exact calms_inactive round next used calms task (exclusive.known (job, task) member)
      (exclusive.free taken task member)
  · rw [nextHand]
    intro other held
    cases held

end Rounds

end Foreman.Round
