import Foreman.Proofs.Scheduler.Admission

set_option autoImplicit false

namespace Foreman

section Checks

structure Request.Vetted (request : Request) : Prop where
  valid : request.validate = .ok ()
  wellFormed : ∃ parsed, Reference.parse request.reference = .ok parsed

theorem JobDefinition.validate_iff (definition : JobDefinition) :
    definition.validate = .ok () ↔
      Text.allBlank definition.id = false ∧ definition.request.Vetted := by
  constructor
  · intro passed
    unfold validate at passed
    split at passed
    · cases passed
    · rename_i named
      split at passed
      · cases passed
      · rename_i valid
        split at passed
        · cases passed
        · rename_i parsed wellFormed
          exact ⟨by simpa using named, valid, parsed, wellFormed⟩
  · rintro ⟨named, valid, parsed, wellFormed⟩
    simp only [validate, named, valid, wellFormed, Bool.false_eq_true, if_false]

def Span.Positive (limit : Option Span) : Prop := ∀ span, limit = some span → 0 < span.nanos

theorem Span.of_millis_positive (millis : Nat) (some : millis ≠ 0) :
    0 < (Span.ofMillis millis).nanos := by
  unfold ofMillis ofNanos ofNanos?
  split
  · exact Nat.mul_pos (Nat.pos_of_ne_zero some) (by decide)
  · decide

theorem Request.valid_positive (request : Request) (valid : request.validate = .ok ()) :
    Span.Positive request.timeout := by
  intro span same
  refine Nat.pos_of_ne_zero fun none => ?_
  have zero : span = Span.zero := by
    cases span
    cases none
    rfl
  rw [validate, same, zero, if_pos rfl] at valid
  split at valid <;> cases valid

theorem Settings.valid_positive (settings : Settings) (valid : settings.validate = .ok ()) :
    Span.Positive settings.defaultTimeout := by
  intro span same
  obtain ⟨millis, given, rfl⟩ := Option.map_eq_some_iff.mp same
  have some : millis ≠ 0 := by
    rintro rfl
    rw [validate, given, if_pos rfl] at valid
    split at valid <;> cases valid
  exact Span.of_millis_positive millis some

theorem ResolverCache.resolve_registered (cache : ResolverCache Callable)
    (registry : Registry Callable) (reference : String)
    (wellFormed : ∃ parsed, Reference.parse reference = .ok parsed) (cause : ResolutionError)
    (unknown : (cache.resolve registry.resolve reference).2 = .error cause) :
    cause = .notFound reference := by
  obtain ⟨parsed, wellFormed⟩ := wellFormed
  unfold resolve at unknown
  split at unknown
  · cases unknown
  · unfold Registry.resolve at unknown
    rw [wellFormed] at unknown
    cases found : registry.find? reference with
    | some value =>
        simp only [found] at unknown
        cases unknown
    | none =>
        simp only [found] at unknown
        cases unknown
        rfl

end Checks

namespace Scheduler

section Accept

variable (scheduler : Scheduler) (request : Request) (id : TaskId) (now : Instant)

inductive Answered : Except SchedulerError Ticket → Prop where
  | made (ticket : Ticket) (callable : Callable)
      (given : ticket.assignment = scheduler.assigned request id callable now) : Answered (.ok ticket)
  | unresolved (cause : ResolutionError)
      (unknown : (scheduler.resolved request.reference).2 = .error cause) :
      Answered (.error (.resolution id cause))
  | full (capacity : Nat) : Answered (.error (.queueFull capacity))
  | unstored (cause : StoreError) : Answered (.error (.store cause))

theorem accept_answered :
    Answered scheduler request id now (scheduler.accept request id now).2 := by
  unfold accept
  cases resolved : scheduler.cache.resolve scheduler.registry.resolve request.reference with
  | mk cache answer =>
      cases answer with
      | error cause =>
          simp only [board, Board.reject]
          split
          · rename_i refused
            split at refused
            · cases refused
              exact .unstored _
            · cases refused
          · refine .unresolved cause ?_
            rw [Scheduler.resolved, resolved]
      | ok callable =>
          simp only [Workshop.enroll, Board.enroll]
          split
          · rename_i refused
            split at refused
            · cases refused
              exact .full _
            · split at refused
              · cases refused
                exact .unstored _
              · cases refused
          · exact .made _ callable rfl

end Accept

theorem assigned_positive (scheduler : Scheduler) (request : Request) (id : TaskId)
    (callable : Callable) (now : Instant) (valid : request.validate = .ok ())
    (limit : Span.Positive scheduler.settings.defaultTimeout) :
    Span.Positive (scheduler.assigned request id callable now).timeout := by
  have own := Request.valid_positive request valid
  change Span.Positive (request.timeout.or scheduler.settings.defaultTimeout)
  cases given : request.timeout with
  | none => exact limit
  | some span =>
      rw [given] at own
      exact own

theorem accept_wellformed (scheduler : Scheduler) (request : Request) (id : TaskId) (now : Instant)
    (vetted : request.Vetted) (task : TaskId) (reference : String) :
    (scheduler.accept request id now).2 ≠
      .error (.resolution task (.malformedReference reference)) := by
  intro refused
  have answered := accept_answered scheduler request id now
  rw [refused] at answered
  cases answered with
  | unresolved cause unknown =>
      have missing := ResolverCache.resolve_registered scheduler.cache scheduler.registry
        request.reference vetted.wellFormed _ unknown
      cases missing

theorem accept_positive (scheduler : Scheduler) (request : Request) (id : TaskId) (now : Instant)
    (valid : request.validate = .ok ()) (limit : Span.Positive scheduler.settings.defaultTimeout)
    (ticket : Ticket) (accepted : (scheduler.accept request id now).2 = .ok ticket) :
    Span.Positive ticket.assignment.timeout := by
  have answered := accept_answered scheduler request id now
  rw [accepted] at answered
  cases answered with
  | made _ callable given =>
      rw [given]
      exact assigned_positive scheduler request id callable now valid limit

end Scheduler

namespace Round

-- The ticket of a task that was made, and that is queued, watched or handed to an executor.
def Carries (round : Round) (ticket : Ticket) : Prop := (round.desk []).Has ticket

section Steps

variable (round : Round) (used : List TaskId) (now : Instant)

theorem carried_before (steady : round.Steady used) (step : Step) (idle : step.ids = [])
    (ticket : Ticket) (carries : (round.perform now step).Carries ticket) : round.Carries ticket := by
  have continues := continues_perform round used now steady step (by simp [idle])
  rcases Desk.shifts_source _ _ continues.shifts ticket carries with before | unused
  · exact before
  · have known := Desk.stamped_used _ (Desk.sound_shifts _ _ steady.sound continues.shifts) ticket
      carries
    have same : used ++ step.ids = used := by rw [idle, List.append_nil]
    change ticket.id ∈ used ++ step.ids at known
    exact absurd (same ▸ known) unused

theorem carried_submit (steady : round.Steady used) (request : Request) (id : TaskId)
    (fresh : id ∉ used) (ticket : Ticket)
    (carries : (round.perform now (.move (.submit request id))).Carries ticket) :
    round.Carries ticket ∨
      request.validate = .ok () ∧ (round.scheduler.accept request id now).2 = .ok ticket := by
  have absent := Desk.fresh_absent _ steady.sound id fresh
  obtain ⟨cache, board, result, same, _⟩ := Scheduler.accept_cases round.scheduler request id now
    steady.sound.balanced.intact absent
  change ((round.scheduler.submit request id now).1.desk round.held [] []).Has ticket at carries
  unfold Scheduler.submit at carries
  cases valid : request.validate with
  | error error =>
      simp only [valid] at carries
      exact .inl carries
  | ok value =>
      by_cases opened : round.scheduler.isOpen = true
      · simp only [valid, if_pos opened, same] at carries
        cases result with
        | error error => exact .inl carries
        | ok made =>
            rcases carries with queued | rest
            · have member : ticket ∈ round.held ++ (round.scheduler.queued ++ [made]) := by
                have last := Scheduler.queued_append round.scheduler.inbox [made]
                exact last ▸ queued
              rw [← List.append_assoc] at member
              rcases List.mem_append.mp member with earlier | last
              · exact .inl (.inl earlier)
              · rw [List.mem_singleton.mp last, same]
                exact .inr ⟨rfl, rfl⟩
            · exact .inl (.inr rest)
      · simp only [valid, if_neg opened] at carries
        exact .inl carries

theorem carried_accept (steady : round.Steady used) (id : TaskId) (fresh : id ∉ used)
    (ticket : Ticket) (carries : (round.perform now (.accept id)).Carries ticket) :
    round.Carries ticket ∨
      ∃ due ∈ round.due, (round.scheduler.accept due.request id now).2 = .ok ticket := by
  change (round.accept id now).Carries ticket at carries
  cases hand : round.hand with
  | some fire =>
      simp only [accept, hand] at carries
      exact .inl carries
  | none =>
      cases left : round.due with
      | nil =>
          simp only [accept, hand, left] at carries
          exact .inl carries
      | cons due rest =>
          have absent := Desk.fresh_absent _ steady.sound id fresh
          obtain ⟨cache, board, result, same, _⟩ := Scheduler.accept_cases round.scheduler
            due.request id now steady.sound.balanced.intact absent
          simp only [accept, hand, left, same] at carries
          rcases carries with queued | others
          · rcases List.mem_append.mp queued with made | before
            · refine .inr ⟨due, List.mem_cons_self, ?_⟩
              rw [same]
              cases result with
              | ok ticket => rw [List.mem_singleton.mp made]
              | error error => cases made
            · exact .inl (.inl (List.mem_append_right _ before))
          · exact .inl (.inr others)

structure Checked : Prop where
  limit : Span.Positive round.scheduler.settings.defaultTimeout
  table : round.board.jobs.Pledged
  due : ∀ due ∈ round.due, due.request.Vetted
  hand : ∀ fire, round.hand = some fire → ∀ task reference,
    fire.result ≠ .error (.resolution task (.malformedReference reference))
  timed : ∀ ticket, round.Carries ticket → Span.Positive ticket.assignment.timeout

section Perform

variable {round} (checked : round.Checked)

include checked

theorem checked_due (step : Step) : ∀ due ∈ (round.perform now step).due, due.request.Vetted := by
  cases step with
  | move move =>
      have same : (round.perform now (.move move)).due = round.due := by
        rw [perform, act]
        split <;> rfl
      rw [same]
      exact checked.due
  | take =>
      change ∀ due ∈ (round.act now .take).due, due.request.Vetted
      rw [act]
      split
      · intro due member
        obtain ⟨definition, valid, _, same⟩ :=
          JobTable.due_pledged round.board.jobs checked.table now round.board.isActive due member
        exact same ▸ (definition.validate_iff.mp valid).2
      · exact checked.due
  | accept id =>
      change ∀ due ∈ (round.accept id now).due, due.request.Vetted
      unfold accept
      split
      · rename_i left
        exact fun due member => checked.due due (left ▸ List.mem_cons_of_mem _ member)
      · exact checked.due
  | settle =>
      change ∀ due ∈ (round.settle now).due, due.request.Vetted
      unfold settle
      split <;> exact checked.due

theorem checked_hand (step : Step) (fire : Fire) (held : (round.perform now step).hand = some fire)
    (task : TaskId) (reference : String) :
    fire.result ≠ .error (.resolution task (.malformedReference reference)) := by
  cases step with
  | move move =>
      have same : (round.perform now (.move move)).hand = round.hand := by
        rw [perform, act]
        split <;> rfl
      exact checked.hand fire (same ▸ held) task reference
  | take =>
      have same : (round.act now .take).hand = round.hand := by
        rw [act]
        split <;> rfl
      exact checked.hand fire (same ▸ held) task reference
  | accept id =>
      change (round.accept id now).hand = some fire at held
      unfold accept at held
      split at held
      · rename_i due rest _ left
        have vetted := checked.due due (left ▸ List.mem_cons_self)
        cases held
        exact Scheduler.accept_wellformed round.scheduler due.request id now vetted task reference
      · exact checked.hand fire held task reference
  | settle =>
      change (round.settle now).hand = some fire at held
      unfold settle at held
      split at held
      · cases held
      · exact checked.hand fire held task reference

theorem checked_timed (steady : round.Steady used) (step : Step) (fresh : ∀ id ∈ step.ids, id ∉ used)
    (ticket : Ticket) (carries : (round.perform now step).Carries ticket) :
    Span.Positive ticket.assignment.timeout := by
  have resting (idle : step.ids = []) : Span.Positive ticket.assignment.timeout :=
    checked.timed ticket (carried_before round used now steady step idle ticket carries)
  cases step with
  | move move =>
      by_cases submission : ∃ request id, move = .submit request id
      · obtain ⟨request, id, rfl⟩ := submission
        rcases carried_submit round used now steady request id (fresh id (by simp [Step.ids])) ticket
          carries with before | ⟨valid, accepted⟩
        · exact checked.timed ticket before
        · exact Scheduler.accept_positive _ request id now valid checked.limit ticket accepted
      · exact resting (move_ids move fun request id same => submission ⟨request, id, same⟩)
  | take | settle => exact resting rfl
  | accept id =>
      rcases carried_accept round used now steady id (fresh id (by simp [Step.ids])) ticket carries
        with before | ⟨due, waits, accepted⟩
      · exact checked.timed ticket before
      · exact Scheduler.accept_positive _ due.request id now (checked.due due waits).valid
          checked.limit ticket accepted

theorem checked_perform (steady : round.Steady used) (step : Step)
    (fresh : ∀ id ∈ step.ids, id ∉ used) : (round.perform now step).Checked where
  limit := by
    rw [(setup_perform round now step).settings]
    exact checked.limit
  table := JobTable.edit_pledged _ _ checked.table (jobs_perform round used now steady step fresh)
  due := checked_due now checked step
  hand := checked_hand now checked step
  timed := checked_timed used now checked steady step fresh

end Perform

end Steps

theorem checked_new (settings : Settings) (registry : Registry Callable) (cores : Nat)
    (scheduler : Scheduler) (built : Scheduler.new settings registry cores = .ok scheduler) :
    (ofScheduler scheduler).Checked := by
  have valid : settings.validate = .ok () := by
    rw [Scheduler.new] at built
    split at built
    · cases built
    · assumption
  rw [Scheduler.new_cases settings registry cores scheduler built]
  refine ⟨Settings.valid_positive settings valid, ?_, ?_, ?_, ?_⟩
  · exact fun job member => absurd member List.not_mem_nil
  · exact fun due member => absurd member List.not_mem_nil
  · intro fire held
    cases held
  · rintro ticket (member | member | member) <;> cases member

theorem checked_run (settings : Settings) (registry : Registry Callable) (cores : Nat)
    (scheduler : Scheduler) (built : Scheduler.new settings registry cores = .ok scheduler)
    (history : List (Instant × Step)) (fresh : Fresh history) :
    ((ofScheduler scheduler).run history).Checked := by
  refine (run_keeps (fun round _ _ => round.Checked) ?_ (ofScheduler scheduler) []
    (steady_new settings registry cores scheduler built) history fresh
    (checked_new settings registry cores scheduler built)).2
  exact fun round used steady entry rest unused checked =>
    checked_perform used entry.1 checked steady entry.2 unused

end Round

end Foreman
