import Foreman.Proofs.Registry.Cache
import Foreman.Proofs.Scheduler.Admission
import Foreman.Proofs.Scheduler.Upkeep

set_option autoImplicit false

namespace Foreman

def Taken : Except SchedulerError TaskId → Prop
  | .ok _ => True
  | .error (.resolution _ _) => True
  | .error _ => False

namespace Scheduler

section Entry

variable (scheduler : Scheduler) (request : Request) (id : TaskId) (now : Instant)

inductive Entry : Scheduler → Prop where
  | failed (cause : ResolutionError)
      (unknown : (scheduler.resolved request.reference).2 = .error cause) :
      Entry { scheduler with
        cache := (scheduler.resolved request.reference).1
        shop := { scheduler.shop with
          board := (scheduler.board.reject id request.reference cause now).1 } }
  | admitted (callable : Callable) (assignment : Assignment)
      (known : (scheduler.resolved request.reference).2 = .ok callable)
      (made : assignment = scheduler.assigned request id callable now) :
      Entry { scheduler with
        cache := (scheduler.resolved request.reference).1
        shop := { scheduler.shop with
          board := scheduler.board.enrolled assignment (scheduler.board.stored (.pending assignment))
            (scheduler.board.tokens.issue id).1 now }
        inbox := scheduler.inbox ++
          [.dispatch ⟨assignment, callable, scheduler.board.tokens.fresh⟩] }

theorem accept_known (intact : scheduler.board.store.Intact) (record : TaskRecord)
    (found : scheduler.board.store.find? id = some record) :
    ∃ error, (scheduler.accept request id now).2 = .error error ∧
      ∀ task cause, error ≠ .resolution task cause := by
  unfold accept
  cases resolved : scheduler.cache.resolve scheduler.registry.resolve request.reference with
  | mk cache answer =>
      cases answer with
      | error cause =>
          have refused := Store.insert_known scheduler.board.store intact
            (Board.refusal id request.reference cause now) record found
          refine ⟨.store (.duplicate id), ?_, by simp⟩
          simp only [board, Board.reject] at refused ⊢
          rw [Board.refusal] at refused
          simp only [refused]
          rfl
      | ok callable =>
          let wanted := request.orTimeout scheduler.settings.defaultTimeout
          let assignment := Assignment.ofRequest wanted id callable.kind now
          have refused := Store.insert_known scheduler.board.store intact
            (TaskRecord.pending assignment) record found
          cases full : scheduler.board.isFull scheduler.settings.queueCapacity with
          | true =>
              refine ⟨.queueFull (scheduler.settings.queueCapacity.getD 0), ?_, by simp⟩
              simp only [board] at full
              simp only [Workshop.enroll, Board.enroll, full, if_true]
          | false =>
              refine ⟨.store (.duplicate id), ?_, by simp⟩
              simp only [board, assignment, wanted] at full refused
              simp only [Workshop.enroll, Board.enroll, full, refused, Bool.false_eq_true, if_false]
              rfl

theorem invalid_untaken (error : SchedulerError) (invalid : request.validate = .error error) :
    ¬ Taken (.error error) := by
  unfold Request.validate at invalid
  split at invalid
  · cases invalid
    exact id
  · split at invalid
    · cases invalid
      exact id
    · cases invalid

theorem submit_entry (intact : scheduler.board.store.Intact)
    (taken : Taken (scheduler.submit request id now).2) :
    scheduler.board.store.find? id = none ∧
      Entry scheduler request id now (scheduler.submit request id now).1 ∧
      ((scheduler.submit request id now).2 = .ok id ∨
        ∃ cause, (scheduler.submit request id now).2 = .error (.resolution id cause)) := by
  unfold submit at taken ⊢
  cases valid : request.validate with
  | error error =>
      simp only [valid] at taken
      exact absurd taken (invalid_untaken request error valid)
  | ok value =>
      by_cases opened : scheduler.isOpen = true
      · simp only [valid, if_pos opened] at taken ⊢
        cases found : scheduler.board.store.find? id with
        | some record =>
            obtain ⟨error, refused, unlike⟩ := accept_known scheduler request id now intact record found
            cases answer : scheduler.accept request id now with
            | mk next result =>
                rw [answer] at refused
                cases refused
                simp only [answer] at taken
                cases error with
                | resolution task cause => exact absurd rfl (unlike task cause)
                | _ => exact taken.elim
        | none =>
            refine ⟨rfl, ?_⟩
            cases known : (scheduler.resolved request.reference).2 with
            | error cause =>
                have done := accept_unresolved scheduler request id now cause known intact found
                simp only [done]
                exact ⟨.failed cause known, .inr ⟨cause, rfl⟩⟩
            | ok callable =>
                cases full : scheduler.board.isFull scheduler.settings.queueCapacity with
                | true =>
                    have done := accept_full scheduler request id now callable known full
                    simp only [done] at taken
                    exact taken.elim
                | false =>
                    have done := accept_free scheduler request id now callable known intact found full
                    simp only [done]
                    exact ⟨.admitted callable _ known rfl, .inl trivial⟩
      · simp only [valid, if_neg opened] at taken
        exact taken.elim

theorem resolved_flows (flows : scheduler.Flows) (reference : String) :
    (∀ callable, (scheduler.resolved reference).2 = .ok callable → callable.Flows) ∧
      ∀ other callable, (scheduler.resolved reference).1.find? other = some callable →
        callable.Flows := by
  constructor
  · intro callable answered
    rcases ResolverCache.resolve_answer _ _ reference callable answered with known | resolves
    · exact flows.cache reference callable known
    · exact flows.registry reference callable resolves
  · intro other callable known
    rcases ResolverCache.resolve_origin _ _ reference other callable known with before | resolves
    · exact flows.cache other callable before
    · exact flows.registry other callable resolves

section Keeps

variable (next : Scheduler) (entry : Entry scheduler request id now next)

include entry

theorem entry_bears (apart : scheduler.Apart) (token : Nat) :
    next.bears token ≤ scheduler.bears token ∧ next.keeps token ≤ scheduler.keeps token ∨
      token = scheduler.board.tokens.fresh ∧ token < next.board.tokens.fresh ∧
        next.bears token ≤ 1 ∧ next.keeps token ≤ 1 := by
  cases entry with
  | failed cause unknown => exact .inl ⟨Nat.le_refl _, Nat.le_refl _⟩
  | admitted callable assignment known made =>
      let ticket : Ticket := ⟨assignment, callable, scheduler.board.tokens.fresh⟩
      let queue := (scheduler.inbox ++ [Command.dispatch ticket]).filterMap Command.ticket?
      have queued : queue = scheduler.queued ++ [ticket] := queued_append scheduler.inbox [ticket]
      have added := Ticket.bearers_append token scheduler.queued [ticket]
      rw [← queued] at added
      by_cases own : token = scheduler.board.tokens.fresh
      · obtain ⟨unborne, unkept⟩ := apart.unborne token (Nat.le_of_eq own.symm)
        have one : Ticket.bearers token [ticket] ≤ 1 := List.countP_le_length
        refine .inr ⟨own, Nat.lt_succ_of_le (Nat.le_of_eq own), ?_, ?_⟩
        · change Ticket.bearers token queue + scheduler.shop.bears token ≤ 1
          rw [bears] at unborne
          omega
        · change Ticket.bearers token queue + Ticket.bearers token scheduler.watched ≤ 1
          rw [keeps] at unkept
          omega
      · have none : Ticket.bearers token [ticket] = 0 := by
          simp [Ticket.bearers, ticket, Ne.symm own]
        rw [none, Nat.add_zero] at added
        refine .inl ⟨?_, ?_⟩
        · exact Nat.add_le_add_right (Nat.le_of_eq added) _
        · exact Nat.add_le_add_right (Nat.le_of_eq added) _

theorem entry_apart (apart : scheduler.Apart)
    (fresh : scheduler.board.tokens.fresh ≤ next.board.tokens.fresh) : next.Apart := by
  have each := entry_bears scheduler request id now next entry apart
  refine ⟨fun token => ?_, fun token => ?_, fun token new => ?_⟩
  · rcases each token with ⟨fewer, _⟩ | ⟨_, _, one, _⟩
    · exact Nat.le_trans fewer (apart.borne token)
    · exact one
  · rcases each token with ⟨_, fewer⟩ | ⟨_, _, _, one⟩
    · exact Nat.le_trans fewer (apart.kept token)
    · exact one
  · rcases each token with ⟨borne, kept⟩ | ⟨_, old, _, _⟩
    · obtain ⟨unborne, unkept⟩ := apart.unborne token (Nat.le_trans fresh new)
      exact ⟨Nat.le_zero.mp (unborne ▸ borne), Nat.le_zero.mp (unkept ▸ kept)⟩
    · exact absurd new (Nat.not_le.mpr old)

theorem entry_flows (flows : scheduler.Flows) : next.Flows := by
  obtain ⟨resolves, cached⟩ := resolved_flows scheduler flows request.reference
  have aside (board : Board) : ({ scheduler.shop with board := board } : Workshop).Flows :=
    Workshop.flows_same scheduler.shop _ flows.shop rfl rfl
  cases entry with
  | failed cause unknown => exact ⟨flows.registry, cached, flows.queued, aside _⟩
  | admitted callable assignment known made =>
      refine ⟨flows.registry, cached, fun ticket member => ?_, aside _⟩
      let made : Ticket := ⟨assignment, callable, scheduler.board.tokens.fresh⟩
      have queued : (scheduler.inbox ++ [Command.dispatch made]).filterMap Command.ticket? =
          scheduler.queued ++ [made] := queued_append scheduler.inbox [made]
      rcases List.mem_append.mp (show ticket ∈ scheduler.queued ++ [made] from queued ▸ member) with
        before | last
      · exact flows.queued ticket before
      · rw [List.mem_singleton.mp last]
        exact resolves callable known

theorem entry_store (intact : scheduler.board.store.Intact)
    (absent : scheduler.board.store.find? id = none) :
    (∀ other, other ≠ id →
      next.board.store.find? other = scheduler.board.store.find? other) ∧
      ∃ record, next.board.store.find? id = some record ∧
        record.reference = request.reference := by
  cases entry with
  | failed cause unknown =>
      let record := Board.refusal id request.reference cause now
      have done := Board.reject_done scheduler.board id request.reference cause now intact absent
      have store : (scheduler.board.reject id request.reference cause now).1.store =
          scheduler.board.stored record := by
        rw [done]
        rfl
      refine ⟨fun other different => ?_, record, ?_, rfl⟩
      · exact (congrArg (Store.find? · other) store).trans
          (Board.stored_other scheduler.board record absent other (Ne.symm different))
      · exact (congrArg (Store.find? · id) store).trans
          (Board.stored_same scheduler.board record absent)
  | admitted callable assignment known made =>
      subst made
      let record := TaskRecord.pending (scheduler.assigned request id callable now)
      exact ⟨fun other different => Board.stored_other scheduler.board record absent other
        (Ne.symm different), record, Board.stored_same scheduler.board record absent, rfl⟩

theorem entry_minded (intact : scheduler.board.store.Intact)
    (absent : scheduler.board.store.find? id = none) (minded : scheduler.Minded)
    (told : ∀ token ∈ scheduler.board.tokens.cancelled, token ∈ next.board.tokens.cancelled) :
    next.Minded := by
  obtain ⟨others, _⟩ := entry_store scheduler request id now next entry intact absent
  have watched (watch : Watch) (member : watch ∈ scheduler.watches) :
      next.Told watch ∨ next.board.Active watch.ticket.id := by
    rcases minded.watched watch member with before | ⟨record, found, unended⟩
    · exact .inl (told _ before)
    · have different : watch.ticket.id ≠ id := fun same => by
        rw [same, absent] at found
        cases found
      exact .inr ⟨record, (others _ different).trans found, unended⟩
  cases entry with
  | failed cause unknown =>
      exact ⟨watched, fun closing watch member => told _ (minded.closing closing watch member),
        minded.cancelling⟩
  | admitted callable assignment known made =>
      refine ⟨watched, fun closing watch member => told _ (minded.closing closing watch member),
        fun member => ?_⟩
      rcases List.mem_append.mp member with before | last
      · exact minded.cancelling before
      · cases List.mem_singleton.mp last

end Keeps

end Entry

end Scheduler

end Foreman
