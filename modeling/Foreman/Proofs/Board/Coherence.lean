import Foreman.Proofs.Board.Turn

set_option autoImplicit false

namespace Foreman

namespace Timestamp

-- The nanoseconds of a leap second come after those of the second it is stored with.
def fraction (stamp : Timestamp) : Nat :=
  stamp.time.subNanos + if stamp.leap then 1000000000 else 0

instance : LE Timestamp :=
  ⟨fun a b => a.time.seconds < b.time.seconds ∨
    a.time.seconds = b.time.seconds ∧ a.fraction ≤ b.fraction⟩

theorem stamp_refl (a : Timestamp) : a ≤ a := .inr ⟨rfl, Nat.le_refl _⟩

theorem stamp_trans (a b c : Timestamp) (first : a ≤ b) (second : b ≤ c) : a ≤ c := by
  change _ ∨ _ at first second ⊢
  omega

theorem of_instant_le (a b : Instant) : ofInstant a ≤ ofInstant b ↔ a ≤ b := by
  change (a.nanos / 1000000000 < b.nanos / 1000000000 ∨
    a.nanos / 1000000000 = b.nanos / 1000000000 ∧
      (a.nanos % 1000000000).toNat + 0 ≤ (b.nanos % 1000000000).toNat + 0) ↔ a.nanos ≤ b.nanos
  omega

end Timestamp

namespace TaskRecord

structure Coherent (record : TaskRecord) : Prop where
  decided : record.outcome.isSome = record.state.isTerminal
  success : record.state = .succeeded ↔ ∃ value, record.outcome = some (.success value)
  failure : record.state = .failed ∨ record.state = .timedOut ∨ record.state = .cancelled ↔
    ∃ reason, record.outcome = some (.failure reason)
  origin : ∀ reason, record.outcome = some (.failure reason) →
    (∀ kind, record.kind = some kind → reason.origin = kind.origin) ∧
      (reason.origin = .resolver ↔ record.kind = none)
  unresolved : record.kind = none → record.state = .failed ∧ record.startedAt = none
  begun : record.state = .running ∨ record.state = .succeeded → record.startedAt.isSome
  waits : record.state = .pending → record.startedAt = none
  finished : record.finishedAt.isSome = record.state.isTerminal
  starts : ∀ start ∈ record.startedAt, record.submittedAt ≤ start
  ends : ∀ last ∈ record.finishedAt, record.submittedAt ≤ last
  lasts : ∀ start ∈ record.startedAt, ∀ last ∈ record.finishedAt, start ≤ last

-- Nothing about the record is in the future.
structure Dated (record : TaskRecord) (now : Instant) : Prop where
  submitted : record.submittedAt ≤ Timestamp.ofInstant now
  started : ∀ start ∈ record.startedAt, start ≤ Timestamp.ofInstant now
  finished : ∀ last ∈ record.finishedAt, last ≤ Timestamp.ofInstant now

theorem dated_later (record : TaskRecord) (earlier now : Instant) (dated : record.Dated earlier)
    (onward : earlier ≤ now) : record.Dated now := by
  have passed : Timestamp.ofInstant earlier ≤ Timestamp.ofInstant now :=
    (Timestamp.of_instant_le earlier now).mpr onward
  exact ⟨Timestamp.stamp_trans _ _ _ dated.submitted passed,
    fun start begun => Timestamp.stamp_trans _ _ _ (dated.started start begun) passed,
    fun last ended => Timestamp.stamp_trans _ _ _ (dated.finished last ended) passed⟩

end TaskRecord

namespace Board

inductive Decides (record : TaskRecord) : TaskState → Outcome → Prop where
  | success (value : Json) (begun : record.startedAt.isSome) :
      Decides record .succeeded (.success value)
  | failure (state : TaskState) (reason : Failure) (terminal : state.isTerminal = true)
      (unsuccessful : state ≠ .succeeded) (origin : reason.origin = originOf record) :
      Decides record state (.failure reason)

theorem unsuccessful_ends (state : TaskState) (terminal : state.isTerminal = true)
    (unsuccessful : state ≠ .succeeded) :
    state = .failed ∨ state = .timedOut ∨ state = .cancelled := by
  cases state with
  | pending | running => cases terminal
  | succeeded => exact absurd rfl unsuccessful
  | failed => exact .inl rfl
  | timedOut => exact .inr (.inl rfl)
  | cancelled => exact .inr (.inr rfl)

section Records

variable (now : Instant)

theorem pending_coherent (assignment : Assignment) (stamped : assignment.submittedAt = now) :
    (TaskRecord.pending assignment).Coherent ∧ (TaskRecord.pending assignment).Dated now := by
  refine ⟨⟨rfl, ?_, ?_, ?_, ?_, ?_, fun _ => rfl, rfl, ?_, ?_, ?_⟩, ?_, ?_, ?_⟩
  · simp [TaskRecord.pending]
  · simp [TaskRecord.pending]
  · simp [TaskRecord.pending]
  · simp [TaskRecord.pending]
  · simp [TaskRecord.pending]
  · simp [TaskRecord.pending]
  · simp [TaskRecord.pending]
  · simp [TaskRecord.pending]
  · rw [← stamped]
    exact Timestamp.stamp_refl _
  · simp [TaskRecord.pending]
  · simp [TaskRecord.pending]

theorem refusal_coherent (id : TaskId) (reference : String) (cause : ResolutionError) :
    (refusal id reference cause now).Coherent ∧ (refusal id reference cause now).Dated now := by
  refine ⟨⟨rfl, ?_, ?_, ?_, ?_, ?_, fun _ => rfl, rfl, ?_, ?_, ?_⟩, Timestamp.stamp_refl _, ?_, ?_⟩
  · simp [refusal, TaskRecord.unresolved]
  · simp [refusal, TaskRecord.unresolved]
  · simp [refusal, TaskRecord.unresolved, Failure.new]
  · simp [refusal, TaskRecord.unresolved]
  · simp [refusal, TaskRecord.unresolved]
  · simp [refusal, TaskRecord.unresolved]
  · rintro last ⟨⟩
    exact Timestamp.stamp_refl _
  · simp [refusal, TaskRecord.unresolved]
  · simp [refusal, TaskRecord.unresolved]
  · rintro last ⟨⟩
    exact Timestamp.stamp_refl _

variable (record : TaskRecord)

theorem active_kind (coherent : record.Coherent) (active : record.state.isTerminal = false) :
    ∃ kind, record.kind = some kind := by
  cases known : record.kind with
  | some kind => exact ⟨kind, rfl⟩
  | none =>
      rw [(coherent.unresolved known).1] at active
      cases active

theorem active_unfinished (coherent : record.Coherent) (active : record.state.isTerminal = false) :
    record.finishedAt = none := by
  have finished := coherent.finished
  rw [active] at finished
  simpa using finished

theorem active_undecided (coherent : record.Coherent) (active : record.state.isTerminal = false) :
    record.outcome = none := by
  have decided := coherent.decided
  rw [active] at decided
  simpa using decided

theorem started_coherent (coherent : record.Coherent) (dated : record.Dated now)
    (waits : record.state = .pending) :
    (record.moved .running none now).Coherent ∧ (record.moved .running none now).Dated now := by
  have active : record.state.isTerminal = false := by rw [waits]; rfl
  obtain ⟨kind, known⟩ := active_kind record coherent active
  have unfinished := active_unfinished record coherent active
  have undecided := active_undecided record coherent active
  have moved : record.moved .running none now =
      { record with state := .running, startedAt := some now } := by
    simp [TaskRecord.moved, undecided, unfinished, TaskState.isTerminal]
  rw [moved]
  refine ⟨⟨?_, ?_, ?_, ?_, ?_, fun _ => rfl, ?_, ?_, ?_, ?_, ?_⟩, dated.submitted, ?_, ?_⟩
  · simp [undecided, TaskState.isTerminal]
  · simp [undecided]
  · simp [undecided]
  · simp [undecided]
  · simp [known]
  · simp
  · simp [unfinished, TaskState.isTerminal]
  · rintro start ⟨⟩
    exact dated.submitted
  · simp [unfinished]
  · simp [unfinished]
  · rintro start ⟨⟩
    exact Timestamp.stamp_refl _
  · simp [unfinished]

theorem ended_coherent (coherent : record.Coherent) (dated : record.Dated now)
    (active : record.state.isTerminal = false) (next : TaskState) (outcome : Outcome)
    (decides : Decides record next outcome) :
    (record.moved next (some outcome) now).Coherent ∧
      (record.moved next (some outcome) now).Dated now := by
  obtain ⟨kind, known⟩ := active_kind record coherent active
  have undecided := active_undecided record coherent active
  have terminal : next.isTerminal = true := by
    cases decides with
    | success _ _ => rfl
    | failure _ _ terminal _ _ => exact terminal
  have moved : record.moved next (some outcome) now =
      { record with state := next, finishedAt := some now, outcome := some outcome } := by
    have resting : next ≠ .running := by
      rintro rfl
      cases terminal
    simp [TaskRecord.moved, undecided, terminal, resting]
  rw [moved]
  refine ⟨⟨terminal.symm, ?_, ?_, ?_, ?_, ?_, ?_, terminal.symm, coherent.starts, ?_, ?_⟩,
    dated.submitted, dated.started, ?_⟩
  · cases decides with
    | success value begun => simp
    | failure state reason _ unsuccessful _ => simpa using unsuccessful
  · cases decides with
    | success value begun => simp
    | failure state reason terminal unsuccessful _ =>
        exact ⟨fun _ => ⟨reason, rfl⟩,
          fun _ => unsuccessful_ends next terminal unsuccessful⟩
  · rintro reason ⟨⟩
    cases decides with
    | failure _ _ _ _ origin =>
        have same : reason.origin = kind.origin := by
          rw [origin, originOf, known]
        refine ⟨fun other shown => ?_, ?_⟩
        · rw [known, Option.some.injEq] at shown
          exact shown ▸ same
        · rw [same, known]
          cases kind <;> simp [Kind.origin]
  · simp [known]
  · rintro (rfl | rfl)
    · cases terminal
    · cases decides with
      | success value begun => exact begun
      | failure _ _ _ unsuccessful _ => exact absurd rfl unsuccessful
  · rintro rfl
    cases terminal
  · rintro last ⟨⟩
    exact dated.submitted
  · rintro start begun last ⟨⟩
    exact dated.started start begun
  · rintro last ⟨⟩
    exact Timestamp.stamp_refl _

end Records

-- Cancellations suit every record by themselves, while a finish has to be right.
theorem turn_coherent (now : Instant) (id : TaskId) (call : Call) (before after : Option TaskRecord)
    (added : List Event) (turn : Turn now id call before after added)
    (timely : ∀ assignment capacity, call = .enroll assignment capacity →
      assignment.submittedAt = now)
    (apt : ∀ assignment state outcome, call = .finish assignment state outcome →
      ∀ record, before = some record → assignment.id = record.id →
        record.state.isTerminal = false → Decides record state outcome)
    (coherent : ∀ record, before = some record → record.Coherent ∧ record.Dated now) :
    ∀ record, after = some record → record.Coherent ∧ record.Dated now := by
  intro later stored
  cases turn with
  | kept _ _ => exact coherent later stored
  | enrolled assignment capacity named =>
      cases stored
      exact pending_coherent now assignment (timely assignment capacity rfl)
  | rejected reference cause =>
      cases stored
      exact refusal_coherent now id reference cause
  | started assignment record named waits _ =>
      cases stored
      obtain ⟨sound, dated⟩ := coherent record rfl
      exact started_coherent now record sound dated waits
  | ended _ record reference next outcome closes active _ _ =>
      cases stored
      obtain ⟨sound, dated⟩ := coherent record rfl
      have decides : Decides record next outcome := by
        cases closes with
        | finished assignment state outcome named =>
            exact apt assignment next outcome rfl record rfl named active
        | cancelled awaited => exact .failure .cancelled _ rfl (by simp) rfl
        | swept reason => exact .failure .cancelled _ rfl (by simp) rfl
      exact ended_coherent now record sound dated active next outcome decides
  | evicted _ _ => cases stored

theorem coherent_result (board : Board) (intact : board.store.Intact) (id : TaskId)
    (record : TaskRecord) (found : board.store.find? id = some record) (coherent : record.Coherent)
    (terminal : record.state.isTerminal = true) :
    ∃ outcome, record.outcome = some outcome ∧ ∀ now, board.result id now = .ok outcome := by
  obtain ⟨outcome, decided⟩ := Option.isSome_iff_exists.mp (coherent.decided.trans terminal)
  refine ⟨outcome, decided, fun now => ?_⟩
  rw [result, finished, record_found board intact id record found]
  simp only [terminal, if_true]
  exact congrArg Except.ok (by simp only [outcomeOf, decided])

end Board

end Foreman
