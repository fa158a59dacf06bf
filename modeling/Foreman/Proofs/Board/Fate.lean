import Foreman.Proofs.Board.Balance

set_option autoImplicit false

namespace Foreman.Board

def Advances (mayStart : Prop) (record later : TaskRecord) : Prop :=
  later = record ∨
    (record.state.isTerminal = false ∧ later.state.isTerminal = true) ∨
    (mayStart ∧ record.state = .pending ∧ later.state = .running)

theorem advances_trans (mayStart : Prop) (record between last : TaskRecord)
    (first : Advances mayStart record between) (second : Advances mayStart between last) :
    Advances mayStart record last := by
  rcases first with rfl | ⟨active, ended⟩ | ⟨may, waits, runs⟩
  · exact second
  · rcases second with rfl | ⟨still, _⟩ | ⟨_, waits, _⟩
    · exact .inr (.inl ⟨active, ended⟩)
    · rw [ended] at still
      cases still
    · rw [waits] at ended
      cases ended
  · rcases second with rfl | ⟨_, ended⟩ | ⟨_, waitsAgain, _⟩
    · exact .inr (.inr ⟨may, waits, runs⟩)
    · exact .inr (.inl ⟨by rw [waits]; rfl, ended⟩)
    · rw [runs] at waitsAgain
      cases waitsAgain

theorem stored_same (board : Board) (record : TaskRecord)
    (absent : board.store.find? record.id = none) :
    (board.stored record).find? record.id = some record :=
  (Store.find_append board.store record record.id absent).trans (if_pos rfl)

theorem stored_other (board : Board) (record : TaskRecord)
    (absent : board.store.find? record.id = none) (id : TaskId) (different : record.id ≠ id) :
    (board.stored record).find? id = board.store.find? id :=
  (Store.find_append board.store record id absent).trans (if_neg different)

theorem moved_found (board : Board) (record : TaskRecord)
    (found : board.store.find? record.id = some record) (reference : String) (next : TaskState)
    (outcome : Option Outcome) (now : Instant) (id : TaskId) :
    (board.moved record reference next outcome now).store.find? id =
      if record.id = id then some (record.moved next outcome now) else board.store.find? id := by
  rw [moved_store]
  by_cases same : record.id = id
  · subst same
    rw [if_pos rfl]
    exact Store.find_update_same board.store (record.moved next outcome now) record found
  · rw [if_neg same]
    exact Store.find_update_other board.store (record.moved next outcome now) id (Ne.symm same)

-- A task keeps its kind for good.
def Descends (mayStart : Prop) (record later : TaskRecord) : Prop :=
  Advances mayStart record later ∧ later.kind = record.kind

theorem descends_refl (mayStart : Prop) (record : TaskRecord) : Descends mayStart record record :=
  ⟨.inl rfl, rfl⟩

theorem descends_trans (mayStart : Prop) (record between last : TaskRecord)
    (first : Descends mayStart record between) (second : Descends mayStart between last) :
    Descends mayStart record last :=
  ⟨advances_trans mayStart record between last first.1 second.1, second.2.trans first.2⟩

theorem descends_mono (mayStart wider : Prop) (record later : TaskRecord)
    (descends : Descends mayStart record later) (wide : mayStart → wider) :
    Descends wider record later := by
  refine ⟨?_, descends.2⟩
  rcases descends.1 with same | ends | ⟨may, starts⟩
  · exact .inl same
  · exact .inr (.inl ends)
  · exact .inr (.inr ⟨wide may, starts⟩)

theorem change_descends (board other : Board) (effect : Effect) (change : Change board effect other)
    (id : TaskId) (later : TaskRecord) (known : effect ≠ .entered id)
    (found : other.store.find? id = some later) :
    ∃ record, board.store.find? id = some record ∧
      Descends (effect = .started id) record later := by
  have unchanged (same : board.store.find? id = some later) :
      ∃ record, board.store.find? id = some record ∧
        Descends (effect = .started id) record later := ⟨later, same, descends_refl _ later⟩
  cases change with
  | aside _ store tokens waiting pending running jobs => exact unchanged (store ▸ found)
  | cancelled token bound unheld => exact unchanged found
  | planned jobs => exact unchanged found
  | enrolled assignment now absent =>
      have different : assignment.id ≠ id := fun same => known (same ▸ rfl)
      have before := stored_other board (TaskRecord.pending assignment) absent id different
      exact unchanged (before ▸ found)
  | rejected record absent failed =>
      have different : record.id ≠ id := fun same => known (same ▸ rfl)
      have before := stored_other board record absent id different
      exact unchanged (before ▸ found)
  | started record reference now stored waits =>
      rw [moved_found board record stored] at found
      by_cases same : record.id = id
      · subst same
        rw [if_pos rfl, Option.some.injEq] at found
        subst found
        exact ⟨record, stored, .inr (.inr ⟨rfl, waits, rfl⟩), rfl⟩
      · rw [if_neg same] at found
        exact unchanged found
  | ended record reference next outcome now stored active terminal =>
      rw [moved_found board record stored] at found
      by_cases same : record.id = id
      · subst same
        rw [if_pos rfl, Option.some.injEq] at found
        subst found
        exact ⟨record, stored, .inr (.inl ⟨active, terminal⟩), rfl⟩
      · rw [if_neg same] at found
        exact unchanged found
  | removed record stored terminal =>
      by_cases same : id = record.id
      · subst same
        have gone := Store.find_remove_same board.store record.id
        exact absurd (gone.symm.trans found) (by simp)
      · exact unchanged ((Store.find_remove_other board.store record.id id same) ▸ found)

theorem evolves_descends {allowed : Effect → Prop} (board last : Board)
    (evolves : Evolves allowed board last) (id : TaskId) (known : ¬ allowed (.entered id))
    (later : TaskRecord) (found : last.store.find? id = some later) :
    ∃ record, board.store.find? id = some record ∧
      Descends (allowed (.started id)) record later := by
  induction evolves generalizing later with
  | refl => exact ⟨later, found, descends_refl _ later⟩
  | step between last effect earlier ok change ih =>
      have notEntered : effect ≠ .entered id := fun same => known (same ▸ ok)
      obtain ⟨middle, stored, second⟩ :=
        change_descends between last effect change id later notEntered found
      obtain ⟨record, first, descends⟩ := ih middle stored
      have permitted := descends_mono _ (allowed (.started id)) middle later second
        fun started => started ▸ ok
      exact ⟨record, first, descends_trans _ record middle later descends permitted⟩

theorem evolves_found {allowed : Effect → Prop} (board last : Board)
    (evolves : Evolves allowed board last) (id : TaskId) (known : ¬ allowed (.entered id))
    (later : TaskRecord) (found : last.store.find? id = some later) :
    ∃ record, board.store.find? id = some record ∧
      Advances (allowed (.started id)) record later := by
  obtain ⟨record, before, descends⟩ := evolves_descends board last evolves id known later found
  exact ⟨record, before, descends.1⟩

theorem change_final (board other : Board) (effect : Effect) (change : Change board effect other)
    (id : TaskId) (record : TaskRecord) (kept : effect ≠ .removed id)
    (found : board.store.find? id = some record) (final : record.state.isTerminal = true) :
    other.store.find? id = some record := by
  cases change with
  | aside _ store tokens waiting pending running jobs => exact store ▸ found
  | cancelled token bound unheld => exact found
  | planned jobs => exact found
  | enrolled assignment now absent =>
      have different : assignment.id ≠ id := by
        rintro rfl
        rw [absent] at found
        cases found
      have after := stored_other board (TaskRecord.pending assignment) absent id different
      exact after.trans found
  | rejected fresh absent failed =>
      have different : fresh.id ≠ id := by
        rintro rfl
        rw [absent] at found
        cases found
      have after := stored_other board fresh absent id different
      exact after.trans found
  | started moving reference now stored waits =>
      have different : moving.id ≠ id := by
        rintro rfl
        rw [stored, Option.some.injEq] at found
        rw [← found, waits] at final
        cases final
      rw [moved_found board moving stored, if_neg different]
      exact found
  | ended moving reference next outcome now stored active terminal =>
      have different : moving.id ≠ id := by
        rintro rfl
        rw [stored, Option.some.injEq] at found
        rw [← found, active] at final
        cases final
      rw [moved_found board moving stored, if_neg different]
      exact found
  | removed leaving stored terminal =>
      have different : id ≠ leaving.id := fun same => kept (same ▸ rfl)
      exact (Store.find_remove_other board.store leaving.id id different).trans found

theorem evolves_final {allowed : Effect → Prop} (board last : Board)
    (evolves : Evolves allowed board last) (id : TaskId) (kept : ¬ allowed (.removed id))
    (record : TaskRecord) (found : board.store.find? id = some record)
    (final : record.state.isTerminal = true) : last.store.find? id = some record := by
  induction evolves with
  | refl => exact found
  | step between last effect _ ok change ih =>
      exact change_final between last effect change id record (fun same => kept (same ▸ ok)) ih final

theorem evolves_tokens {allowed : Effect → Prop} (board last : Board)
    (evolves : Evolves allowed board last) (closed : ∀ id, ¬ allowed (.entered id)) :
    last.tokens.fresh = board.tokens.fresh ∧
      ∀ pair ∈ last.tokens.held, pair ∈ board.tokens.held := by
  induction evolves with
  | refl => exact ⟨rfl, fun pair member => member⟩
  | step between last effect _ ok change ih =>
      have same : last.tokens.fresh = between.tokens.fresh ∧
          ∀ pair ∈ last.tokens.held, pair ∈ between.tokens.held := by
        cases change with
        | aside _ store tokens waiting pending running jobs =>
            rw [tokens]
            exact ⟨rfl, fun pair member => member⟩
        | cancelled token bound unheld =>
            obtain ⟨held, fresh⟩ := Tokens.cancel_held between.tokens token
            refine ⟨fresh, fun pair member => ?_⟩
            rw [cancelToken, held] at member
            exact member
        | planned jobs => exact ⟨rfl, fun pair member => member⟩
        | enrolled assignment now absent => exact absurd ok (closed assignment.id)
        | rejected record absent failed => exact absurd ok (closed record.id)
        | started record reference now stored waits =>
            rw [moved_tokens]
            exact ⟨rfl, fun pair member => member⟩
        | ended record reference next outcome now stored active terminal =>
            rw [moved_tokens, if_pos terminal]
            exact ⟨rfl, fun pair member => (Tokens.remove_subset _ _ pair member).1⟩
        | removed record stored terminal => exact ⟨rfl, fun pair member => member⟩
      exact ⟨same.1.trans ih.1, fun pair member => ih.2 pair (same.2 pair member)⟩

theorem evolves_cancelled {allowed : Effect → Prop} (board last : Board)
    (evolves : Evolves allowed board last) (token : Nat) (cancelled : token ∈ board.tokens.cancelled) :
    token ∈ last.tokens.cancelled := by
  induction evolves with
  | refl => exact cancelled
  | step between last effect _ ok change ih =>
      cases change with
      | aside _ store tokens waiting pending running jobs => exact tokens ▸ ih
      | cancelled other bound unheld =>
          exact (Tokens.cancel_cancelled between.tokens other token).mpr (.inl ih)
      | started record reference now stored waits =>
          rw [moved_tokens]
          exact ih
      | ended record reference next outcome now stored active terminal =>
          rw [moved_tokens, if_pos terminal]
          exact ih
      | planned _ | enrolled _ _ _ | rejected _ _ _ | removed _ _ _ => exact ih

theorem evolves_jobs {allowed : Effect → Prop} (board last : Board)
    (evolves : Evolves allowed board last) (unplanned : ¬ allowed .planned) :
    last.jobs = board.jobs := by
  induction evolves with
  | refl => rfl
  | step between last effect _ ok change ih =>
      rw [← ih]
      cases change with
      | aside _ store tokens waiting pending running jobs => exact jobs
      | cancelled token bound unheld => rfl
      | planned jobs => exact absurd ok unplanned
      | enrolled assignment now absent => rfl
      | rejected record absent failed => rfl
      | started record reference now stored waits => rw [moved_jobs]
      | ended record reference next outcome now stored active terminal => rw [moved_jobs]
      | removed record stored terminal => rfl

end Foreman.Board
