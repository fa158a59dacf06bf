import Foreman.Proofs.Board.Calls

set_option autoImplicit false

namespace Foreman.Board

def Swept (effect : Effect) : Prop := (∃ id, effect = .ended id) ∨ effect = .aside

section One

variable (board : Board) (reason : String) (now : Instant) (id : TaskId) (token count : Nat)

def abortion (reason : String) (record : TaskRecord) (now : Instant) : Outcome :=
  .failure (Failure.new reason (originOf record) now)

theorem cancel_one_absent (intact : board.store.Intact) (absent : board.store.find? id = none) :
    cancelOne reason now (board, count) (id, token) = (board, count) := by
  simp [cancelOne, Store.get_intact board.store intact, absent]

theorem cancel_one_active (intact : board.store.Intact) (record : TaskRecord)
    (found : board.store.find? id = some record) (active : record.state.isTerminal = false) :
    cancelOne reason now (board, count) (id, token) =
      ((board.moved record record.reference .cancelled (some (abortion reason record now)) now).cancelToken
        token, count + 1) := by
  have has := Store.find_has_id board.store id record found
  have won : board.transition id record.reference TaskState.active .cancelled
      (some (.failure (Failure.new reason (originOf record) now))) now =
        (board.moved record record.reference .cancelled (some (abortion reason record now)) now, true) := by
    rw [moved, has]
    exact transition_won board id record.reference TaskState.active .cancelled
      (some (abortion reason record now)) now intact record found active
      ((expected_active record.state).mpr active)
  simp only [cancelOne, Store.get_intact board.store intact, found, won, if_true]

theorem cancel_one_ended (intact : board.store.Intact) (record : TaskRecord)
    (found : board.store.find? id = some record) (ended : record.state.isTerminal = true) :
    cancelOne reason now (board, count) (id, token) = (board.cancelToken token, count) := by
  have lost : board.transition id record.reference TaskState.active .cancelled
      (some (.failure (Failure.new reason (originOf record) now))) now = (board, false) := by
    apply transition_lost board id record.reference TaskState.active .cancelled _ now intact
    intro other same
    rw [found, Option.some.injEq] at same
    exact .inl (same ▸ ended)
  simp only [cancelOne, Store.get_intact board.store intact, found, lost]
  rfl

theorem cancel_one_evolves (balanced : board.Balanced) (bound : token < board.tokens.fresh)
    (own : ∀ pair ∈ board.tokens.held, pair.2 = token → pair.1 = id) :
    Evolves Swept board (cancelOne reason now (board, count) (id, token)).1 := by
  cases found : board.store.find? id with
  | none =>
      rw [cancel_one_absent board reason now id token count balanced.intact found]
      exact .refl
  | some record =>
      have has := Store.find_has_id board.store id record found
      cases ended : record.state.isTerminal with
      | false =>
          rw [cancel_one_active board reason now id token count balanced.intact record found ended]
          rw [← has] at found own
          refine .step _ _ .aside (evolves_one _ _ _ (.inl ⟨record.id, rfl⟩) (.ended record
            record.reference .cancelled (abortion reason record now) now found ended rfl)) (.inr rfl)
            (.cancelled token ?_ ?_)
          · rw [moved_tokens, if_pos (by rfl)]
            exact bound
          · rw [moved_tokens, if_pos (by rfl)]
            intro pair kept same
            obtain ⟨before, different⟩ := Tokens.remove_subset _ _ pair kept
            exact different (own pair before same)
      | true =>
          rw [cancel_one_ended board reason now id token count balanced.intact record found ended]
          refine evolves_one _ _ _ (.inr rfl) (.cancelled token bound ?_)
          intro pair member same
          obtain ⟨open_, stored, active⟩ := (held_iff board balanced id).mp
            ⟨pair.2, by rw [← own pair member same]; exact member⟩
          rw [found, Option.some.injEq] at stored
          rw [← stored, ended] at active
          cases active

theorem cancel_one_other (intact : board.store.Intact) (other : TaskId) (different : other ≠ id) :
    (cancelOne reason now (board, count) (id, token)).1.store.find? other =
      board.store.find? other := by
  cases found : board.store.find? id with
  | none => rw [cancel_one_absent board reason now id token count intact found]
  | some record =>
      have has := Store.find_has_id board.store id record found
      cases ended : record.state.isTerminal with
      | false =>
          rw [cancel_one_active board reason now id token count intact record found ended]
          rw [cancelToken, moved_found board record (has ▸ found), if_neg]
          exact fun same => different (same.symm.trans has)
      | true => rw [cancel_one_ended board reason now id token count intact record found ended, cancelToken]

theorem cancel_one_tells (intact : board.store.Intact) (record : TaskRecord)
    (found : board.store.find? id = some record) :
    let after := (cancelOne reason now (board, count) (id, token)).1
    token ∈ after.tokens.cancelled ∧ ∃ still, after.store.find? id = some still := by
  have has := Store.find_has_id board.store id record found
  have told (other : Board) : token ∈ (other.cancelToken token).tokens.cancelled :=
    (Tokens.cancel_cancelled other.tokens token token).mpr (.inr rfl)
  cases ended : record.state.isTerminal with
  | false =>
      rw [cancel_one_active board reason now id token count intact record found ended]
      refine ⟨told _, record.moved .cancelled (some (abortion reason record now)) now, ?_⟩
      rw [cancelToken, moved_found board record (has ▸ found), if_pos has]
  | true =>
      rw [cancel_one_ended board reason now id token count intact record found ended]
      exact ⟨told board, record, found⟩

end One

section All

variable (reason : String) (now : Instant)

-- Entries of the token table as it was, so tokens that are still held keep their tasks.
def Entries (board : Board) (entries : List (TaskId × Nat)) : Prop :=
  ∀ entry ∈ entries, entry.2 < board.tokens.fresh ∧
    ∀ pair ∈ board.tokens.held, pair.2 = entry.2 → pair.1 = entry.1

theorem entries_rest (board : Board) (balanced : board.Balanced) (entry : TaskId × Nat)
    (rest : List (TaskId × Nat)) (entries : Entries board (entry :: rest)) (count : Nat) :
    Entries (cancelOne reason now (board, count) entry).1 rest := by
  obtain ⟨bound, own⟩ := entries entry (by simp)
  have evolves := cancel_one_evolves board reason now entry.1 entry.2 count balanced bound own
  have closed (id : TaskId) : ¬ Swept (.entered id) := by simp [Swept]
  obtain ⟨fresh, held⟩ := evolves_tokens _ _ evolves closed
  intro other member
  obtain ⟨otherBound, otherOwn⟩ := entries other (by simp [member])
  refine ⟨fresh ▸ otherBound, ?_⟩
  intro pair kept same
  exact otherOwn pair (held pair kept) same

theorem sweep_evolves (board : Board) (balanced : board.Balanced) (entries : List (TaskId × Nat))
    (valid : Entries board entries) (count : Nat) :
    Evolves Swept board (entries.foldl (cancelOne reason now) (board, count)).1 := by
  induction entries generalizing board count with
  | nil => exact .refl
  | cons entry rest ih =>
      obtain ⟨bound, own⟩ := valid entry (by simp)
      have first := cancel_one_evolves board reason now entry.1 entry.2 count balanced bound own
      have later := ih (cancelOne reason now (board, count) entry).1
        (balanced_evolves _ _ first balanced) (entries_rest reason now board balanced entry rest valid count)
        (cancelOne reason now (board, count) entry).2
      exact evolves_trans _ _ _ first later

theorem sweep_cancels (board : Board) (balanced : board.Balanced) (entries : List (TaskId × Nat))
    (valid : Entries board entries) (count : Nat) (id : TaskId) (record : TaskRecord)
    (found : board.store.find? id = some record) (active : record.state.isTerminal = false)
    (listed : id ∈ entries.map Prod.fst) :
    (entries.foldl (cancelOne reason now) (board, count)).1.store.find? id =
      some (record.moved .cancelled (some (abortion reason record now)) now) := by
  induction entries generalizing board count with
  | nil => cases listed
  | cons entry rest ih =>
      obtain ⟨bound, own⟩ := valid entry (by simp)
      have first := cancel_one_evolves board reason now entry.1 entry.2 count balanced bound own
      have after := balanced_evolves _ _ first balanced
      have rest_valid := entries_rest reason now board balanced entry rest valid count
      by_cases here : entry.1 = id
      · have has := Store.find_has_id board.store id record found
        have ended : (cancelOne reason now (board, count) entry).1.store.find? id =
            some (record.moved .cancelled (some (abortion reason record now)) now) := by
          have step := cancel_one_active board reason now entry.1 entry.2 count balanced.intact record
            (here ▸ found) active
          rw [step, cancelToken, moved_found board record (has ▸ found), if_pos has]
        have kept : ¬ Swept (.removed id) := by simp [Swept]
        exact evolves_final _ _ (sweep_evolves reason now _ after rest rest_valid _) id kept _ ended rfl
      · have listedLater : id ∈ rest.map Prod.fst := by
          rcases List.mem_cons.mp listed with same | later
          · exact absurd same.symm here
          · exact later
        have untouched := cancel_one_other board reason now entry.1 entry.2 count balanced.intact id
          (Ne.symm here)
        exact ih _ after rest_valid _ (untouched.trans found) listedLater

theorem sweep_tells (board : Board) (balanced : board.Balanced) (entries : List (TaskId × Nat))
    (valid : Entries board entries) (count : Nat) (entry : TaskId × Nat) (listed : entry ∈ entries)
    (record : TaskRecord) (found : board.store.find? entry.1 = some record) :
    entry.2 ∈ (entries.foldl (cancelOne reason now) (board, count)).1.tokens.cancelled := by
  induction entries generalizing board count record with
  | nil => cases listed
  | cons first rest ih =>
      obtain ⟨bound, own⟩ := valid first (by simp)
      have evolves := cancel_one_evolves board reason now first.1 first.2 count balanced bound own
      have after := balanced_evolves _ _ evolves balanced
      have left := entries_rest reason now board balanced first rest valid count
      have told := cancel_one_tells board reason now first.1 first.2 count balanced.intact
      rcases List.mem_cons.mp listed with rfl | later
      · exact evolves_cancelled _ _ (sweep_evolves reason now _ after rest left _) entry.2
          (told record found).1
      · by_cases same : entry.1 = first.1
        · rw [same] at found
          obtain ⟨still, kept⟩ := (told record found).2
          exact ih _ after left _ later still (same ▸ kept)
        · have untouched := cancel_one_other board reason now first.1 first.2 count balanced.intact
            entry.1 same
          exact ih _ after left _ later record (untouched.trans found)

theorem held_entries (board : Board) (balanced : board.Balanced) : Entries board board.tokens.held := by
  intro entry member
  refine ⟨balanced.guarded.issued entry member, ?_⟩
  intro pair held same
  rw [token_task board.tokens balanced.guarded pair entry held member same]

theorem cancel_all_evolves (board : Board) (balanced : board.Balanced) :
    Evolves Swept board (board.cancelAll reason now).1 :=
  sweep_evolves reason now board balanced board.tokens.held (held_entries board balanced) 0

theorem cancel_all_cancels (board : Board) (balanced : board.Balanced) (id : TaskId)
    (record : TaskRecord) (found : board.store.find? id = some record)
    (active : record.state.isTerminal = false) :
    (board.cancelAll reason now).1.store.find? id =
      some (record.moved .cancelled (some (abortion reason record now)) now) := by
  obtain ⟨token, member⟩ := (held_iff board balanced id).mpr ⟨record, found, active⟩
  exact sweep_cancels reason now board balanced board.tokens.held (held_entries board balanced) 0 id
    record found active (List.mem_map_of_mem member)

theorem cancel_all_tells (board : Board) (balanced : board.Balanced) (entry : TaskId × Nat)
    (held : entry ∈ board.tokens.held) :
    entry.2 ∈ (board.cancelAll reason now).1.tokens.cancelled := by
  obtain ⟨record, found, _⟩ := (held_iff board balanced entry.1).mp ⟨entry.2, held⟩
  exact sweep_tells reason now board balanced board.tokens.held (held_entries board balanced) 0 entry
    held record found

end All

end Foreman.Board
