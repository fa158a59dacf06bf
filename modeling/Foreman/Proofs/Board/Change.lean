import Foreman.Proofs.Board.Transition

set_option autoImplicit false

namespace Foreman

structure Tokens.Guarded (tokens : Tokens) : Prop where
  distinct : (tokens.held.map Prod.snd).Nodup
  issued : ∀ pair ∈ tokens.held, pair.2 < tokens.fresh
  spent : ∀ token ∈ tokens.cancelled, token < tokens.fresh
  live : ∀ pair ∈ tokens.held, pair.2 ∉ tokens.cancelled

namespace Tokens

theorem remove_subset (tokens : Tokens) (id : TaskId) (pair : TaskId × Nat)
    (member : pair ∈ (tokens.remove id).held) : pair ∈ tokens.held ∧ pair.1 ≠ id := by
  simpa [remove] using member

theorem guarded_remove (tokens : Tokens) (guarded : tokens.Guarded) (id : TaskId) :
    (tokens.remove id).Guarded := by
  refine ⟨guarded.distinct.sublist ((List.filter_sublist).map _), ?_, guarded.spent, ?_⟩
  · intro pair member
    exact guarded.issued pair (remove_subset tokens id pair member).1
  · intro pair member
    exact guarded.live pair (remove_subset tokens id pair member).1

theorem cancel_held (tokens : Tokens) (token : Nat) :
    (tokens.cancel token).held = tokens.held ∧ (tokens.cancel token).fresh = tokens.fresh := by
  unfold cancel
  split <;> exact ⟨rfl, rfl⟩

theorem cancel_cancelled (tokens : Tokens) (token other : Nat) :
    other ∈ (tokens.cancel token).cancelled ↔ other ∈ tokens.cancelled ∨ other = token := by
  unfold cancel
  split
  · rename_i already
    have present : token ∈ tokens.cancelled := by simpa [isCancelled] using already
    constructor
    · exact .inl
    · rintro (before | rfl)
      · exact before
      · exact present
  · simp

theorem guarded_cancel (tokens : Tokens) (guarded : tokens.Guarded) (token : Nat)
    (bound : token < tokens.fresh) (unheld : ∀ pair ∈ tokens.held, pair.2 ≠ token) :
    (tokens.cancel token).Guarded := by
  obtain ⟨held, fresh⟩ := cancel_held tokens token
  refine ⟨?_, ?_, ?_, ?_⟩
  · rw [held]
    exact guarded.distinct
  · rw [held, fresh]
    exact guarded.issued
  · rw [fresh]
    intro other member
    rcases (cancel_cancelled tokens token other).mp member with before | rfl
    · exact guarded.spent other before
    · exact bound
  · rw [held]
    intro pair member cancelled
    rcases (cancel_cancelled tokens token pair.2).mp cancelled with before | same
    · exact guarded.live pair member before
    · exact unheld pair member same

theorem guarded_issue (tokens : Tokens) (guarded : tokens.Guarded) (id : TaskId) :
    (tokens.issue id).1.Guarded := by
  have removed := guarded_remove tokens guarded id
  refine ⟨?_, ?_, ?_, ?_⟩
  · simp only [issue, List.map_append, List.nodup_append]
    refine ⟨removed.distinct, by simp, ?_⟩
    intro token earlier other single
    obtain ⟨pair, member, rfl⟩ := List.mem_map.mp earlier
    have bound := removed.issued pair member
    have last : other = tokens.fresh := by simpa using single
    rw [last]
    exact Nat.ne_of_lt bound
  · intro pair member
    rcases List.mem_append.mp member with earlier | single
    · exact Nat.lt_succ_of_lt (removed.issued pair earlier)
    · rw [List.mem_singleton.mp single]
      exact Nat.lt_succ_self tokens.fresh
  · exact fun token member => Nat.lt_succ_of_lt (guarded.spent token member)
  · intro pair member
    rcases List.mem_append.mp member with earlier | single
    · exact removed.live pair earlier
    · rw [List.mem_singleton.mp single]
      exact fun cancelled => Nat.lt_irrefl _ (guarded.spent tokens.fresh cancelled)

end Tokens

namespace Board

structure Balanced (board : Board) : Prop where
  intact : board.store.Intact
  guarded : board.tokens.Guarded
  waiting : board.waiting = board.store.tally .pending
  pending : board.metrics.pending = board.store.tally .pending
  running : board.metrics.running = board.store.tally .running
  tokens : board.tokens.held.map Prod.fst = board.store.activeIds
  undecided : ∀ record ∈ board.store.records, record.state.isTerminal = false → record.outcome = none

theorem balanced_empty (room : Nat) : (Board.empty room).Balanced := by
  refine ⟨⟨rfl, List.nodup_nil⟩, ⟨List.nodup_nil, ?_, ?_, ?_⟩, rfl, rfl, rfl, rfl, ?_⟩ <;>
    simp [Board.empty, Store.empty, Tokens.empty]

theorem held_iff (board : Board) (balanced : board.Balanced) (id : TaskId) :
    (∃ token, (id, token) ∈ board.tokens.held) ↔
      ∃ record, board.store.find? id = some record ∧ record.state.isTerminal = false := by
  rw [← Store.active_iff board.store balanced.intact id, ← balanced.tokens, List.mem_map]
  constructor
  · rintro ⟨token, member⟩
    exact ⟨(id, token), member, rfl⟩
  · rintro ⟨⟨_, token⟩, member, rfl⟩
    exact ⟨token, member⟩

inductive Effect where
  | aside
  | planned
  | entered (id : TaskId)
  | started (id : TaskId)
  | ended (id : TaskId)
  | removed (id : TaskId)

def moved (board : Board) (record : TaskRecord) (reference : String) (next : TaskState)
    (outcome : Option Outcome) (now : Instant) : Board :=
  ({ board with store := board.store.update (record.moved next outcome now) } : Board).settled
    record.id reference record.state next outcome now

def stored (board : Board) (record : TaskRecord) : Store :=
  { board.store with records := board.store.records ++ [record] }

def rejected (board : Board) (record : TaskRecord) : Board :=
  { board with store := board.stored record, metrics := board.metrics.recordRejection }

inductive Change (board : Board) : Effect → Board → Prop where
  | aside (other : Board) (store : other.store = board.store)
      (tokens : other.tokens = board.tokens) (waiting : other.waiting = board.waiting)
      (pending : other.metrics.pending = board.metrics.pending)
      (running : other.metrics.running = board.metrics.running) (jobs : other.jobs = board.jobs) :
      Change board .aside other
  | cancelled (token : Nat) (bound : token < board.tokens.fresh)
      (unheld : ∀ pair ∈ board.tokens.held, pair.2 ≠ token) :
      Change board .aside (board.cancelToken token)
  | planned (jobs : JobTable) : Change board .planned { board with jobs := jobs }
  | enrolled (assignment : Assignment) (now : Instant)
      (absent : board.store.find? assignment.id = none) :
      Change board (.entered assignment.id)
        (board.enrolled assignment (board.stored (TaskRecord.pending assignment))
          (board.tokens.issue assignment.id).1 now)
  | rejected (record : TaskRecord) (absent : board.store.find? record.id = none)
      (failed : record.state.isTerminal = true) :
      Change board (.entered record.id) (board.rejected record)
  | started (record : TaskRecord) (reference : String) (now : Instant)
      (found : board.store.find? record.id = some record) (waits : record.state = .pending) :
      Change board (.started record.id) (board.moved record reference .running none now)
  | ended (record : TaskRecord) (reference : String) (next : TaskState) (outcome : Outcome)
      (now : Instant) (found : board.store.find? record.id = some record)
      (active : record.state.isTerminal = false) (terminal : next.isTerminal = true) :
      Change board (.ended record.id) (board.moved record reference next (some outcome) now)
  | removed (record : TaskRecord) (found : board.store.find? record.id = some record)
      (terminal : record.state.isTerminal = true) :
      Change board (.removed record.id) { board with store := board.store.remove record.id }

inductive Evolves (allowed : Effect → Prop) (board : Board) : Board → Prop where
  | refl : Evolves allowed board board
  | step (between last : Board) (effect : Effect) (earlier : Evolves allowed board between)
      (ok : allowed effect) (change : Change between effect last) : Evolves allowed board last

section Evolves

variable {allowed : Effect → Prop}

theorem evolves_one (board other : Board) (effect : Effect) (ok : allowed effect)
    (change : Change board effect other) : Evolves allowed board other :=
  .step board other effect .refl ok change

theorem evolves_trans (board between last : Board) (first : Evolves allowed board between)
    (second : Evolves allowed between last) : Evolves allowed board last := by
  induction second with
  | refl => exact first
  | step between last effect _ ok change ih => exact .step between last effect ih ok change

theorem evolves_mono {wider : Effect → Prop} (board last : Board)
    (evolves : Evolves allowed board last) (wide : ∀ effect, allowed effect → wider effect) :
    Evolves wider board last := by
  induction evolves with
  | refl => exact .refl
  | step between last effect _ ok change ih =>
      exact .step between last effect ih (wide effect ok) change

end Evolves

end Board

end Foreman
