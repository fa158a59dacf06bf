import Foreman.Proofs.Board.Keeping

set_option autoImplicit false

namespace Foreman

namespace TaskRecord

structure Timed (record : TaskRecord) (now : Instant) : Prop where
  waits : record.state = .pending → record.startedAt = none
  runs : record.state = .running →
    ∃ begun : Instant, begun ≤ now ∧ record.startedAt = some (Timestamp.ofInstant begun)

def ran (record : TaskRecord) (reference : String) : Bool :=
  record.state.isTerminal && record.startedAt.isSome && record.reference == reference

theorem timed_later (record : TaskRecord) (earlier now : Instant) (timed : record.Timed earlier)
    (order : earlier ≤ now) : record.Timed now := by
  refine ⟨timed.waits, fun running => ?_⟩
  obtain ⟨begun, before, started⟩ := timed.runs running
  exact ⟨begun, Int.le_trans before order, started⟩

theorem started_running (record : TaskRecord) (now : Instant) (timed : record.Timed now)
    (active : record.state.isTerminal = false) :
    record.startedAt.isSome = (record.state == .running) := by
  cases state : record.state with
  | pending => simp [timed.waits state]
  | running =>
      obtain ⟨begun, _, started⟩ := timed.runs state
      simp [started]
  | succeeded | failed | timedOut | cancelled => simp [state, TaskState.isTerminal] at active

theorem moved_ran (record : TaskRecord) (now : Instant) (timed : record.Timed now)
    (active : record.state.isTerminal = false) (reference : String) (next : TaskState)
    (outcome : Option Outcome) (named : next.isTerminal = true → reference = record.reference)
    (other : String) : (record.moved next outcome now).ran other =
      (next.isTerminal && record.state == .running && reference == other) := by
  cases ends : next.isTerminal with
  | false => simp [ran, moved, ends]
  | true =>
      have resting : next ≠ .running := by
        rintro rfl
        cases ends
      have started := started_running record now timed active
      simp [ran, moved, ends, resting, started, named ends]

end TaskRecord

-- All times of the calendar are close enough to each other for a span between them.
theorem Timestamp.since_instant (begun now : Instant) (order : begun ≤ now) :
    ∃ span, (ofInstant now).since (ofInstant begun) = some span := by
  have ordered : begun.nanos ≤ now.nanos := order
  have upper := now.upper
  have lower := begun.lower
  simp only [since, leapNanos, ofInstant, Bool.false_eq_true, false_and, if_false, Int.add_zero]
  rw [if_neg (by omega)]
  have bounded : (now.nanos - begun.nanos).toNat < 18446744073709551616000000000 := by omega
  exact ⟨⟨_, bounded⟩, dif_pos bounded⟩

namespace Board

section Moved

variable (board : Board) (record : TaskRecord) (reference : String) (next : TaskState)
  (outcome : Option Outcome) (now : Instant)

theorem moved_metrics :
    (board.moved record reference next outcome now).metrics =
      measured (board.metrics.recordTransition record.state next) reference now
        (({ board with store := board.store.update (record.moved next outcome now) } : Board).runTime
          record.id record.state next) :=
  settled_metrics _ _ _ _ _ _ _

theorem measured_kept (metrics : Metrics) (duration : Option Span) :
    (measured metrics reference now duration).submitted = metrics.submitted ∧
      (measured metrics reference now duration).finished = metrics.finished := by
  cases duration <;> exact ⟨rfl, rfl⟩

theorem moved_finished (state : TaskState) (terminal : state.isTerminal = true) :
    (board.moved record reference next outcome now).metrics.finishedIn state =
      board.metrics.finishedIn state + if next = state then 1 else 0 := by
  rw [moved_metrics, Metrics.finishedIn, (measured_kept _ _ _ _).2]
  exact Metrics.transition_finished board.metrics state record.state next terminal

theorem moved_submitted :
    (board.moved record reference next outcome now).metrics.submitted = board.metrics.submitted := by
  rw [moved_metrics, (measured_kept _ _ _ _).1]
  exact (Metrics.transition_kept board.metrics record.state next).1

theorem run_time_measured (intact : board.store.Intact)
    (found : board.store.find? record.id = some record) (timed : record.Timed now) :
    (({ board with store := board.store.update (record.moved next outcome now) } : Board).runTime
      record.id record.state next).isSome =
        (next.isTerminal && record.state == .running) := by
  by_cases ends : next.isTerminal = true ∧ record.state = .running
  · obtain ⟨terminal, running⟩ := ends
    obtain ⟨begun, order, started⟩ := timed.runs running
    obtain ⟨span, measured⟩ := Timestamp.since_instant begun now order
    have resting : next ≠ .running := by
      rintro rfl
      cases terminal
    have after := Store.find_update_same board.store (record.moved next outcome now) record found
    have stored : (board.store.update (record.moved next outcome now)).get record.id =
        .ok (some (record.moved next outcome now)) := by
      rw [Store.get_intact _ (Store.intact_update board.store intact _)]
      exact congrArg Except.ok after
    rw [runTime, if_pos ⟨terminal, running⟩]
    simp only [stored]
    simp [TaskRecord.duration, TaskRecord.moved, terminal, resting, started, measured, running]
  · rw [runTime, if_neg ends]
    have none_ended : (next.isTerminal && record.state == .running) = false := by
      simpa using fun terminal running => ends ⟨terminal, running⟩
    simp [none_ended]

theorem moved_executions (intact : board.store.Intact)
    (found : board.store.find? record.id = some record) (timed : record.Timed now)
    (other : String) :
    (board.moved record reference next outcome now).metrics.executions other =
      board.metrics.executions other +
        if next.isTerminal && record.state == .running && reference == other then 1 else 0 := by
  rw [moved_metrics, ← run_time_measured board record next outcome now intact found timed]
  exact measured_executions now board.metrics record.state next reference _ other

end Moved

def Counts (metrics other : Metrics) : Prop :=
  metrics.submitted = other.submitted ∧ metrics.finished = other.finished ∧
    metrics.executed = other.executed

inductive Posting (now : Instant) (board : Board) : List TaskId → List TaskRecord → Board → Prop where
  | aside (next : Board) (store : next.store = board.store)
      (counts : Counts next.metrics board.metrics) : Posting now board [] [] next
  | admitted (assignment : Assignment) (next : Board)
      (absent : board.store.find? assignment.id = none)
      (store : next.store = board.stored (TaskRecord.pending assignment))
      (metrics : next.metrics = board.metrics.recordAdmission) :
      Posting now board [assignment.id] [] next
  | refused (record : TaskRecord) (next : Board) (absent : board.store.find? record.id = none)
      (failed : record.state = .failed) (unstarted : record.startedAt = none)
      (store : next.store = board.stored record)
      (metrics : next.metrics = board.metrics.recordRejection) :
      Posting now board [record.id] [] next
  | started (record : TaskRecord) (reference : String)
      (found : board.store.find? record.id = some record) (waits : record.state = .pending) :
      Posting now board [] [] (board.moved record reference .running none now)
  | ended (record : TaskRecord) (next : TaskState) (outcome : Outcome)
      (found : board.store.find? record.id = some record)
      (active : record.state.isTerminal = false) (terminal : next.isTerminal = true) :
      Posting now board [] [] (board.moved record record.reference next (some outcome) now)
  | evicted (record : TaskRecord) (found : board.store.find? record.id = some record)
      (ended : record.state.isTerminal = true) :
      Posting now board [] [record] { board with store := board.store.remove record.id }

inductive Postings (now : Instant) (board : Board) :
    List TaskId → List TaskRecord → Board → Prop where
  | refl : Postings now board [] [] board
  | step (between last : Board) (came more : List TaskId) (left further : List TaskRecord)
      (earlier : Postings now board came left between)
      (posting : Posting now between more further last) :
      Postings now board (came ++ more) (left ++ further) last

section Postings

variable (now : Instant) (board : Board)

theorem postings_one (next : Board) (came : List TaskId) (left : List TaskRecord)
    (posting : Posting now board came left next) : Postings now board came left next :=
  .step board next [] came [] left .refl posting

theorem postings_trans (between last : Board) (came more : List TaskId)
    (left further : List TaskRecord) (first : Postings now board came left between)
    (second : Postings now between more further last) :
    Postings now board (came ++ more) (left ++ further) last := by
  induction second with
  | refl => simpa using first
  | step middle last more latest further rest _ posting ih =>
      rw [← List.append_assoc, ← List.append_assoc]
      exact .step middle last _ latest _ rest ih posting

theorem postings_intact (intact : board.store.Intact) (came : List TaskId) (left : List TaskRecord)
    (next : Board) (postings : Postings now board came left next) : next.store.Intact := by
  induction postings with
  | refl => exact intact
  | step between last _ _ _ _ _ posting ih =>
      cases posting with
      | aside _ store _ => exact store ▸ ih
      | admitted assignment _ absent store _ =>
          rw [store]
          exact Store.intact_append between.store ih (.pending assignment) absent
      | refused record _ absent _ _ store _ =>
          rw [store]
          exact Store.intact_append between.store ih record absent
      | started record _ _ _ | ended record _ _ _ _ _ =>
          rw [moved_store]
          exact Store.intact_update between.store ih _
      | evicted record _ _ => exact Store.intact_remove between.store ih record.id

theorem postings_members (intact : board.store.Intact) (came : List TaskId)
    (left : List TaskRecord) (next : Board) (postings : Postings now board came left next) :
    (next.store.ids ++ left.map TaskRecord.id).Perm (board.store.ids ++ came) := by
  induction postings with
  | refl => simp
  | step between last came more left further earlier posting ih =>
      have middle := postings_intact now board intact came left between earlier
      have one : (last.store.ids ++ further.map TaskRecord.id).Perm (between.store.ids ++ more) := by
        cases posting with
        | aside _ store _ =>
            rw [store]
            exact .refl _
        | admitted assignment _ _ store _ => simp [store, stored, Store.ids, TaskRecord.pending]
        | refused record _ _ _ _ store _ => simp [store, stored, Store.ids]
        | started record reference _ _ | ended record _ _ _ _ _ =>
            rw [moved_store, Store.ids_update]
            exact .refl _
        | evicted record found _ =>
            obtain ⟨before, after, split, _, _, removed⟩ :=
              Store.found_splits between.store middle record.id record found
            have back := List.perm_append_singleton record.id
              (before.map TaskRecord.id ++ after.map TaskRecord.id)
            simpa [Store.ids, removed, split] using back.trans List.perm_middle.symm
      rw [List.perm_iff_count] at one ih ⊢
      intro id
      have middle := one id
      have before := ih id
      simp only [List.map_append, List.count_append] at middle before ⊢
      omega

end Postings

structure Counted (board : Board) (gone : List TaskRecord) (now : Instant) : Prop where
  intact : board.store.Intact
  submitted : board.metrics.submitted = (board.store.records ++ gone).length
  finished : ∀ state, state.isTerminal = true → board.metrics.finishedIn state =
    (board.store.records ++ gone).countP fun record => record.state == state
  executed : ∀ reference, board.metrics.executions reference =
    (board.store.records ++ gone).countP fun record => record.ran reference
  ended : ∀ record ∈ gone, record.state.isTerminal = true
  timed : ∀ record ∈ board.store.records, record.Timed now

section Counted

variable (board : Board) (gone : List TaskRecord) (now : Instant)

theorem counted_empty (room : Nat) : (Board.empty room).Counted [] now :=
  ⟨⟨rfl, List.nodup_nil⟩, rfl, fun _ _ => rfl, fun _ => rfl,
    fun _ member => absurd member List.not_mem_nil, fun _ member => absurd member List.not_mem_nil⟩

theorem counted_later (earlier : Instant) (counted : board.Counted gone earlier)
    (order : earlier ≤ now) : board.Counted gone now :=
  ⟨counted.intact, counted.submitted, counted.finished, counted.executed, counted.ended,
    fun record member =>
      record.timed_later earlier now (counted.timed record member) order⟩

theorem counted_aside (counted : board.Counted gone now) (next : Board)
    (store : next.store = board.store) (counts : Counts next.metrics board.metrics) :
    next.Counted gone now := by
  obtain ⟨submitted, finished, executed⟩ := counts
  refine ⟨store ▸ counted.intact, ?_, ?_, ?_, counted.ended, ?_⟩
  · rw [store, submitted]
    exact counted.submitted
  · intro state terminal
    rw [store, Metrics.finishedIn, finished]
    exact counted.finished state terminal
  · intro reference
    rw [store, Metrics.executions_same _ _ executed]
    exact counted.executed reference
  · rw [store]
    exact counted.timed

theorem counted_entered (counted : board.Counted gone now) (record : TaskRecord) (next : Board)
    (absent : board.store.find? record.id = none) (unstarted : record.startedAt = none)
    (resting : record.state ≠ .running) (store : next.store = board.stored record)
    (submitted : next.metrics.submitted = board.metrics.submitted + 1)
    (executed : next.metrics.executed = board.metrics.executed)
    (finished : ∀ state, state.isTerminal = true → next.metrics.finishedIn state =
      board.metrics.finishedIn state + if record.state = state then 1 else 0) :
    next.Counted gone now := by
  have records : next.store.records = board.store.records ++ [record] := by rw [store]; rfl
  refine ⟨?_, ?_, ?_, ?_, counted.ended, ?_⟩
  · rw [store]
    exact Store.intact_append board.store counted.intact record absent
  · have before := counted.submitted
    simp only [records, submitted, List.length_append, List.length_singleton] at before ⊢
    omega
  · intro state terminal
    have before := counted.finished state terminal
    simp only [records, finished state terminal, List.countP_append, List.countP_singleton,
      beq_iff_eq] at before ⊢
    omega
  · intro reference
    have before := counted.executed reference
    rw [Metrics.executions_same _ _ executed, before]
    simp [records, TaskRecord.ran, unstarted]
  · rw [records]
    intro other member
    rcases List.mem_append.mp member with earlier | last
    · exact counted.timed other earlier
    · rw [List.mem_singleton.mp last]
      exact ⟨fun _ => unstarted, fun running => absurd running resting⟩

theorem counted_moved (counted : board.Counted gone now) (record : TaskRecord)
    (reference : String) (next : TaskState) (outcome : Option Outcome)
    (found : board.store.find? record.id = some record)
    (active : record.state.isTerminal = false) (onward : next ≠ .pending)
    (named : next.isTerminal = true → reference = record.reference) :
    (board.moved record reference next outcome now).Counted gone now := by
  have timed := counted.timed record (Store.find_member _ _ _ found)
  obtain ⟨before, after, split, _, updated, _⟩ :=
    Store.found_splits board.store counted.intact record.id record found
  have records : (board.moved record reference next outcome now).store.records =
      before ++ record.moved next outcome now :: after := by
    rw [moved_store]
    exact updated (record.moved next outcome now) rfl
  have executions := moved_executions board record reference next outcome now counted.intact found
    timed
  refine ⟨?_, ?_, ?_, ?_, counted.ended, ?_⟩
  · rw [moved_store]
    exact Store.intact_update board.store counted.intact _
  · have total := counted.submitted
    simp only [moved_submitted, records, split, List.length_append, List.length_cons] at total ⊢
    omega
  · intro state terminal
    have total := counted.finished state terminal
    have other : record.state ≠ state := fun same => by simp [same, terminal] at active
    rw [moved_finished board record reference next outcome now state terminal]
    simp only [records, split, List.countP_append, List.countP_cons, beq_iff_eq, if_neg other,
      TaskRecord.moved] at total ⊢
    omega
  · intro other
    have total := counted.executed other
    have own := record.moved_ran now timed active reference next outcome named other
    have old : record.ran other = false := by simp [TaskRecord.ran, active]
    rw [executions other]
    simp only [records, split, List.countP_append, List.countP_cons, own, old, Bool.false_eq_true,
      if_false] at total ⊢
    omega
  · rw [moved_store]
    intro other member
    rcases Store.member_update board.store _ other member with same | kept
    · subst same
      refine ⟨fun waits => absurd waits onward, fun running => ⟨now, Int.le_refl _, ?_⟩⟩
      exact if_pos running
    · exact counted.timed other kept

theorem counted_evicted (counted : board.Counted gone now) (record : TaskRecord)
    (found : board.store.find? record.id = some record) (ended : record.state.isTerminal = true) :
    ({ board with store := board.store.remove record.id } : Board).Counted (gone ++ [record]) now := by
  obtain ⟨before, after, split, _, _, removed⟩ :=
    Store.found_splits board.store counted.intact record.id record found
  have perm : ((board.store.remove record.id).records ++ (gone ++ [record])).Perm
      (board.store.records ++ gone) := by
    rw [split, removed, ← List.append_assoc]
    refine (List.perm_append_singleton record _).trans ?_
    have moved : (record :: (before ++ (after ++ gone))).Perm (before ++ record :: (after ++ gone)) :=
      List.perm_middle.symm
    simpa using moved
  refine ⟨Store.intact_remove board.store counted.intact record.id, ?_, ?_, ?_, ?_, ?_⟩
  · exact counted.submitted.trans perm.length_eq.symm
  · exact fun state terminal => (counted.finished state terminal).trans (perm.countP_eq _).symm
  · exact fun reference => (counted.executed reference).trans (perm.countP_eq _).symm
  · intro other member
    rcases List.mem_append.mp member with earlier | last
    · exact counted.ended other earlier
    · exact List.mem_singleton.mp last ▸ ended
  · exact fun other member => counted.timed other (List.mem_of_mem_filter member)

theorem counted_posting (counted : board.Counted gone now) (came : List TaskId)
    (left : List TaskRecord) (next : Board) (posting : Posting now board came left next) :
    next.Counted (gone ++ left) now := by
  cases posting with
  | aside _ store counts =>
      rw [List.append_nil]
      exact counted_aside board gone now counted next store counts
  | admitted assignment _ absent store metrics =>
      rw [List.append_nil]
      refine counted_entered board gone now counted (.pending assignment) next absent rfl
        (by simp [TaskRecord.pending]) store (by rw [metrics]; rfl) (by rw [metrics]; rfl) ?_
      intro state terminal
      have waiting : TaskState.pending ≠ state := by
        rintro rfl
        cases terminal
      rw [metrics, TaskRecord.pending, if_neg waiting]
      rfl
  | refused record _ absent failed unstarted store metrics =>
      rw [List.append_nil]
      refine counted_entered board gone now counted record next absent unstarted (by simp [failed])
        store (by rw [metrics]; rfl) (by rw [metrics]; rfl) ?_
      intro state _
      rw [metrics, failed]
      exact Metrics.rejection_finished board.metrics state
  | started record reference found waits =>
      rw [List.append_nil]
      exact counted_moved board gone now counted record reference .running none found
        (by rw [waits]; rfl) (by simp) nofun
  | ended record state outcome found active terminal =>
      rw [List.append_nil]
      refine counted_moved board gone now counted record record.reference state (some outcome) found
        active ?_ fun _ => rfl
      rintro rfl
      cases terminal
  | evicted record found ended => exact counted_evicted board gone now counted record found ended

theorem counted_postings (counted : board.Counted gone now) (came : List TaskId)
    (left : List TaskRecord) (next : Board) (postings : Postings now board came left next) :
    next.Counted (gone ++ left) now := by
  induction postings with
  | refl => simpa using counted
  | step between last came more left further _ posting ih =>
      rw [← List.append_assoc]
      exact counted_posting between (gone ++ left) now ih more further last posting

end Counted

end Board

end Foreman
