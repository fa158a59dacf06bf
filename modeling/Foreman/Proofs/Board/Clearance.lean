import Foreman.Proofs.Board.Abort
import Foreman.Proofs.Board.Refusal
import Mathlib.Data.List.Perm.Basic
import Mathlib.Logic.Function.Iterate

set_option autoImplicit false

namespace Foreman.Board

def sweep (board : Board) (reason : String) (now : Instant) (entries : List (TaskId × Nat)) :
    Board × Nat :=
  entries.foldl (cancelOne reason now) (board, 0)

def active (board : Board) : List TaskRecord :=
  board.store.records.filter fun record => !record.state.isTerminal

def tasksOf (board : Board) (entries : List (TaskId × Nat)) : List TaskRecord :=
  entries.filterMap fun entry => board.store.find? entry.1

/-- What can be counted or looked up afterwards; mean run times are no part of it. -/
structure Standing where
  records : List TaskRecord
  waiting : Int
  submitted : Nat
  pending : Nat
  running : Nat
  finished : List (TaskState × Nat)
  executions : String → Nat

def standing (board : Board) : Standing where
  records := board.store.records
  waiting := board.waiting
  submitted := board.metrics.submitted
  pending := board.metrics.pending
  running := board.metrics.running
  finished := board.metrics.finished
  executions := board.metrics.executions

structure Cleared (board : Board) (reason : String) (now : Instant) (after : Board) (count : Nat) :
    Prop where
  closed : ∀ record ∈ after.store.records, record.state.isTerminal = true
  cancelled : ∀ record ∈ board.store.records, record.state.isTerminal = false →
    ∃ kind, record.kind = some kind ∧
      after.store.find? record.id = some
        { record with
          state := .cancelled
          outcome := some (.failure (Failure.ofKind (some kind) reason now))
          finishedAt := some now }
  kept : ∀ record ∈ board.store.records, record.state.isTerminal = true →
    after.store.find? record.id = some record
  known : after.store.ids = board.store.ids
  owned : ∀ record ∈ board.active,
    ∃ token, board.tokens.find? record.id = some token ∧ token ∈ after.tokens.cancelled
  told : ∀ token, token ∈ after.tokens.cancelled ↔
    token ∈ board.tokens.cancelled ∨ ∃ record ∈ board.active, (record.id, token) ∈ board.tokens.held
  published : ∃ events, after.bus.published = board.bus.published ++ events ∧
    events.Perm (board.active.map (obituary reason now))
  number : count = board.store.tally .pending + board.store.tally .running
  tokens : after.tokens.held = []
  waiting : after.waiting = 0 ∧ after.pending = 0
  gauges : after.metrics.pending = 0 ∧ after.metrics.running = 0
  submitted : after.metrics.submitted = board.metrics.submitted
  finished : ∀ state, after.metrics.finishedIn state =
    board.metrics.finishedIn state + if state = .cancelled then count else 0
  executions : ∀ reference, after.metrics.executions reference =
    board.metrics.executions reference + board.active.countP fun record =>
      record.reference == reference && (lapse now record).isSome

section Kinds

-- Only a task that never resolved has no kind, and it comes in as failed.
def Typed (board : Board) : Prop :=
  ∀ id record, board.store.find? id = some record → record.state.isTerminal = false →
    ∃ kind, record.kind = some kind

theorem perform_typed (board : Board) (balanced : board.Balanced) (typed : board.Typed)
    (now : Instant) (call : Call) (lawful : call.Lawful board) : (board.perform now call).Typed := by
  intro id record found active
  obtain ⟨_, turn⟩ := perform_turn board balanced now call lawful id
  rw [found] at turn
  generalize before : board.store.find? id = old at turn
  cases turn with
  | kept _ _ => exact typed id record before active
  | enrolled assignment _ _ => exact ⟨assignment.kind, rfl⟩
  | rejected _ _ => cases active
  | started _ old _ waits _ => exact typed id old before (by rw [waits]; rfl)
  | ended _ _ _ next _ _ _ terminal _ =>
      rw [TaskRecord.moved, terminal] at active
      cases active

theorem run_typed (board : Board) (balanced : board.Balanced) (typed : board.Typed)
    (history : List (Instant × Call)) (lawful : board.Lawful history) :
    (board.run history).Typed := by
  induction history generalizing board with
  | nil => exact typed
  | cons entry rest ih =>
      exact ih _ (balanced_perform board balanced entry.1 entry.2 lawful.1)
        (perform_typed board balanced typed entry.1 entry.2 lawful.1) lawful.2

end Kinds

structure Clears (board : Board) (reason : String) (now : Instant) (entries : List (TaskId × Nat))
    (after : Board) : Prop where
  records : after.store.records = board.store.records.map fun record =>
    if record.id ∈ entries.map Prod.fst then aborted reason now record else record
  held : after.tokens.held =
    board.tokens.held.filter fun entry => decide (entry.1 ∉ entries.map Prod.fst)
  told : ∀ token, token ∈ after.tokens.cancelled ↔
    token ∈ board.tokens.cancelled ∨ token ∈ entries.map Prod.snd
  published : after.bus.published =
    board.bus.published ++ (board.tasksOf entries).map (obituary reason now)
  submitted : after.metrics.submitted = board.metrics.submitted
  finished : after.metrics.finished =
    (Metrics.addFinished .cancelled)^[entries.length] board.metrics.finished
  executions : ∀ reference, after.metrics.executions reference =
    board.metrics.executions reference + (board.tasksOf entries).countP fun record =>
      record.reference == reference && (lapse now record).isSome

section Sweep

variable (reason : String) (now : Instant)

theorem tasks_without (board between : Board) (record : TaskRecord) (rest : List (TaskId × Nat))
    (aborts : Aborts board reason now record between) (apart : record.id ∉ rest.map Prod.fst) :
    between.tasksOf rest = board.tasksOf rest := by
  apply List.filterMap_congr
  intro entry member
  have other : ∀ old, board.store.find? entry.1 = some old → old.id ≠ record.id := by
    intro old found same
    rw [Store.find_has_id board.store entry.1 old found] at same
    exact apart (same ▸ List.mem_map_of_mem member)
  rw [aborts_found aborts]
  cases found : board.store.find? entry.1 with
  | none => rfl
  | some old => rw [Option.map_some, if_neg (other old found)]

theorem clears_first (board between after : Board) (record : TaskRecord) (token : Nat)
    (rest : List (TaskId × Nat)) (found : board.store.find? record.id = some record)
    (aborts : Aborts board reason now record between)
    (told : ∀ other, other ∈ between.tokens.cancelled ↔
      other ∈ board.tokens.cancelled ∨ other = token)
    (apart : record.id ∉ rest.map Prod.fst) (clears : Clears between reason now rest after) :
    Clears board reason now ((record.id, token) :: rest) after := by
  have tasks : board.tasksOf ((record.id, token) :: rest) = record :: between.tasksOf rest := by
    rw [tasks_without reason now board between record rest aborts apart, tasksOf,
      List.filterMap_cons, found]
    rfl
  refine ⟨?_, ?_, ?_, ?_, ?_, ?_, ?_⟩
  · rw [clears.records, aborts.records, List.map_map]
    apply List.map_congr_left
    intro old _
    by_cases same : old.id = record.id
    · simp [same, apart]
    · rw [Function.comp_apply, if_neg same, List.map_cons]
      simp only [List.mem_cons, same, false_or]
  · rw [clears.held, aborts.held, List.filter_filter]
    apply List.filter_congr
    intro entry _
    rw [List.map_cons]
    by_cases same : entry.1 = record.id
    · simp [same]
    · simp only [List.mem_cons, same, false_or, (bne_iff_ne).mpr same, Bool.and_true]
  · intro other
    rw [clears.told, told, List.map_cons, List.mem_cons, or_assoc]
  · rw [clears.published, aborts.bus, tasks, List.map_cons, List.append_assoc]
    rfl
  · exact clears.submitted.trans (aborts_submitted aborts)
  · rw [clears.finished, aborts_finished aborts, List.length_cons, Function.iterate_succ_apply]
  · intro reference
    have first := aborts_executions aborts reference
    rw [clears.executions, first, tasks, List.countP_cons]
    simp only [Bool.and_eq_true, beq_iff_eq]
    omega

-- By induction on the tokens that are still to come, each of a task that is active until then.
theorem sweep_clears (board : Board) (balanced : board.Balanced)
    (entries : List (TaskId × Nat)) (listed : ∀ entry ∈ entries, entry ∈ board.tokens.held)
    (distinct : (entries.map Prod.fst).Nodup) (count : Nat) :
    let result := entries.foldl (cancelOne reason now) (board, count)
    result.2 = count + entries.length ∧ Clears board reason now entries result.1 := by
  induction entries generalizing board count with
  | nil => exact ⟨rfl, by simp, by simp, by simp, by simp [tasksOf], rfl, rfl, by simp [tasksOf]⟩
  | cons entry rest ih =>
      obtain ⟨id, token⟩ := entry
      rw [List.map_cons, List.nodup_cons] at distinct
      have own := listed (id, token) (by simp)
      obtain ⟨record, found, active⟩ := (held_iff board balanced id).mp ⟨token, own⟩
      obtain rfl := Store.find_has_id board.store id record found
      have step := cancel_one_active board reason now record.id token count balanced.intact record
        found active
      have aborts := aborts_told _ _ _ _ _
        (moved_aborts board record reason now balanced found active) token
      obtain ⟨bound, unique⟩ := held_entries board balanced _ own
      have after := balanced_evolves _ _ (cancel_one_evolves board reason now record.id token count
        balanced bound unique) balanced
      have later : ∀ entry ∈ rest,
          entry ∈ (cancelOne reason now (board, count) (record.id, token)).1.tokens.held := by
        intro entry member
        have other : entry.1 ≠ record.id :=
          fun same => distinct.1 (List.mem_map.mpr ⟨entry, member, same⟩)
        rw [step, aborts.held]
        exact List.mem_filter.mpr ⟨listed entry (by simp [member]), by simpa using other⟩
      rw [List.foldl_cons]
      rw [step] at after later ⊢
      obtain ⟨number, clears⟩ := ih _ after later distinct.2 (count + 1)
      refine ⟨by rw [number, List.length_cons]; omega, ?_⟩
      refine clears_first reason now board _ _ record token rest found aborts ?_ distinct.1
        clears
      intro other
      rw [cancelToken, Tokens.cancel_cancelled, moved_tokens]
      rfl

end Sweep

section All

variable (board : Board) (reason : String) (now : Instant)

theorem active_ids : board.active.map TaskRecord.id = board.store.activeIds := rfl

theorem active_tasks (balanced : board.Balanced) : board.tasksOf board.tokens.held = board.active := by
  have byId : board.tasksOf board.tokens.held =
      (board.tokens.held.map Prod.fst).filterMap board.store.find? := by
    rw [List.filterMap_map]
    rfl
  have each : ∀ record ∈ board.active,
      (board.store.find? ∘ TaskRecord.id) record = some record :=
    fun record member =>
      Store.member_found board.store balanced.intact record (List.mem_of_mem_filter member)
  rw [byId, balanced.tokens, ← active_ids, List.filterMap_map, List.filterMap_congr each,
    List.filterMap_some]

theorem active_tally :
    board.active.length = board.store.tally .pending + board.store.tally .running := by
  rw [active, Store.tally, Store.tally, ← List.countP_eq_length_filter]
  induction board.store.records with
  | nil => rfl
  | cons record rest ih =>
      simp only [List.countP_cons, ih]
      cases record.state <;> simp [TaskState.isTerminal] <;> omega

theorem finished_repeated (finished : List (TaskState × Nat)) (state : TaskState) (times : Nat) :
    ((((Metrics.addFinished .cancelled)^[times] finished).find? fun entry =>
        entry.1 == state).map Prod.snd).getD 0 =
      ((finished.find? fun entry => entry.1 == state).map Prod.snd).getD 0 +
        if state = .cancelled then times else 0 := by
  induction times with
  | zero => simp
  | succ times ih =>
      rw [Function.iterate_succ_apply', Metrics.finished_in_added, ih]
      by_cases same : state = .cancelled
      · rw [if_pos same, if_pos same, if_pos same.symm]
        omega
      · rw [if_neg same, if_neg same, if_neg (Ne.symm same)]

theorem held_tokens (balanced : board.Balanced) (token : Nat) :
    token ∈ board.tokens.held.map Prod.snd ↔
      ∃ record ∈ board.active, (record.id, token) ∈ board.tokens.held := by
  rw [List.mem_map]
  constructor
  · rintro ⟨⟨id, _⟩, held, rfl⟩
    obtain ⟨record, stored, active⟩ := (held_iff board balanced id).mp ⟨_, held⟩
    obtain rfl := Store.find_has_id board.store id record stored
    exact ⟨record, List.mem_filter.mpr ⟨Store.find_member _ _ _ stored, by simp [active]⟩, held⟩
  · rintro ⟨record, _, held⟩
    exact ⟨_, held, rfl⟩

theorem active_holds (balanced : board.Balanced) (record : TaskRecord)
    (member : record ∈ board.active) : ∃ token, board.tokens.find? record.id = some token := by
  obtain ⟨stored, active⟩ := List.mem_filter.mp member
  obtain ⟨token, held⟩ := (held_iff board balanced record.id).mpr
    ⟨record, Store.member_found board.store balanced.intact record stored, by simpa using active⟩
  cases holds : board.tokens.find? record.id with
  | some token => exact ⟨token, rfl⟩
  | none => exact absurd rfl ((Tokens.find_none_iff_unheld _ _).mp holds _ held)

theorem held_length (balanced : board.Balanced) :
    board.tokens.held.length = board.active.length := by
  have same := congrArg List.length balanced.tokens
  rwa [← active_ids, List.length_map, List.length_map] at same

theorem order_clears (balanced : board.Balanced) (entries : List (TaskId × Nat))
    (order : entries.Perm board.tokens.held) :
    (board.sweep reason now entries).2 = board.active.length ∧
      Clears board reason now entries (board.sweep reason now entries).1 ∧
      (board.sweep reason now entries).1.Balanced := by
  have listed : ∀ entry ∈ entries, entry ∈ board.tokens.held := fun entry => order.mem_iff.mp
  have ids := order.map Prod.fst
  have distinct : (entries.map Prod.fst).Nodup := by
    rw [ids.nodup_iff, balanced.tokens]
    exact (balanced.intact.distinct.sublist ((List.filter_sublist).map _))
  obtain ⟨number, clears⟩ := sweep_clears reason now board balanced entries listed distinct 0
  have valid : Entries board entries :=
    fun entry member => held_entries board balanced entry (listed entry member)
  refine ⟨?_, clears, balanced_evolves _ _ (sweep_evolves reason now board balanced entries valid 0)
    balanced⟩
  rw [← held_length board balanced, ← order.length_eq, sweep, number, Nat.zero_add]

theorem active_listed (balanced : board.Balanced) (entries : List (TaskId × Nat))
    (order : entries.Perm board.tokens.held) (record : TaskRecord)
    (member : record ∈ board.store.records) :
    record.id ∈ entries.map Prod.fst ↔ record.state.isTerminal = false := by
  have found := Store.member_found board.store balanced.intact record member
  rw [(order.map Prod.fst).mem_iff, balanced.tokens, Store.active_iff board.store balanced.intact]
  constructor
  · rintro ⟨other, stored, active⟩
    rw [found, Option.some.injEq] at stored
    exact stored ▸ active
  · exact fun active => ⟨record, found, active⟩

-- Whatever the order was, each record that was active has been moved on, and the others are there.
theorem sweep_records (balanced : board.Balanced) (entries : List (TaskId × Nat))
    (order : entries.Perm board.tokens.held) (after : Board)
    (clears : Clears board reason now entries after) :
    after.store.records = board.store.records.map (aborted reason now) := by
  rw [clears.records]
  apply List.map_congr_left
  intro record member
  have listed := active_listed board balanced entries order record member
  by_cases ended : record.state.isTerminal = true
  · rw [aborted_kept reason now record ended, ite_self]
  · rw [if_pos (listed.mpr (by simpa using ended))]

theorem sweep_tasks (balanced : board.Balanced) (entries : List (TaskId × Nat))
    (order : entries.Perm board.tokens.held) : (board.tasksOf entries).Perm board.active := by
  rw [← active_tasks board balanced]
  exact order.filterMap _

theorem sweep_found (after : Board) (same : after.store.Intact)
    (records : after.store.records = board.store.records.map (aborted reason now))
    (record : TaskRecord) (member : record ∈ board.store.records) :
    after.store.find? record.id = some (aborted reason now record) := by
  have moved : aborted reason now record ∈ after.store.records := by
    rw [records]
    exact List.mem_map_of_mem member
  have found := Store.member_found after.store same _ moved
  rwa [aborted_id] at found

theorem tally_closed (store : Store)
    (closed : ∀ record ∈ store.records, record.state.isTerminal = true) (state : TaskState)
    (open_ : state.isTerminal = false) : store.tally state = 0 := by
  rw [Store.tally, List.countP_eq_zero]
  intro record member same
  rw [← eq_of_beq same, closed record member] at open_
  cases open_

theorem sweep_closed (after : Board) (balanced : after.Balanced)
    (records : after.store.records = board.store.records.map (aborted reason now)) :
    (∀ record ∈ after.store.records, record.state.isTerminal = true) ∧
      after.waiting = 0 ∧ after.metrics.pending = 0 ∧ after.metrics.running = 0 := by
  have closed : ∀ record ∈ after.store.records, record.state.isTerminal = true := by
    rw [records]
    intro record member
    obtain ⟨old, _, rfl⟩ := List.mem_map.mp member
    exact aborted_terminal reason now old
  have waits := tally_closed after.store closed .pending rfl
  have works := tally_closed after.store closed .running rfl
  exact ⟨closed, by rw [balanced.waiting, waits]; rfl, by rw [balanced.pending, waits],
    by rw [balanced.running, works]⟩

theorem sweep_clears_board (balanced : board.Balanced) (typed : board.Typed)
    (entries : List (TaskId × Nat)) (order : entries.Perm board.tokens.held) :
    Cleared board reason now (board.sweep reason now entries).1
      (board.sweep reason now entries).2 := by
  obtain ⟨number, clears, after⟩ := order_clears board reason now balanced entries order
  have length : entries.length = (board.sweep reason now entries).2 := by
    rw [order.length_eq, number, held_length board balanced]
  generalize (board.sweep reason now entries).1 = last at clears after ⊢
  have records := sweep_records board reason now balanced entries order last clears
  have tasks := sweep_tasks board balanced entries order
  have found := sweep_found board reason now last after.intact records
  obtain ⟨closed, zero, waits, works⟩ := sweep_closed board reason now last after records
  have told (token : Nat) : token ∈ last.tokens.cancelled ↔ token ∈ board.tokens.cancelled ∨
      ∃ record ∈ board.active, (record.id, token) ∈ board.tokens.held := by
    rw [clears.told, (order.map Prod.snd).mem_iff, held_tokens board balanced]
  refine ⟨closed, ?_, ?_, ?_, ?_, told, ?_, ?_, ?_, ?_, ?_, clears.submitted, ?_, ?_⟩
  · intro record member active
    have stored := Store.member_found board.store balanced.intact record member
    obtain ⟨kind, known⟩ := typed record.id record stored active
    refine ⟨kind, known, ?_⟩
    rw [found record member, aborted, if_neg (by simp [active]), abortion, Failure.of_kind_new, known]
  · intro record member ended
    rw [found record member, aborted_kept reason now record ended]
  · rw [Store.ids, Store.ids, records, List.map_map]
    exact List.map_congr_left fun record _ => aborted_id reason now record
  · intro record member
    obtain ⟨token, holds⟩ := active_holds board balanced record member
    exact ⟨token, holds, (told token).mpr (.inr ⟨record, member, find_held _ _ _ holds⟩)⟩
  · exact ⟨_, clears.published, tasks.map _⟩
  · rw [← active_tally, ← number]
  · rw [clears.held, List.filter_eq_nil_iff]
    intro entry held
    simpa using ⟨entry.2, order.mem_iff.mpr held⟩
  · refine ⟨zero, ?_⟩
    rw [pending, zero]
    rfl
  · exact ⟨waits, works⟩
  · intro state
    rw [Metrics.finishedIn, clears.finished, finished_repeated, length]
    rfl
  · intro reference
    rw [clears.executions, tasks.countP_eq]

theorem sweep_standing (balanced : board.Balanced) (first second : List (TaskId × Nat))
    (one : first.Perm board.tokens.held) (other : second.Perm board.tokens.held) :
    (board.sweep reason now first).1.standing = (board.sweep reason now second).1.standing := by
  have sums (entries : List (TaskId × Nat)) (order : entries.Perm board.tokens.held) :
      (board.sweep reason now entries).1.standing =
        { records := board.store.records.map (aborted reason now)
          waiting := 0
          submitted := board.metrics.submitted
          pending := 0
          running := 0
          finished := (Metrics.addFinished .cancelled)^[board.tokens.held.length]
            board.metrics.finished
          executions := fun reference => board.metrics.executions reference +
            board.active.countP fun record =>
              record.reference == reference && (lapse now record).isSome } := by
    obtain ⟨_, clears, after⟩ := order_clears board reason now balanced entries order
    have records := sweep_records board reason now balanced entries order _ clears
    obtain ⟨_, zero, waits, works⟩ := sweep_closed board reason now _ after records
    have executed (reference : String) := clears.executions reference
    simp only [(sweep_tasks board balanced entries order).countP_eq] at executed
    rw [standing, records, clears.submitted, clears.finished, zero, waits, works, order.length_eq,
      funext executed]
  rw [sums first one, sums second other]

end All

theorem cancel_all_clears (room : Nat) (history : List (Instant × Call))
    (lawful : (Board.empty room).Lawful history) (reason : String) (now : Instant) :
    let board := (Board.empty room).run history
    let result := board.cancelAll reason now
    Cleared board reason now result.1 result.2 ∧
      ∀ entries, entries.Perm board.tokens.held →
        Cleared board reason now (board.sweep reason now entries).1
          (board.sweep reason now entries).2 ∧
        (board.sweep reason now entries).1.standing = result.1.standing := by
  intro board result
  have start := balanced_empty room
  have balanced : board.Balanced := balanced_run _ start history lawful
  have typed : board.Typed := run_typed _ start (fun _ _ found => by cases found) history lawful
  have each (entries : List (TaskId × Nat)) (order : entries.Perm board.tokens.held) :=
    sweep_clears_board board reason now balanced typed entries order
  refine ⟨each board.tokens.held (.refl _), fun entries order => ⟨each entries order, ?_⟩⟩
  exact sweep_standing board reason now balanced entries board.tokens.held order (.refl _)

def mixedDay : List (Instant × Call) :=
  let task (number : Nat) (kind : Kind) : Assignment :=
    Assignment.ofRequest (Request.new "tasks:shift") (TaskId.ofNumber number) kind Instant.epoch
  let calls : List Call :=
    [.enroll (task 1 .sync) none, .enroll (task 2 .async) none, .markRunning (task 2 .async),
      .enroll (task 3 .sync) none, .markRunning (task 3 .sync),
      .finish (task 3 .sync) .succeeded (.success .null),
      .reject (TaskId.ofNumber 4) "tasks:gone" (.notFound "tasks:gone")]
  calls.map fun call => (Instant.epoch, call)

theorem mixed_day_cleared :
    (Board.empty 4).Lawful mixedDay ∧
      let board := (Board.empty 4).run mixedDay
      let result := board.sweep "Scheduler stopped" Instant.epoch board.tokens.held.reverse
      board.tokens.held = [(TaskId.ofNumber 1, 0), (TaskId.ofNumber 2, 1)] ∧ result.2 = 2 ∧
        result.1.tokens.held = [] ∧ result.1.waiting = 0 ∧
        result.1.metrics.finishedIn .cancelled = 2 ∧
        result.1.standing = (board.cancelAll "Scheduler stopped" Instant.epoch).1.standing := by
  have lawful : (Board.empty 4).Lawful mixedDay := by decide +kernel
  obtain ⟨_, others⟩ := cancel_all_clears 4 mixedDay lawful "Scheduler stopped" Instant.epoch
  obtain ⟨cleared, same⟩ := others _ (List.reverse_perm _)
  have number := cleared.number
  have finished := cleared.finished .cancelled
  rw [if_pos rfl, number] at finished
  exact ⟨lawful, by decide +kernel, number.trans (by decide +kernel), cleared.tokens,
    cleared.waiting.1, finished.trans (by decide +kernel), same⟩

end Foreman.Board
