import Foreman.Proofs.Board.Ledger
import Foreman.Proofs.Board.Story
import Mathlib.Algebra.Ring.Nat

set_option autoImplicit false

namespace Foreman.Board

def boards (board : Board) : List (Instant × Call) → List Board
  | [] => []
  | (now, call) :: rest => board.perform now call :: (board.perform now call).boards rest

def Call.entrants (board : Board) (now : Instant) : Call → List TaskId
  | .enroll assignment capacity =>
      if (board.enroll assignment capacity now).2.isOk then [assignment.id] else []
  | .reject id reference cause =>
      if (board.reject id reference cause now).2.isOk then [id] else []
  | _ => []

def entrants (board : Board) : List (Instant × Call) → List TaskId
  | [] => []
  | (now, call) :: rest => call.entrants board now ++ (board.perform now call).entrants rest

def seen (boards : List Board) (id : TaskId) (look : TaskRecord → Bool) : Bool :=
  boards.any fun board => (board.store.find? id).any look

def Call.Titled (reference : TaskId → String) : Call → Prop
  | .enroll assignment _ | .markRunning assignment | .finish assignment _ _ =>
      assignment.reference = reference assignment.id
  | .reject id title _ => title = reference id
  | _ => True

instance (reference : TaskId → String) (call : Call) : Decidable (call.Titled reference) :=
  match call with
  | .enroll assignment _ | .markRunning assignment | .finish assignment _ _ =>
      inferInstanceAs (Decidable (assignment.reference = reference assignment.id))
  | .reject id title _ => inferInstanceAs (Decidable (title = reference id))
  | .cancel _ | .cancelAll _ | .evict _ | .cancelToken _ | .setJobs _ | .setUtilization _ _
  | .publish _ => isTrue trivial

theorem titled_refers (reference : TaskId → String) (call : Call) (titled : call.Titled reference)
    (id : TaskId) : call.Refers id (reference id) := by
  cases call with
  | enroll assignment _ | markRunning assignment | finish assignment _ _ =>
      rintro rfl
      exact titled
  | reject task title _ =>
      rintro rfl
      exact titled
  | cancel _ | cancelAll _ | evict _ | cancelToken _ | setJobs _ | setUtilization _ _ | publish _ =>
      trivial

section Calls

variable (board : Board) (now : Instant)

def Booked (came : List TaskId) (next : Board) : Prop :=
  ∃ left, Postings now board came left next ∧
    ∀ record ∈ left, board.store.find? record.id = some record

theorem booked_one (came : List TaskId) (next : Board) (posting : Posting now board came [] next) :
    Booked board now came next :=
  ⟨[], postings_one now board next came [] posting, by simp⟩

theorem booked_aside (next : Board) (store : next.store = board.store)
    (metrics : next.metrics = board.metrics) : Booked board now [] next :=
  booked_one board now [] next (.aside next store (metrics ▸ ⟨rfl, rfl, rfl⟩))

theorem enroll_booked (intact : board.store.Intact) (assignment : Assignment)
    (capacity : Option Nat) (absent : board.store.find? assignment.id = none) :
    Booked board now ((Call.enroll assignment capacity).entrants board now)
      (board.enroll assignment capacity now).1 := by
  rw [Call.entrants]
  cases full : board.isFull capacity with
  | true =>
      rw [enroll_full board assignment capacity now full]
      exact booked_aside board now board rfl rfl
  | false =>
      rw [enroll_free board assignment capacity now intact absent full]
      exact booked_one board now _ _ (.admitted assignment _ absent rfl rfl)

theorem reject_booked (intact : board.store.Intact) (id : TaskId) (reference : String)
    (cause : ResolutionError) (absent : board.store.find? id = none) :
    Booked board now ((Call.reject id reference cause).entrants board now)
      (board.reject id reference cause now).1 := by
  rw [Call.entrants, reject_done board id reference cause now intact absent]
  exact booked_one board now _ _
    (.refused (refusal id reference cause now) _ absent rfl rfl rfl rfl)

theorem finish_booked (intact : board.store.Intact) (assignment : Assignment) (state : TaskState)
    (outcome : Outcome) (terminal : state.isTerminal = true)
    (named : ∀ record, board.store.find? assignment.id = some record →
      assignment.reference = record.reference) :
    Booked board now [] (board.finish assignment state outcome now).1 := by
  rcases end_cases board now intact assignment.id assignment.reference TaskState.active state outcome
    with ⟨record, found, active, _, won⟩ | ⟨_, lost⟩
  · have has := Store.find_has_id board.store assignment.id record found
    rw [finish, won, named record found]
    exact booked_one board now _ _ (.ended record state outcome (has ▸ found) active terminal)
  · rw [finish, lost]
    exact booked_aside board now board rfl rfl

-- The token of a task that is cancelled is cancelled as well, which is not counted.
theorem cancelled_postings (record : TaskRecord) (outcome : Outcome) (next : Board)
    (found : board.store.find? record.id = some record) (active : record.state.isTerminal = false)
    (store : next.store =
      (board.moved record record.reference .cancelled (some outcome) now).store)
    (metrics : next.metrics =
      (board.moved record record.reference .cancelled (some outcome) now).metrics) :
    Postings now board [] [] next := by
  have first := postings_one now board _ [] [] (.ended record .cancelled outcome found active rfl)
  exact .step _ next [] [] [] [] first (.aside next store (metrics ▸ ⟨rfl, rfl, rfl⟩))

theorem cancel_token_metrics (token : Option Nat) :
    (board.cancelToken? token).metrics = board.metrics := by
  cases token <;> rfl

theorem cancel_booked (intact : board.store.Intact) (id : TaskId) :
    Booked board now [] (board.cancel id now).1 := by
  cases found : board.store.find? id with
  | none =>
      rw [cancel_absent board now intact id found]
      exact booked_aside board now board rfl rfl
  | some record =>
      have has := Store.find_has_id board.store id record found
      by_cases open_ : record.state.isTerminal = false ∧ record.state ∈ cancellable record
      · rw [cancel_won board now intact id record found open_.1 open_.2]
        exact ⟨[], cancelled_postings board now record (cancellation record now) _ (has ▸ found)
          open_.1 (cancel_token_store _ _) (cancel_token_metrics _ _), by simp⟩
      · have refused : record.state.isTerminal = true ∨ record.state ∉ cancellable record := by
          by_cases ended : record.state.isTerminal = true
          · exact .inl ended
          · exact .inr fun awaited => open_ ⟨by simpa using ended, awaited⟩
        rw [cancel_lost board now intact id record found refused]
        exact booked_aside board now board rfl rfl

theorem sweep_postings (intact : board.store.Intact) (reason : String)
    (entries : List (TaskId × Nat)) (count : Nat) :
    Postings now board [] [] (entries.foldl (cancelOne reason now) (board, count)).1 := by
  induction entries generalizing board count with
  | nil => exact .refl
  | cons entry rest ih =>
      have first : Postings now board [] [] (cancelOne reason now (board, count) entry).1 := by
        cases found : board.store.find? entry.1 with
        | none =>
            rw [cancel_one_absent board reason now entry.1 entry.2 count intact found]
            exact .refl
        | some record =>
            have has := Store.find_has_id board.store entry.1 record found
            cases ended : record.state.isTerminal with
            | false =>
                rw [cancel_one_active board reason now entry.1 entry.2 count intact record found ended]
                exact cancelled_postings board now record (abortion reason record now) _
                  (has ▸ found) ended rfl rfl
            | true =>
                rw [cancel_one_ended board reason now entry.1 entry.2 count intact record found ended]
                exact postings_one now board _ [] [] (.aside _ rfl ⟨rfl, rfl, rfl⟩)
      have later := ih _ (postings_intact now board intact [] [] _ first)
        (cancelOne reason now (board, count) entry).2
      exact postings_trans now board _ _ [] [] [] [] first later

theorem evict_booked (intact : board.store.Intact) (id : TaskId) :
    Booked board now [] (board.evict id).1 := by
  cases found : board.store.find? id with
  | none =>
      rw [evict_absent board id intact found]
      exact booked_aside board now board rfl rfl
  | some record =>
      cases ended : record.state.isTerminal with
      | false =>
          rw [evict_active board id intact record found ended]
          exact booked_aside board now board rfl rfl
      | true =>
          have has := Store.find_has_id board.store id record found
          rw [evict_ended board id intact record found ended]
          rw [← has] at found ⊢
          refine ⟨[record], postings_one now board _ _ _ (.evicted record found ended), ?_⟩
          intro other member
          rw [List.mem_singleton.mp member]
          exact found

theorem perform_booked (intact : board.store.Intact) (call : Call) (lawful : call.Lawful board)
    (reference : TaskId → String) (titled : call.Titled reference)
    (known : ∀ record ∈ board.store.records, record.reference = reference record.id) :
    Booked board now (call.entrants board now) (board.perform now call) := by
  cases call with
  | enroll assignment capacity => exact enroll_booked board now intact assignment capacity lawful
  | reject id title cause => exact reject_booked board now intact id title cause lawful
  | markRunning assignment =>
      rw [perform]
      rcases mark_running_cases board now intact assignment with ⟨record, found, waits, won⟩ | ⟨_, lost⟩
      · have has := Store.find_has_id board.store assignment.id record found
        rw [won]
        exact booked_one board now _ _ (.started record assignment.reference (has ▸ found) waits)
      · rw [lost]
        exact booked_aside board now board rfl rfl
  | finish assignment state outcome =>
      refine finish_booked board now intact assignment state outcome lawful fun record found => ?_
      have own := known record (Store.find_member _ _ _ found)
      rw [Store.find_has_id _ _ _ found] at own
      exact Eq.trans titled own.symm
  | cancel id => exact cancel_booked board now intact id
  | cancelAll reason =>
      exact ⟨[], sweep_postings board now intact reason board.tokens.held 0, by simp⟩
  | evict id => exact evict_booked board now intact id
  | cancelToken _ | setJobs _ | publish _ => exact booked_aside board now _ rfl rfl
  | setUtilization busy size => exact booked_one board now _ _ (.aside _ rfl ⟨rfl, rfl, rfl⟩)

end Calls

structure Lived (past : List Board) (record : TaskRecord) : Prop where
  shown : ∃ earlier ∈ past, earlier.store.find? record.id = some record
  started : seen past record.id (·.state == .running) = record.startedAt.isSome
  final : ∀ earlier ∈ past, ∀ old, earlier.store.find? record.id = some old →
    old.state.isTerminal = true → old = record

section Lived

variable (past : List Board) (next : Board) (record : TaskRecord)

theorem seen_next (id : TaskId) (look : TaskRecord → Bool) :
    seen (past ++ [next]) id look = (seen past id look || (next.store.find? id).any look) := by
  simp [seen]

theorem lived_on (lived : Lived past record)
    (kept : next.store.find? record.id = none ∨ next.store.find? record.id = some record) :
    Lived (past ++ [next]) record := by
  obtain ⟨earlier, member, found⟩ := lived.shown
  refine ⟨⟨earlier, by simp [member], found⟩, ?_, ?_⟩
  · rw [seen_next, ← lived.started]
    rcases kept with gone | same
    · simp [gone]
    · have known : record.state = .running → seen past record.id (·.state == .running) = true :=
        fun running => List.any_eq_true.mpr ⟨earlier, member, by simp [found, running]⟩
      by_cases running : record.state = .running
      · simp [known running]
      · simp [same, running]
  · intro other present old stored terminal
    rcases List.mem_append.mp present with before | last
    · exact lived.final other before old stored terminal
    · rw [List.mem_singleton.mp last] at stored
      rcases kept with gone | same
      · rw [gone] at stored
        cases stored
      · exact Option.some.inj (stored.symm.trans same)

theorem lived_ended (lived : Lived past record) (look : TaskRecord → Bool) :
    seen past record.id (fun old => old.state.isTerminal && look old) =
      (record.state.isTerminal && look record) := by
  rw [Bool.eq_iff_iff, seen, List.any_eq_true]
  constructor
  · rintro ⟨earlier, member, saw⟩
    obtain ⟨old, found, looked⟩ : ∃ old, earlier.store.find? record.id = some old ∧
        (old.state.isTerminal && look old) = true := by
      cases found : earlier.store.find? record.id with
      | none => simp [found] at saw
      | some old => exact ⟨old, rfl, by simpa [found] using saw⟩
    have terminal : old.state.isTerminal = true := by simp_all
    exact lived.final earlier member old found terminal ▸ looked
  · intro looks
    obtain ⟨earlier, member, found⟩ := lived.shown
    exact ⟨earlier, member, by simpa [found] using looks⟩

theorem lived_new (unseen : ∀ earlier ∈ past, earlier.store.find? record.id = none)
    (found : next.store.find? record.id = some record) (unstarted : record.startedAt = none)
    (resting : record.state ≠ .running) : Lived (past ++ [next]) record := by
  have before : seen past record.id (·.state == .running) = false := by
    rw [seen, List.any_eq_false]
    intro earlier member
    simp [unseen earlier member]
  refine ⟨⟨next, by simp, found⟩, ?_, ?_⟩
  · simp [seen_next, before, found, unstarted, resting]
  · intro other present old stored _
    rcases List.mem_append.mp present with earlier | last
    · rw [unseen other earlier] at stored
      cases stored
    · rw [List.mem_singleton.mp last, found] at stored
      exact (Option.some.inj stored).symm

theorem lived_moved (old : TaskRecord) (lived : Lived past old) (same : record.id = old.id)
    (active : old.state.isTerminal = false) (found : next.store.find? record.id = some record)
    (started : record.startedAt.isSome = (old.startedAt.isSome || record.state == .running)) :
    Lived (past ++ [next]) record := by
  refine ⟨⟨next, by simp, found⟩, ?_, ?_⟩
  · rw [seen_next, found, started, same, lived.started]
    rfl
  · intro other present ended stored terminal
    rcases List.mem_append.mp present with earlier | last
    · rw [same] at stored
      rw [lived.final other earlier ended stored terminal, active] at terminal
      cases terminal
    · rw [List.mem_singleton.mp last, found] at stored
      exact (Option.some.inj stored).symm

theorem lived_turn (now : Instant) (id : TaskId) (call : Call) (before : Option TaskRecord)
    (added : List Event) (has : record.id = id) (found : next.store.find? id = some record)
    (lived : ∀ old, before = some old → old.id = id ∧ Lived past old)
    (unseen : before = none → ∀ earlier ∈ past, earlier.store.find? id = none)
    (turn : Turn now id call before (some record) added) : Lived (past ++ [next]) record := by
  cases turn with
  | kept _ _ => exact lived_on past next record (lived record rfl).2 (.inr (has ▸ found))
  | enrolled assignment _ named =>
      exact lived_new past next (.pending assignment) (has ▸ unseen rfl) (has ▸ found) rfl
        (by simp [TaskRecord.pending])
  | rejected reference cause =>
      exact lived_new past next (refusal id reference cause now) (unseen rfl) found rfl
        (by simp [refusal, TaskRecord.unresolved])
  | started assignment old named waits _ =>
      obtain ⟨own, lived⟩ := lived old rfl
      exact lived_moved past next _ old lived rfl (by rw [waits]; rfl) (has ▸ found)
        (by simp [TaskRecord.moved])
  | ended _ old reference state outcome _ active terminal _ =>
      obtain ⟨own, lived⟩ := lived old rfl
      have resting : state ≠ .running := by
        rintro rfl
        cases terminal
      exact lived_moved past next _ old lived rfl active (has ▸ found)
        (by simp [TaskRecord.moved, resting])

end Lived

section Witnessed

variable (reference : TaskId → String)

structure Witnessed (past : List Board) (tasks : List TaskId) (board : Board)
    (gone : List TaskRecord) : Prop where
  members : (board.store.ids ++ gone.map TaskRecord.id).Perm tasks
  known : ∀ earlier ∈ past, ∀ id ∈ earlier.store.ids, id ∈ tasks
  lived : ∀ record ∈ board.store.records ++ gone, Lived past record
  titled : ∀ record ∈ board.store.records, record.reference = reference record.id

variable (past : List Board) (tasks : List TaskId) (board : Board) (gone : List TaskRecord)
  (now : Instant) (call : Call)

theorem titled_perform (balanced : board.Balanced) (lawful : call.Lawful board)
    (titled : call.Titled reference) (intact : (board.perform now call).store.Intact)
    (named : ∀ record ∈ board.store.records, record.reference = reference record.id)
    (record : TaskRecord) (stored : record ∈ (board.perform now call).store.records) :
    record.reference = reference record.id := by
  have found := Store.member_found _ intact record stored
  obtain ⟨added, turn⟩ := perform_turn board balanced now call lawful record.id
  have before : Referred record.id (reference record.id) [] (board.store.find? record.id) := by
    refine ⟨by simp, fun old same => ?_⟩
    have has := Store.find_has_id _ _ _ same
    exact ⟨has, has ▸ named old (Store.find_member _ _ _ same)⟩
  have after := turn_referred record.id (reference record.id) now call _ _ added []
    (titled_refers reference call titled record.id) turn before
  exact (after.2 record found).2

theorem members_perform (intact : board.store.Intact) (came : List TaskId) (left : List TaskRecord)
    (members : (board.store.ids ++ gone.map TaskRecord.id).Perm tasks)
    (postings : Postings now board came left (board.perform now call)) :
    ((board.perform now call).store.ids ++ (gone ++ left).map TaskRecord.id).Perm
      (tasks ++ came) := by
  have moved := postings_members now board intact came left _ postings
  rw [List.perm_iff_count] at moved members ⊢
  intro id
  have first := moved id
  have second := members id
  simp only [List.map_append, List.count_append] at first second ⊢
  omega

theorem witnessed_perform (balanced : board.Balanced) (lawful : call.Lawful board)
    (titled : call.Titled reference)
    (witnessed : Witnessed reference past tasks board gone) (came : List TaskId)
    (left : List TaskRecord) (fresh : (tasks ++ came).Nodup)
    (postings : Postings now board came left (board.perform now call))
    (leavers : ∀ record ∈ left, board.store.find? record.id = some record) :
    Witnessed reference (past ++ [board.perform now call]) (tasks ++ came) (board.perform now call)
      (gone ++ left) := by
  have intact := postings_intact now board balanced.intact came left _ postings
  have members := members_perform tasks board gone now call balanced.intact came left
    witnessed.members postings
  have apart := (List.nodup_append.mp (members.nodup_iff.mpr fresh)).2.2
  have left_behind (record : TaskRecord) (member : record ∈ gone ++ left) :
      (board.perform now call).store.find? record.id = none := by
    rw [Store.find_none_iff]
    exact fun stored => apart record.id stored record.id (List.mem_map_of_mem member) rfl
  refine ⟨members, ?_, ?_, ?_⟩
  · intro earlier member id stored
    rcases List.mem_append.mp member with before | last
    · exact List.mem_append_left came (witnessed.known earlier before id stored)
    · rw [List.mem_singleton.mp last] at stored
      exact members.subset (List.mem_append_left _ stored)
  · intro record member
    rcases List.mem_append.mp member with stored | away
    · have found := Store.member_found _ intact record stored
      obtain ⟨added, turn⟩ := perform_turn board balanced now call lawful record.id
      rw [found] at turn
      refine lived_turn past _ record now record.id call _ added rfl found ?_ ?_ turn
      · intro old before
        exact ⟨Store.find_has_id _ _ _ before, witnessed.lived old
          (List.mem_append_left gone (Store.find_member _ _ _ before))⟩
      · -- A task that is stored now and was not before is new, since those that are gone stay away.
        intro absent earlier before
        rw [Store.find_none_iff]
        intro known
        have task := witnessed.members.mem_iff.mpr (witnessed.known earlier before record.id known)
        rcases List.mem_append.mp task with here | elsewhere
        · exact (Store.find_none_iff board.store record.id).mp absent here
        · refine apart record.id (List.mem_map_of_mem stored) record.id ?_ rfl
          rw [List.map_append]
          exact List.mem_append_left _ elsewhere
    · refine lived_on past _ record ?_ (.inl (left_behind record away))
      rcases List.mem_append.mp away with before | leaving
      · exact witnessed.lived record (List.mem_append_right _ before)
      · exact witnessed.lived record
          (List.mem_append_left gone (Store.find_member _ _ _ (leavers record leaving)))
  · exact titled_perform reference board now call balanced lawful titled intact witnessed.titled

theorem witnessed_run (balanced : board.Balanced) (history : List (Instant × Call))
    (lawful : board.Lawful history)
    (titled : ∀ entry ∈ history, entry.2.Titled reference) (earlier : Instant)
    (clock : (earlier :: history.map Prod.fst).Pairwise (· ≤ ·))
    (counted : board.Counted gone earlier) (witnessed : Witnessed reference past tasks board gone)
    (fresh : (tasks ++ board.entrants history).Nodup) :
    ∃ away last, (board.run history).Counted away last ∧
      Witnessed reference (past ++ board.boards history) (tasks ++ board.entrants history)
        (board.run history) away := by
  induction history generalizing board past tasks gone earlier with
  | nil => exact ⟨gone, earlier, counted, by simpa [run, boards, entrants] using witnessed⟩
  | cons entry rest ih =>
      obtain ⟨now, call⟩ := entry
      obtain ⟨order, clock⟩ := List.pairwise_cons.mp clock
      have names : call.Titled reference := titled (now, call) (by simp)
      obtain ⟨left, postings, leavers⟩ := perform_booked board now balanced.intact call lawful.1
        reference names witnessed.titled
      have fresh : (tasks ++ call.entrants board now ++
          (board.perform now call).entrants rest).Nodup := by
        rw [List.append_assoc]
        exact fresh
      have next := witnessed_perform reference past tasks board gone now call balanced lawful.1 names
        witnessed _ left (List.nodup_append.mp fresh).1 postings leavers
      have later := counted_postings board gone now
        (counted_later board gone now earlier counted (order now (by simp))) _ left _ postings
      obtain ⟨away, last, ending, told⟩ := ih _ _ _ _
        (balanced_perform board balanced now call lawful.1) lawful.2
        (fun entry member => titled entry (by simp [member])) now clock later next fresh
      refine ⟨away, last, ending, ?_⟩
      rw [List.append_assoc, List.append_assoc] at told
      exact told

variable {reference past tasks board gone}

theorem witnessed_tally (witnessed : Witnessed reference past tasks board gone)
    (look : TaskRecord → Bool) (saw : TaskId → Bool)
    (agrees : ∀ record ∈ board.store.records ++ gone, saw record.id = look record) :
    (board.store.records ++ gone).countP look = tasks.countP saw := by
  rw [← witnessed.members.countP_eq saw, Store.ids, ← List.map_append, List.countP_map]
  exact List.countP_congr fun record member => by simp [agrees record member]

end Witnessed

theorem clock_starts (times : List Instant) (clock : times.Pairwise (· ≤ ·)) :
    ∃ earlier : Instant, (earlier :: times).Pairwise (· ≤ ·) := by
  cases times with
  | nil => exact ⟨Instant.epoch, List.pairwise_singleton _ _⟩
  | cons first rest =>
      refine ⟨first, List.pairwise_cons.mpr ⟨?_, clock⟩⟩
      intro now member
      rcases List.mem_cons.mp member with rfl | later
      · exact Int.le_refl _
      · exact (List.pairwise_cons.mp clock).1 now later

theorem length_by_state (records : List TaskRecord) :
    records.length =
      (TaskState.all.map fun state => records.countP fun record => record.state == state).sum := by
  induction records with
  | nil => rfl
  | cons record rest ih =>
      simp only [TaskState.all, List.map_cons, List.map_nil, List.sum_cons, List.sum_nil,
        List.length_cons, List.countP_cons] at ih ⊢
      cases record.state <;> simp <;> omega

theorem ended_total (metrics : Metrics) (records gone : List TaskRecord)
    (submitted : metrics.submitted = (records ++ gone).length)
    (finished : ∀ state, state.isTerminal = true → metrics.finishedIn state =
      (records ++ gone).countP fun record => record.state == state)
    (pending : metrics.pending = records.countP fun record => record.state == .pending)
    (running : metrics.running = records.countP fun record => record.state == .running)
    (ended : ∀ record ∈ gone, record.state.isTerminal = true) :
    metrics.submitted = metrics.pending + metrics.running +
      ((TaskState.all.filter TaskState.isTerminal).map metrics.finishedIn).sum := by
  have left (state : TaskState) (active : state.isTerminal = false) :
      ((records ++ gone).countP fun record => record.state == state) =
        records.countP fun record => record.state == state := by
    rw [List.countP_append, Nat.add_eq_left, List.countP_eq_zero]
    intro record member same
    have terminal := ended record member
    rw [eq_of_beq same, active] at terminal
    cases terminal
  have shares : TaskState.all.filter TaskState.isTerminal =
      [.succeeded, .failed, .timedOut, .cancelled] := rfl
  have total := length_by_state (records ++ gone)
  simp only [TaskState.all, List.map_cons, List.map_nil, List.sum_cons, List.sum_nil] at total
  rw [left .pending rfl, ← pending, left .running rfl, ← running] at total
  simp only [submitted, shares, List.map_cons, List.map_nil, List.sum_cons, List.sum_nil,
    finished .succeeded rfl, finished .failed rfl, finished .timedOut rfl, finished .cancelled rfl]
  omega

theorem task_counts_conserved (room : Nat) (history : List (Instant × Call))
    (lawful : (Board.empty room).Lawful history)
    (clock : (history.map Prod.fst).Pairwise (· ≤ ·))
    (fresh : ((Board.empty room).entrants history).Nodup) (reference : TaskId → String)
    (titled : ∀ entry ∈ history, entry.2.Titled reference) :
    let metrics := ((Board.empty room).run history).metrics
    let tasks := (Board.empty room).entrants history
    let boards := (Board.empty room).boards history
    metrics.submitted = tasks.length ∧
      metrics.submitted = metrics.pending + metrics.running +
        ((TaskState.all.filter TaskState.isTerminal).map metrics.finishedIn).sum ∧
      (∀ state, state.isTerminal = true → metrics.finishedIn state =
        tasks.countP fun id => seen boards id (·.state == state)) ∧
      (∀ title, metrics.executions title = tasks.countP fun id =>
        seen boards id (·.state == .running) &&
          seen boards id fun record => record.state.isTerminal && record.reference == title) ∧
      metrics.keys "tasks_executed" = metrics.keys "avg_task_duration" ∧
      metrics.keys "tasks_executed" = metrics.keys "last_run" ∧
      ∀ title, title ∈ metrics.keys "tasks_executed" ↔ 0 < metrics.executions title := by
  intro metrics tasks boards
  have start := balanced_empty room
  have balanced := balanced_run (Board.empty room) start history lawful
  obtain ⟨earlier, clock⟩ := clock_starts (history.map Prod.fst) clock
  have empty : Witnessed reference [] [] (Board.empty room) [] :=
    ⟨.refl _, by simp, by simp [Board.empty, Store.empty], by simp [Board.empty, Store.empty]⟩
  obtain ⟨gone, last, counted, witnessed⟩ := witnessed_run reference [] [] (Board.empty room) []
    start history lawful titled earlier clock (counted_empty earlier room) empty fresh
  rw [List.nil_append, List.nil_append] at witnessed
  have ordered : metrics.Ordered := run_ordered (Board.empty room) history Metrics.ordered_zero
  have listed := Metrics.keys_executed metrics ordered
  refine ⟨?_, ?_, ?_, ?_, ?_, ?_, ?_⟩
  · have size := witnessed.members.length_eq
    simp only [Store.ids, List.length_append, List.length_map] at size
    rw [← size, ← List.length_append]
    exact counted.submitted
  · exact ended_total metrics _ gone counted.submitted counted.finished balanced.pending
      balanced.running counted.ended
  · intro state terminal
    rw [counted.finished state terminal]
    refine witnessed_tally witnessed _ _ fun record member => ?_
    have ends (old : TaskRecord) : (old.state == state) =
        (old.state.isTerminal && old.state == state) := by
      by_cases same : old.state = state <;> simp [same, terminal]
    rw [funext ends]
    exact (lived_ended _ record (witnessed.lived record member) _).trans (ends record).symm
  · intro title
    rw [counted.executed title]
    refine witnessed_tally witnessed _ _ fun record member => ?_
    have lived := witnessed.lived record member
    have ended := lived_ended _ record lived (·.reference == title)
    rw [lived.started, ended, TaskRecord.ran, Bool.and_left_comm, Bool.and_assoc]
  · rw [listed _ (by simp), listed _ (by simp)]
  · rw [listed _ (by simp), listed _ (by simp)]
  · intro title
    rw [listed _ (by simp)]
    exact Metrics.executed_reference metrics ordered title

def dayTask (number : Nat) (reference : String) (kind : Kind) : Assignment :=
  Assignment.ofRequest (Request.new reference) (TaskId.ofNumber number) kind Instant.epoch

def busyDay : List (Instant × Call) :=
  let first := dayTask 1 "math:add" .sync
  let second := dayTask 2 "math:add" .async
  let third := dayTask 3 "mail:send" .sync
  let calls : List Call :=
    [.enroll first (some 3), .enroll second (some 3), .enroll third (some 3),
      .enroll (dayTask 4 "mail:send" .sync) (some 3), .markRunning first, .markRunning second,
      .reject (TaskId.ofNumber 9) "no:where" (.notFound "no:where"),
      .finish first .succeeded (.success .null), .cancel second.id, .evict first.id,
      .finish first .failed (.success .null), .enroll (dayTask 5 "mail:read" .sync) (some 3),
      .markRunning third, .cancelAll "Scheduler stopped", .evict (TaskId.ofNumber 5),
      .enroll (dayTask 6 "mail:read" .async) (some 3)]
  calls.zipIdx.map fun (call, step) => ((Instant.epoch.addNanos? step).getD Instant.epoch, call)

def dayReference (id : TaskId) : String :=
  if id = TaskId.ofNumber 9 then "no:where"
  else if id = TaskId.ofNumber 1 ∨ id = TaskId.ofNumber 2 then "math:add"
  else if id = TaskId.ofNumber 3 ∨ id = TaskId.ofNumber 4 then "mail:send"
  else "mail:read"

theorem busy_day_conserved :
    (Board.empty 8).Lawful busyDay ∧ (busyDay.map Prod.fst).Pairwise (· ≤ ·) ∧
      (Board.empty 8).entrants busyDay = [1, 2, 3, 9, 5, 6].map TaskId.ofNumber ∧
      let metrics := ((Board.empty 8).run busyDay).metrics
      metrics.submitted = 6 ∧ metrics.pending = 1 ∧ metrics.running = 0 ∧
        metrics.finishedIn .succeeded = 1 ∧ metrics.finishedIn .failed = 1 ∧
        metrics.finishedIn .cancelled = 3 ∧ metrics.executions "math:add" = 2 ∧
        metrics.executions "mail:send" = 1 ∧ metrics.executions "mail:read" = 0 ∧
        "mail:send" ∈ metrics.keys "last_run" ∧ "mail:read" ∉ metrics.keys "avg_task_duration" := by
  have lawful : (Board.empty 8).Lawful busyDay := by decide +kernel
  have clock : (busyDay.map Prod.fst).Pairwise (· ≤ ·) := by decide +kernel
  have tasks : (Board.empty 8).entrants busyDay = [1, 2, 3, 9, 5, 6].map TaskId.ofNumber := by
    decide +kernel
  have fresh : ((Board.empty 8).entrants busyDay).Nodup := by
    rw [tasks]
    decide +kernel
  have titled : ∀ entry ∈ busyDay, entry.2.Titled dayReference := by decide +kernel
  obtain ⟨submitted, total, finished, executed, means, ends, keys⟩ :=
    task_counts_conserved 8 busyDay lawful clock fresh dayReference titled
  have ended : [TaskState.succeeded, .failed, .cancelled].map
      ((Board.empty 8).run busyDay).metrics.finishedIn = [1, 1, 3] := by
    simp only [List.map_cons, List.map_nil, finished .succeeded rfl, finished .failed rfl,
      finished .cancelled rfl]
    decide +kernel
  have ran : ["math:add", "mail:send", "mail:read"].map
      ((Board.empty 8).run busyDay).metrics.executions = [2, 1, 0] := by
    simp only [List.map_cons, List.map_nil, executed]
    decide +kernel
  simp only [List.map_cons, List.map_nil, List.cons.injEq, and_true] at ended ran
  refine ⟨lawful, clock, tasks, submitted.trans (congrArg List.length tasks), by decide +kernel,
    by decide +kernel, ended.1, ended.2.1, ended.2.2, ran.1, ran.2.1, ran.2.2, ?_, ?_⟩
  · rw [← ends, keys, ran.2.1]
    exact Nat.one_pos
  · rw [← means, keys, ran.2.2]
    exact Nat.lt_irrefl 0

end Foreman.Board
