import Foreman.Proofs.Scheduler.Admission
import Foreman.Proofs.Scheduler.Overlap

set_option autoImplicit false

namespace Foreman

def Board.noted (board : Board) (due : DueJob) (id : TaskId) (now : Instant) :
    Except SchedulerError Ticket → Board
  | .ok _ =>
      { board with jobs := board.jobs.recordFire due.id id }.publish
        ((Event.ofJob .jobFired due.id now).withTask id due.request.reference)
  | .error (.resolution task _) => { board with jobs := board.jobs.recordFire due.id task }
  | .error _ => board.publish (Event.ofJob .jobMissed due.id now)

theorem Board.balanced_noted (board : Board) (balanced : board.Balanced) (due : DueJob) (id : TaskId)
    (now : Instant) (result : Except SchedulerError Ticket) :
    (board.noted due id now result).Balanced := by
  unfold noted
  split <;> exact ⟨balanced.intact, balanced.guarded, balanced.waiting, balanced.pending,
    balanced.running, balanced.tokens, balanced.undecided⟩

inductive Turnout where
  | fired
  | failed
  | missed
deriving DecidableEq

namespace Turnout

def Leaves (scheduler next : Scheduler) (due : DueJob) (id : TaskId) (now : Instant) :
    Turnout → Prop
  | fired => ∃ callable : Callable,
      next.board.store =
          { scheduler.board.store with
            records := scheduler.board.store.records ++
              [{ id := id
                 reference := due.request.reference
                 kind := some callable.kind
                 state := .pending
                 outcome := none
                 submittedAt := now
                 startedAt := none
                 finishedAt := none }] } ∧
        next.board.jobs = scheduler.board.jobs.recordFire due.id id ∧
        next.board.bus.published = scheduler.board.bus.published ++
          [{ kind := .taskSubmitted
             time := now
             job := none
             task := some id
             reference := some due.request.reference
             outcome := none },
           { kind := .jobFired
             time := now
             job := some due.id
             task := some id
             reference := some due.request.reference
             outcome := none }]
  | failed => ∃ failure : Failure, failure.origin = .resolver ∧
      next.board.store =
          { scheduler.board.store with
            records := scheduler.board.store.records ++
              [{ id := id
                 reference := due.request.reference
                 kind := none
                 state := .failed
                 outcome := some (.failure failure)
                 submittedAt := now
                 startedAt := none
                 finishedAt := some now }] } ∧
        next.board.jobs = scheduler.board.jobs.recordFire due.id id ∧
        next.board.bus.published = scheduler.board.bus.published ++
          [{ kind := .taskFailed
             time := now
             job := none
             task := some id
             reference := some due.request.reference
             outcome := some (.failure failure) }]
  | missed =>
      next.board.store = scheduler.board.store ∧ next.board.jobs = scheduler.board.jobs ∧
        next.board.bus.published = scheduler.board.bus.published ++
          [{ kind := .jobMissed
             time := now
             job := some due.id
             task := none
             reference := none
             outcome := none }]

-- The kinds of the events tell the turnouts apart.
def traces : Turnout → List EventKind
  | fired => [.taskSubmitted, .jobFired]
  | failed => [.taskFailed]
  | missed => [.jobMissed]

variable (scheduler next : Scheduler) (due : DueJob) (id : TaskId) (now : Instant)
  (turnout : Turnout) (leaves : turnout.Leaves scheduler next due id now)

include leaves

theorem leaves_traces : next.board.bus.published.map Event.kind =
    scheduler.board.bus.published.map Event.kind ++ turnout.traces := by
  cases turnout with
  | fired =>
      obtain ⟨_, _, _, published⟩ := leaves
      rw [published, List.map_append]
      rfl
  | failed =>
      obtain ⟨_, _, _, _, published⟩ := leaves
      rw [published, List.map_append]
      rfl
  | missed =>
      rw [leaves.2.2, List.map_append]
      rfl

theorem leaves_once (other : Turnout) :
    other.Leaves scheduler next due id now ↔ other = turnout := by
  constructor
  · intro leavesOther
    have one := leaves_traces scheduler next due id now turnout leaves
    rw [leaves_traces scheduler next due id now other leavesOther, List.append_cancel_left_eq] at one
    cases other <;> cases turnout <;> first | rfl | cases one
  · rintro rfl
    exact leaves

theorem leaves_other (absent : scheduler.board.store.find? id = none) (other : TaskId)
    (apart : id ≠ other) :
    next.board.store.find? other = scheduler.board.store.find? other := by
  cases turnout with
  | fired =>
      obtain ⟨_, store, _⟩ := leaves
      rw [store]
      exact Board.stored_other scheduler.board _ absent other apart
  | failed =>
      obtain ⟨_, _, store, _⟩ := leaves
      rw [store]
      exact Board.stored_other scheduler.board _ absent other apart
  | missed => rw [leaves.1]

theorem leaves_jobs : next.board.jobs =
    if turnout = .missed then scheduler.board.jobs else scheduler.board.jobs.recordFire due.id id := by
  cases turnout with
  | fired =>
      obtain ⟨_, _, jobs, _⟩ := leaves
      exact jobs
  | failed =>
      obtain ⟨_, _, _, jobs, _⟩ := leaves
      exact jobs
  | missed => exact leaves.2.1

theorem leaves_own (entry : Job) (listed : scheduler.board.jobs.find? due.id = some entry) :
    next.board.jobs.find? due.id =
      some { entry with lastTask := if turnout = .missed then entry.lastTask else some id } := by
  rw [leaves_jobs scheduler next due id now turnout leaves]
  split
  · exact listed
  · rw [JobTable.record_fire_find, if_pos rfl, listed]
    rfl

theorem leaves_elsewhere (key : String) (apart : due.id ≠ key) :
    next.board.jobs.find? key = scheduler.board.jobs.find? key := by
  rw [leaves_jobs scheduler next due id now turnout leaves]
  split
  · rfl
  · rw [JobTable.record_fire_find, if_neg apart]

end Turnout

namespace Scheduler

section Fire

variable (scheduler : Scheduler) (due : DueJob) (id : TaskId) (now : Instant)

theorem fire_board :
    (scheduler.fireJob due id now).board =
      (scheduler.accept due.request id now).1.board.noted due id now
        (scheduler.accept due.request id now).2 := by
  unfold fireJob
  cases scheduler.accept due.request id now with
  | mk next result =>
      cases result with
      | ok ticket => exact dispatch_board _ ticket now
      | error error => cases error <;> rfl

theorem fire_balanced (balanced : scheduler.board.Balanced)
    (absent : scheduler.board.store.find? id = none) :
    (scheduler.fireJob due id now).board.Balanced := by
  obtain ⟨cache, board, result, same, accepted⟩ :=
    accept_cases scheduler due.request id now balanced.intact absent
  rw [fire_board, same]
  apply Board.balanced_noted
  change board.Balanced
  cases accepted with
  | entered ticket time named token =>
      subst named
      exact Board.balanced_enrolled scheduler.board balanced ticket.assignment absent time
  | refused record cause last named failed aside tokens =>
      exact Board.balanced_change _ _ _ aside
        (Board.balanced_change _ _ _ (.rejected record (named ▸ absent) failed) balanced)
  | full capacity => exact balanced

theorem fire_failed (cause : ResolutionError)
    (unknown : (scheduler.resolved due.request.reference).2 = .error cause)
    (intact : scheduler.board.store.Intact) (absent : scheduler.board.store.find? id = none) :
    Turnout.failed.Leaves scheduler (scheduler.fireJob due id now) due id now := by
  have done := Board.reject_done scheduler.board id due.request.reference cause now intact absent
  have board := fire_board scheduler due id now
  rw [accept_unresolved scheduler due.request id now cause unknown intact absent] at board
  refine ⟨Failure.new cause.message .resolver now, rfl, ?_, ?_, ?_⟩
  · rw [board]
    exact congrArg (fun result => result.1.store) done
  · rw [board]
    exact congrArg (fun result => result.1.jobs.recordFire due.id id) done
  · rw [board]
    exact congrArg (fun result => result.1.bus.published) done

theorem fire_missed (callable : Callable)
    (known : (scheduler.resolved due.request.reference).2 = .ok callable)
    (full : scheduler.board.isFull scheduler.settings.queueCapacity = true) :
    Turnout.missed.Leaves scheduler (scheduler.fireJob due id now) due id now := by
  have board := fire_board scheduler due id now
  rw [accept_full scheduler due.request id now callable known full] at board
  refine ⟨?_, ?_, ?_⟩ <;> rw [board] <;> rfl

theorem fire_fired (callable : Callable)
    (known : (scheduler.resolved due.request.reference).2 = .ok callable)
    (intact : scheduler.board.store.Intact) (absent : scheduler.board.store.find? id = none)
    (free : scheduler.board.isFull scheduler.settings.queueCapacity = false) :
    Turnout.fired.Leaves scheduler (scheduler.fireJob due id now) due id now := by
  have board := fire_board scheduler due id now
  rw [accept_free scheduler due.request id now callable known intact absent free] at board
  refine ⟨callable, ?_, ?_, ?_⟩
  · rw [board]
    rfl
  · rw [board]
    rfl
  · rw [board]
    exact List.append_assoc _ _ _

theorem fire_turnout (balanced : scheduler.board.Balanced)
    (absent : scheduler.board.store.find? id = none)
    (sized : Board.Sized scheduler.settings.queueCapacity)
    (within : scheduler.board.Within scheduler.settings.queueCapacity) :
    ∃ turnout : Turnout,
      turnout.Leaves scheduler (scheduler.fireJob due id now) due id now ∧
      (turnout = .failed ↔ ∃ cause, (scheduler.resolved due.request.reference).2 = .error cause) ∧
      (turnout = .missed ↔ (∃ callable, (scheduler.resolved due.request.reference).2 = .ok callable) ∧
        scheduler.settings.queueCapacity = some (scheduler.board.store.tally .pending)) := by
  have full := Board.full_iff scheduler.board balanced _ sized within
  cases known : (scheduler.resolved due.request.reference).2 with
  | error cause =>
      have leaves := fire_failed scheduler due id now cause known balanced.intact absent
      exact ⟨.failed, leaves, by simp, by simp⟩
  | ok callable =>
      by_cases crowded : scheduler.board.isFull scheduler.settings.queueCapacity = true
      · have leaves := fire_missed scheduler due id now callable known crowded
        exact ⟨.missed, leaves, by simp, by simp [full.mp crowded]⟩
      · have free := Bool.eq_false_iff.mpr crowded
        have leaves := fire_fired scheduler due id now callable known balanced.intact absent free
        exact ⟨.fired, leaves, by simp, by simp [mt full.mpr crowded]⟩

end Fire

def due (scheduler : Scheduler) (now : Instant) : List DueJob :=
  (scheduler.board.jobs.takeDue now scheduler.board.isActive).2

-- A pass after some of its turns.
def turn (scheduler : Scheduler) (ids : Nat → TaskId) (now : Instant) (index : Nat) : Scheduler :=
  (scheduler.withJobs (scheduler.board.jobs.takeDue now scheduler.board.isActive).1).fireEach ids now 0
    ((scheduler.due now).take index)

section Turns

variable (scheduler : Scheduler) (ids : Nat → TaskId) (now : Instant)

theorem fire_each_append (index : Nat) (first second : List DueJob) :
    scheduler.fireEach ids now index (first ++ second) =
      (scheduler.fireEach ids now index first).fireEach ids now (index + first.length) second := by
  induction first generalizing scheduler index with
  | nil => rfl
  | cons job rest ih =>
      rw [List.length_cons, Nat.add_comm rest.length, ← Nat.add_assoc]
      exact ih (scheduler.fireJob job (ids index) now) (index + 1)

theorem turn_next (index : Nat) (job : DueJob) (found : (scheduler.due now)[index]? = some job) :
    scheduler.turn ids now (index + 1) =
      (scheduler.turn ids now index).fireJob job (ids index) now := by
  have bound := (List.getElem?_eq_some_iff.mp found).1
  rw [turn, List.take_add_one, found, Option.toList_some, fire_each_append, Nat.zero_add,
    List.length_take, Nat.min_eq_left (Nat.le_of_lt bound)]
  rfl

theorem turn_last : scheduler.turn ids now (scheduler.due now).length = scheduler.fireDue ids now := by
  rw [turn, List.take_length]
  rfl

-- What a pass needs for the turns that are left.
structure Ready (scheduler : Scheduler) (capacity : Option Nat) (ids : Nat → TaskId)
    (index count : Nat) : Prop where
  balanced : scheduler.board.Balanced
  settings : scheduler.settings.queueCapacity = capacity
  within : scheduler.board.Within capacity
  absent : ∀ later, index ≤ later → later < count → scheduler.board.store.find? (ids later) = none

theorem noted_store (board : Board) (due : DueJob) (id : TaskId)
    (result : Except SchedulerError Ticket) : (board.noted due id now result).store = board.store := by
  unfold Board.noted
  split <;> rfl

theorem ready_fire (capacity : Option Nat) (sized : Board.Sized capacity) (index count : Nat)
    (ready : Ready scheduler capacity ids index count) (bound : index < count)
    (distinct : ((List.range count).map ids).Nodup) (job : DueJob) :
    Ready (scheduler.fireJob job (ids index) now) capacity ids (index + 1) count := by
  have absent := ready.absent index (Nat.le_refl index) bound
  have sized : Board.Sized scheduler.settings.queueCapacity := ready.settings ▸ sized
  have within : scheduler.board.Within scheduler.settings.queueCapacity :=
    ready.settings ▸ ready.within
  obtain ⟨turnout, leaves, _⟩ :=
    fire_turnout scheduler job (ids index) now ready.balanced absent sized within
  refine ⟨fire_balanced scheduler job (ids index) now ready.balanced absent, ?_, ?_, ?_⟩
  · rw [(setup_fire scheduler now job (ids index)).settings]
    exact ready.settings
  · have accepted := accept_within scheduler job.request (ids index) now ready.balanced absent sized
      within
    intro limit same
    rw [fire_board, noted_store]
    exact accepted limit (ready.settings.trans same)
  · intro later behind last
    have apart : ids index ≠ ids later := fun same => by
      have equal := List.inj_on_of_nodup_map distinct (List.mem_range.mpr bound)
        (List.mem_range.mpr last) same
      omega
    rw [turnout.leaves_other scheduler _ job (ids index) now leaves absent (ids later) apart]
    exact ready.absent later (by omega) last

theorem ready_turn (capacity : Option Nat) (sized : Board.Sized capacity)
    (ready : Ready scheduler capacity ids 0 (scheduler.due now).length)
    (distinct : ((List.range (scheduler.due now).length).map ids).Nodup) (index : Nat)
    (bound : index ≤ (scheduler.due now).length) :
    Ready (scheduler.turn ids now index) capacity ids index (scheduler.due now).length := by
  induction index with
  | zero =>
      have balanced := ready.balanced
      exact ⟨⟨balanced.intact, balanced.guarded, balanced.waiting, balanced.pending,
        balanced.running, balanced.tokens, balanced.undecided⟩, ready.settings, ready.within,
        ready.absent⟩
  | succ index ih =>
      rw [turn_next scheduler ids now index _ (List.getElem?_eq_getElem bound)]
      exact ready_fire _ ids now capacity sized index _ (ih (Nat.le_of_lt bound)) bound distinct _

theorem turns_elsewhere (capacity : Option Nat) (sized : Board.Sized capacity)
    (ready : Ready scheduler capacity ids 0 (scheduler.due now).length)
    (distinct : ((List.range (scheduler.due now).length).map ids).Nodup) (key : String)
    (first last : Nat) (order : first ≤ last) (bound : last ≤ (scheduler.due now).length)
    (elsewhere : ∀ index job, first ≤ index → index < last →
      (scheduler.due now)[index]? = some job → job.id ≠ key) :
    (scheduler.turn ids now last).board.jobs.find? key =
      (scheduler.turn ids now first).board.jobs.find? key := by
  induction last, order using Nat.le_induction with
  | base => rfl
  | succ last order ih =>
      have found := List.getElem?_eq_getElem bound
      have at_turn := ready_turn scheduler ids now capacity sized ready distinct last
        (Nat.le_of_lt bound)
      obtain ⟨turnout, leaves, _⟩ := fire_turnout _ _ (ids last) now at_turn.balanced
        (at_turn.absent last (Nat.le_refl last) bound) (at_turn.settings ▸ sized)
        (at_turn.settings ▸ at_turn.within)
      have earlier := ih (Nat.le_of_lt bound) fun index job after before =>
        elsewhere index job after (Nat.lt_succ_of_lt before)
      rw [turn_next scheduler ids now last _ found, ← earlier]
      exact turnout.leaves_elsewhere _ _ _ (ids last) now leaves key
        (elsewhere last _ order (Nat.lt_succ_self last) found)

theorem turn_entry (capacity : Option Nat) (sized : Board.Sized capacity)
    (ready : Ready scheduler capacity ids 0 (scheduler.due now).length)
    (distinct : ((List.range (scheduler.due now).length).map ids).Nodup)
    (ascending : scheduler.board.jobs.Ascending) (index : Nat) (job : DueJob)
    (found : (scheduler.due now)[index]? = some job) (turnout : Turnout)
    (leaves : turnout.Leaves (scheduler.turn ids now index) (scheduler.turn ids now (index + 1)) job
      (ids index) now) :
    ∃ entry, scheduler.board.jobs.find? job.id = some entry ∧
      entry.definition.request = job.request ∧
      (scheduler.fireDue ids now).board.jobs.find? job.id = some
        { entry.fired now with
          lastTask := if turnout = .missed then entry.lastTask else some (ids index) } := by
  obtain ⟨bound, listed⟩ := List.getElem?_eq_some_iff.mp found
  obtain ⟨entry, before, carried, counted⟩ := JobTable.taken_fired scheduler.board.jobs ascending now
    scheduler.board.isActive job (listed ▸ List.getElem_mem bound)
  have order := JobTable.due_ascending scheduler.board.jobs ascending now scheduler.board.isActive
  have elsewhere (other : Nat) (one : DueJob) (apart : other ≠ index)
      (taken : (scheduler.due now)[other]? = some one) : one.id ≠ job.id := by
    intro same
    have unique : ((scheduler.due now).map DueJob.id).Nodup := order.imp fun before => before.ne
    refine apart ((List.getElem?_inj ?_ unique).mp ?_)
    · rw [List.length_map]
      exact (List.getElem?_eq_some_iff.mp taken).1
    · rw [List.getElem?_map, List.getElem?_map, taken, found, Option.map_some, Option.map_some, same]
  have earlier := turns_elsewhere scheduler ids now capacity sized ready distinct job.id 0 index
    (Nat.zero_le index) (Nat.le_of_lt bound)
    fun other one _ before => elsewhere other one (Nat.ne_of_lt before)
  have later := turns_elsewhere scheduler ids now capacity sized ready distinct job.id (index + 1) _
    bound (Nat.le_refl _) fun other one after _ => elsewhere other one (Nat.ne_of_gt after)
  have own := turnout.leaves_own _ _ job (ids index) now leaves (entry.fired now)
    (earlier.trans counted)
  refine ⟨entry, before, carried, ?_⟩
  rw [← turn_last, later, own]
  rfl

theorem untaken_entry (capacity : Option Nat) (sized : Board.Sized capacity)
    (ready : Ready scheduler capacity ids 0 (scheduler.due now).length)
    (distinct : ((List.range (scheduler.due now).length).map ids).Nodup) (key : String)
    (untaken : key ∉ (scheduler.due now).map DueJob.id) :
    (scheduler.fireDue ids now).board.jobs.find? key = scheduler.board.jobs.find? key := by
  have same := turns_elsewhere scheduler ids now capacity sized ready distinct key 0 _
    (Nat.zero_le _) (Nat.le_refl _) fun index job _ _ found own =>
      untaken (List.mem_map.mpr ⟨job, List.mem_of_getElem? found, own⟩)
  rw [← turn_last, same]
  exact JobTable.untaken_kept scheduler.board.jobs now scheduler.board.isActive key untaken

end Turns

end Scheduler

namespace Round

open Scheduler

-- What others may ask of a board that they share with a scheduler.
def Shares (scheduler : Scheduler) : Board.Call → Prop
  | .enroll _ capacity => capacity = scheduler.settings.queueCapacity
  | .setJobs jobs => JobTable.Edit scheduler.board.jobs jobs
  | _ => True

-- A history has one coordinator at a time. From where it ends others may go on with the board, as they
-- do if a second coordinator starts while the first one still waits for its tasks.
inductive Reached : Scheduler → Prop where
  | run (settings : Settings) (registry : Registry Callable) (cores : Nat) (scheduler : Scheduler)
      (built : Scheduler.new settings registry cores = .ok scheduler)
      (history : List (Instant × Step)) (fresh : Fresh history) :
      Reached ((ofScheduler scheduler).run history).scheduler
  | shared (scheduler next : Scheduler) (earlier : Reached scheduler) (now : Instant)
      (call : Board.Call) (lawful : call.Lawful scheduler.board) (shares : Shares scheduler call)
      (settings : next.settings = scheduler.settings)
      (board : next.board = scheduler.board.perform now call) : Reached next

structure Standing (scheduler : Scheduler) : Prop where
  balanced : scheduler.board.Balanced
  within : scheduler.board.Within scheduler.settings.queueCapacity
  ascending : scheduler.board.jobs.Ascending

theorem run_standing (settings : Settings) (registry : Registry Callable) (cores : Nat)
    (scheduler : Scheduler) (built : Scheduler.new settings registry cores = .ok scheduler)
    (history : List (Instant × Step)) (fresh : Fresh history) :
    let last := ((ofScheduler scheduler).run history).scheduler
    Board.Sized last.settings.queueCapacity → Standing last := by
  intro last sized
  have start := new_cases settings registry cores scheduler built
  have same : last.settings = scheduler.settings := (setup_run _ history).settings
  have steady := steady_new settings registry cores scheduler built
  have later := steady_run _ [] steady history fresh
  have empty : scheduler.board.Within scheduler.settings.queueCapacity := by
    rw [start]
    exact fun limit _ => Nat.zero_le limit
  have within := within_run _ [] steady history fresh (same ▸ sized) empty
  refine ⟨later.sound.balanced, same ▸ within, ?_⟩
  refine jobs_run JobTable.Ascending JobTable.edit_ascending _ [] steady history fresh ?_
  rw [start]
  exact List.Pairwise.nil

theorem shared_standing (scheduler next : Scheduler) (standing : Standing scheduler) (now : Instant)
    (call : Board.Call) (lawful : call.Lawful scheduler.board) (shares : Shares scheduler call)
    (settings : next.settings = scheduler.settings)
    (board : next.board = scheduler.board.perform now call)
    (sized : Board.Sized next.settings.queueCapacity) : Standing next := by
  rw [settings] at sized
  have balanced := standing.balanced
  refine ⟨?_, ?_, ?_⟩
  · rw [board]
    exact Board.balanced_perform _ balanced now call lawful
  · intro limit same
    rw [settings] at same
    rw [board]
    refine Board.perform_within _ balanced now call lawful limit (sized limit same) ?_
      (standing.within limit same)
    cases call with
    | enroll assignment capacity => exact shares.trans same
    | reject _ _ _ | markRunning _ | finish _ _ _ | cancel _ | cancelAll _ | evict _
    | cancelToken _ | setJobs _ | setUtilization _ _ | publish _ => trivial
  · rw [board]
    have evolves := Board.perform_evolves _ balanced now call lawful
    cases call with
    | setJobs jobs => exact JobTable.edit_ascending _ jobs standing.ascending shares
    | enroll _ _ | reject _ _ _ | markRunning _ | finish _ _ _ | cancel _ | cancelAll _ | evict _
    | cancelToken _ | setUtilization _ _ | publish _ =>
        rw [Board.evolves_jobs _ _ evolves (by simp [Board.Call.May, Board.Swept])]
        exact standing.ascending

theorem reached_standing (scheduler : Scheduler) (reached : Reached scheduler)
    (sized : Board.Sized scheduler.settings.queueCapacity) : Standing scheduler := by
  induction reached with
  | run settings registry cores scheduler built history fresh =>
      exact run_standing settings registry cores scheduler built history fresh sized
  | shared scheduler next _ now call lawful shares settings board ih =>
      exact shared_standing scheduler next (ih (settings ▸ sized)) now call lawful shares settings board
        sized

theorem no_fire_lost (before : Scheduler) (reached : Reached before)
    (sized : Board.Sized before.settings.queueCapacity) (now : Instant) (ids : Nat → TaskId)
    (distinct : ((List.range (before.due now).length).map ids).Nodup)
    (unused : ∀ index < (before.due now).length, before.board.store.find? (ids index) = none) :
    let due := before.due now
    let after := before.fireDue ids now
    (due.map DueJob.id).Pairwise (· < ·) ∧
    after = before.turn ids now due.length ∧
    (∀ index job, due[index]? = some job →
      let turn := before.turn ids now index
      let next := before.turn ids now (index + 1)
      next = turn.fireJob job (ids index) now ∧
      ∃ turnout : Turnout,
        (∀ other : Turnout, other.Leaves turn next job (ids index) now ↔ other = turnout) ∧
        (turnout = .failed ↔ ∃ cause, (turn.resolved job.request.reference).2 = .error cause) ∧
        (turnout = .missed ↔
          (∃ callable, (turn.resolved job.request.reference).2 = .ok callable) ∧
            before.settings.queueCapacity = some (turn.board.store.tally .pending)) ∧
        ∃ old new, before.board.jobs.find? job.id = some old ∧
          after.board.jobs.find? job.id = some new ∧
          old.definition.request = job.request ∧
          new.fireCount = old.fireCount + 1 ∧
          new.lastFiredAt = some now ∧
          new.lastTask = if turnout = .missed then old.lastTask else some (ids index)) ∧
    ∀ id, id ∉ due.map DueJob.id → after.board.jobs.find? id = before.board.jobs.find? id := by
  intro due after
  have standing := reached_standing before reached sized
  have ready : Ready before before.settings.queueCapacity ids 0 due.length :=
    ⟨standing.balanced, rfl, standing.within, fun index _ bound => unused index bound⟩
  have ascending := standing.ascending
  refine ⟨JobTable.due_ascending before.board.jobs ascending now before.board.isActive,
    (turn_last before ids now).symm, ?_, ?_⟩
  · intro index job found turn next
    have bound := (List.getElem?_eq_some_iff.mp found).1
    have step : next = turn.fireJob job (ids index) now := turn_next before ids now index job found
    have at_turn := ready_turn before ids now _ sized ready distinct index (Nat.le_of_lt bound)
    obtain ⟨turnout, leaves, failed, missed⟩ := fire_turnout turn job (ids index) now
      at_turn.balanced (at_turn.absent index (Nat.le_refl index) bound) (at_turn.settings ▸ sized)
      (at_turn.settings ▸ at_turn.within)
    rw [← step] at leaves
    rw [at_turn.settings] at missed
    obtain ⟨old, listed, carried, counted⟩ := turn_entry before ids now _ sized ready distinct
      ascending index job found turnout leaves
    exact ⟨step, turnout, turnout.leaves_once turn next job (ids index) now leaves, failed, missed,
      old, _, listed, counted, carried, rfl, rfl, rfl⟩
  · exact untaken_entry before ids now _ sized ready distinct

def narrowSettings : Settings := { Settings.default with queueCapacity := some 1 }

def narrowScheduler : Scheduler := (Scheduler.new narrowSettings quickTask 1).toOption.getD default

def threeJobs : List (Instant × Step) :=
  let jobs := [("a", "tasks:quick"), ("b", "tasks:gone"), ("c", "tasks:quick")]
  (Instant.epoch, .move .start) :: jobs.map fun (id, reference) =>
    (Instant.epoch, .move (.addJob { quickJob with id := id, request := Request.new reference }))

theorem third_fire_missed :
    let now := (Instant.ofUnix? 1 0).getD Instant.epoch
    let before := ((ofScheduler narrowScheduler).run threeJobs).scheduler
    let after := before.fireDue TaskId.ofNumber now
    Reached before ∧ Board.Sized before.settings.queueCapacity ∧
      ((List.range (before.due now).length).map TaskId.ofNumber).Nodup ∧
      (∀ index < (before.due now).length,
        before.board.store.find? (TaskId.ofNumber index) = none) ∧
      (before.due now).map DueJob.id = ["a", "b", "c"] ∧
      ∃ job new, (before.due now)[2]? = some job ∧
        Turnout.missed.Leaves (before.turn TaskId.ofNumber now 2) (before.turn TaskId.ofNumber now 3)
          job (TaskId.ofNumber 2) now ∧
        after.board.jobs.find? job.id = some new ∧ new.lastTask = none := by
  intro now before after
  have built : Scheduler.new narrowSettings quickTask 1 = .ok narrowScheduler := rfl
  have sized : Board.Sized before.settings.queueCapacity := by
    rintro limit same
    cases same
    decide
  have reached : Reached before :=
    .run narrowSettings quickTask 1 narrowScheduler built threeJobs List.nodup_nil
  have distinct : ((List.range (before.due now).length).map TaskId.ofNumber).Nodup := by
    decide +kernel
  have unused : ∀ index < (before.due now).length,
      before.board.store.find? (TaskId.ofNumber index) = none := fun _ _ => rfl
  have taken : (before.due now).map DueJob.id = ["a", "b", "c"] := by decide +kernel
  obtain ⟨_, _, turns, _⟩ := no_fire_lost before reached sized now TaskId.ofNumber distinct unused
  have found : (before.due now)[2]? =
      some ⟨"c", now, Request.new "tasks:quick"⟩ := by rfl
  obtain ⟨_, turnout, only, _, missed, old, new, listed, later, _, _, _, last⟩ := turns 2 _ found
  have full : turnout = .missed := missed.mpr ⟨⟨_, rfl⟩, by decide +kernel⟩
  subst full
  have unfired : (before.board.jobs.find? "c").bind Job.lastTask = none := by decide +kernel
  refine ⟨reached, sized, distinct, unused, taken, _, new, found, (only _).mpr rfl, later, ?_⟩
  rw [if_pos rfl] at last
  rw [listed, Option.bind_some] at unfired
  exact last.trans unfired

end Round

end Foreman
