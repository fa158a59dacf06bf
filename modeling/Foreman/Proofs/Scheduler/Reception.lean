import Foreman.Proofs.Scheduler.Pass

set_option autoImplicit false

namespace Foreman

namespace Request

def Valid (request : Request) : Prop :=
  Text.allBlank request.reference = false ∧ request.timeout ≠ some Span.zero

theorem blank_invalid (request : Request) (blank : Text.allBlank request.reference = true) :
    request.validate = .error (.invalidArgument "task reference must not be empty") :=
  if_pos blank

theorem zero_invalid (request : Request) (named : Text.allBlank request.reference = false)
    (zero : request.timeout = some Span.zero) :
    request.validate = .error (.invalidArgument "timeout must be greater than zero") := by
  rw [validate, if_neg (by simp [named]), if_pos zero]

theorem valid_validated (request : Request) (valid : request.Valid) : request.validate = .ok () := by
  rw [validate, if_neg (by simp [valid.1]), if_neg valid.2]

end Request

namespace Scheduler

section Effects

variable (before : Scheduler) (request : Request) (id : TaskId) (now : Instant)

/-- A task that came in as failed, since nobody knows what it refers to. -/
structure Refused (cause : ResolutionError) (after : Scheduler) : Prop where
  new : before.board.store.find? id = none
  elsewhere : after =
    { before with cache := after.cache, shop := { before.shop with board := after.board } }
  cache : after.cache = (before.cache.resolve before.registry.resolve request.reference).1
  records : after.board.store.records = before.board.store.records ++
    [{ id := id
       reference := request.reference
       kind := none
       state := .failed
       outcome := some (.failure (Failure.ofKind none cause.message now))
       submittedAt := now
       startedAt := none
       finishedAt := some now }]
  serving : after.board.store.refused = before.board.store.refused
  others : ∀ other, other ≠ id → after.board.store.find? other = before.board.store.find? other
  bus : after.board.bus =
    { before.board.bus with
      published := before.board.bus.published ++
        [{ kind := .taskFailed
           time := now
           job := none
           task := some id
           reference := some request.reference
           outcome := some (.failure (Failure.ofKind none cause.message now)) }] }
  waiting : after.board.waiting = before.board.waiting
  metrics : after.board.metrics =
    { before.board.metrics with
      submitted := before.board.metrics.submitted + 1
      finished := Metrics.addFinished .failed before.board.metrics.finished }
  tokens : after.board.tokens = before.board.tokens
  announcements : after.board.announcements = before.board.announcements + 1
  jobs : after.board.jobs = before.board.jobs

/-- A task that waits from now on, with its ticket at the end of the inbox. -/
structure Received (callable : Callable) (after : Scheduler) : Prop where
  new : before.board.store.find? id = none
  elsewhere : after =
    { before with
      cache := after.cache, shop := { before.shop with board := after.board }, inbox := after.inbox }
  cache : after.cache = (before.cache.resolve before.registry.resolve request.reference).1
  records : after.board.store.records = before.board.store.records ++
    [{ id := id
       reference := request.reference
       kind := some callable.kind
       state := .pending
       outcome := none
       submittedAt := now
       startedAt := none
       finishedAt := none }]
  serving : after.board.store.refused = before.board.store.refused
  others : ∀ other, other ≠ id → after.board.store.find? other = before.board.store.find? other
  inbox : after.inbox = before.inbox ++
    [.dispatch
      { assignment :=
          { id := id
            reference := request.reference
            arguments := request.arguments
            kind := callable.kind
            timeout := request.timeout.or before.settings.defaultTimeout
            submittedAt := now }
        callable := callable
        token := before.board.tokens.fresh }]
  tokens : after.board.tokens =
    { before.board.tokens with
      held := before.board.tokens.held ++ [(id, before.board.tokens.fresh)]
      fresh := before.board.tokens.fresh + 1 }
  bus : after.board.bus =
    { before.board.bus with
      published := before.board.bus.published ++
        [{ kind := .taskSubmitted
           time := now
           job := none
           task := some id
           reference := some request.reference
           outcome := none }] }
  waiting : after.board.waiting = before.board.waiting + 1
  metrics : after.board.metrics =
    { before.board.metrics with
      submitted := before.board.metrics.submitted + 1
      pending := before.board.metrics.pending + 1 }
  announcements : after.board.announcements = before.board.announcements
  jobs : after.board.jobs = before.board.jobs

end Effects

section Submit

variable (scheduler : Scheduler) (request : Request) (id : TaskId) (now : Instant)

theorem submit_invalid (error : SchedulerError) (invalid : request.validate = .error error) :
    scheduler.submit request id now = (scheduler, .error error) := by
  rw [submit, invalid]

theorem submit_stopped (valid : request.Valid) (stopped : scheduler.isOpen = false) :
    scheduler.submit request id now = (scheduler, .error .notRunning) := by
  simp only [submit, Request.valid_validated request valid, stopped, Bool.false_eq_true, if_false]

theorem submit_failed (valid : request.Valid) (opened : scheduler.isOpen = true) (next : Scheduler)
    (error : SchedulerError) (accepted : scheduler.accept request id now = (next, .error error)) :
    scheduler.submit request id now = (next, .error error) := by
  simp only [submit, Request.valid_validated request valid, opened, if_true, accepted]

theorem submit_queued (valid : request.Valid) (opened : scheduler.isOpen = true) (next : Scheduler)
    (ticket : Ticket) (accepted : scheduler.accept request id now = (next, .ok ticket)) :
    scheduler.submit request id now =
      ({ next with inbox := next.inbox ++ [.dispatch ticket] }, .ok id) := by
  simp only [submit, Request.valid_validated request valid, opened, if_true, accepted]

variable (balanced : scheduler.board.Balanced) (absent : scheduler.board.store.find? id = none)

include balanced absent

theorem submit_refused (valid : request.Valid) (opened : scheduler.isOpen = true)
    (cause : ResolutionError)
    (unknown : (scheduler.resolved request.reference).2 = .error cause) :
    (scheduler.submit request id now).2 = .error (.resolution id cause) ∧
      Refused scheduler request id now cause (scheduler.submit request id now).1 := by
  have done := accept_unresolved scheduler request id now cause unknown balanced.intact absent
  rw [submit_failed scheduler request id now valid opened _ _ done]
  refine ⟨rfl, ?_⟩
  rw [Board.reject_done scheduler.board id request.reference cause now balanced.intact absent]
  refine ⟨absent, rfl, rfl, rfl, rfl, fun other different => ?_, rfl, rfl, rfl, rfl, rfl, rfl⟩
  exact Board.stored_other scheduler.board (Board.refusal id request.reference cause now) absent other
    (Ne.symm different)

theorem submit_received (valid : request.Valid) (opened : scheduler.isOpen = true)
    (callable : Callable) (known : (scheduler.resolved request.reference).2 = .ok callable)
    (room : scheduler.board.isFull scheduler.settings.queueCapacity = false) :
    (scheduler.submit request id now).2 = .ok id ∧
      Received scheduler request id now callable (scheduler.submit request id now).1 := by
  have done := accept_free scheduler request id now callable known balanced.intact absent room
  have unheld := Board.absent_unheld scheduler.board balanced id absent
  rw [submit_queued scheduler request id now valid opened _ _ done]
  refine ⟨rfl, absent, rfl, rfl, rfl, rfl, fun other different => ?_, rfl, ?_, rfl, rfl, rfl, rfl,
    rfl⟩
  · exact Board.stored_other scheduler.board
      (.pending (scheduler.assigned request id callable now)) absent other (Ne.symm different)
  · change (scheduler.board.tokens.issue id).1 = _
    rw [Tokens.issue, unheld]

end Submit

end Scheduler

namespace Board

theorem full_limit (board : Board) (capacity : Option Nat) :
    board.isFull capacity = true ↔ ∃ limit, capacity = some limit ∧ limit ≤ board.pending := by
  cases capacity with
  | none => simp [isFull]
  | some limit => simp [isFull]

-- What the counter shows is the number of tasks that wait, as long as it cannot run over.
theorem pending_tally (board : Board) (balanced : board.Balanced) (capacity : Option Nat)
    (within : board.Within capacity) (limit : Nat) (bounded : capacity = some limit)
    (sized : limit < Number.bound64) : board.pending = board.store.tally .pending := by
  have most := within limit bounded
  rw [pending_read board balanced, Nat.mod_eq_of_lt (by omega)]

end Board

namespace Round

theorem faithful_run (settings : Settings) (registry : Registry Callable) (cores : Nat)
    (scheduler : Scheduler) (built : Scheduler.new settings registry cores = .ok scheduler)
    (history : List (Instant × Step)) :
    let round := (ofScheduler scheduler).run history
    round.scheduler.settings = settings ∧ round.scheduler.registry = registry ∧
      round.scheduler.Faithful := by
  have setup := setup_run (ofScheduler scheduler) history
  rw [Scheduler.new_cases settings registry cores scheduler built] at setup ⊢
  exact ⟨setup.settings, setup.registry, setup.faithful fun _ _ found => by cases found⟩

theorem pending_run (settings : Settings) (registry : Registry Callable) (cores : Nat)
    (scheduler : Scheduler) (built : Scheduler.new settings registry cores = .ok scheduler)
    (history : List (Instant × Step)) (fresh : Fresh history) (limit : Nat)
    (bounded : settings.queueCapacity = some limit) (sized : limit < Number.bound64) :
    let board := ((ofScheduler scheduler).run history).board
    board.pending = board.store.tally .pending := by
  have start := steady_new settings registry cores scheduler built
  have same : scheduler.settings = settings :=
    (faithful_run settings registry cores scheduler built []).1
  have capacity : scheduler.settings.queueCapacity = some limit := by
    rw [same]
    exact bounded
  have empty : (ofScheduler scheduler).board.Within scheduler.settings.queueCapacity := by
    rw [Scheduler.new_cases settings registry cores scheduler built]
    exact fun _ _ => Nat.zero_le _
  have fits : Board.Sized scheduler.settings.queueCapacity := by
    rw [capacity]
    rintro other ⟨⟩
    exact sized
  exact Board.pending_tally _ (steady_run _ [] start history fresh).sound.balanced
    scheduler.settings.queueCapacity (within_run _ [] start history fresh fits empty) limit capacity
    sized

theorem submit_receives (settings : Settings) (registry : Registry Callable) (cores : Nat)
    (scheduler : Scheduler) (built : Scheduler.new settings registry cores = .ok scheduler)
    (history : List (Instant × Step)) (fresh : Fresh history) (request : Request) (id : TaskId)
    (new : id ∉ idsOf history) (now : Instant) :
    let before := ((ofScheduler scheduler).run history).scheduler
    let result := before.submit request id now
    before.settings = settings ∧ before.registry = registry ∧
    (Text.allBlank request.reference = true →
      result = (before, .error (.invalidArgument "task reference must not be empty"))) ∧
    (Text.allBlank request.reference = false → request.timeout = some Span.zero →
      result = (before, .error (.invalidArgument "timeout must be greater than zero"))) ∧
    (Text.allBlank request.reference = false → request.timeout ≠ some Span.zero →
      (before.isOpen = false → result = (before, .error .notRunning)) ∧
      (before.isOpen = true →
        before.phase = .on ∧
        (∀ cause, registry.resolve request.reference = .error cause →
          result.2 = .error (.resolution id cause) ∧
            before.Refused request id now cause result.1) ∧
        ∀ callable, registry.resolve request.reference = .ok callable →
          (∀ limit, settings.queueCapacity = some limit → limit ≤ before.board.pending →
            result =
              ({ before with
                 cache := (before.cache.resolve registry.resolve request.reference).1 },
                .error (.queueFull limit))) ∧
          ((∀ limit, settings.queueCapacity = some limit → before.board.pending < limit) →
            result.2 = .ok id ∧ before.Received request id now callable result.1))) ∧
    ∀ limit, settings.queueCapacity = some limit → limit < Number.bound64 →
      before.board.pending = before.board.store.tally .pending := by
  intro before result
  have start := steady_new settings registry cores scheduler built
  have steady : ((ofScheduler scheduler).run history).Steady ([] ++ idsOf history) :=
    steady_run _ [] start history fresh
  have balanced : before.board.Balanced := steady.sound.balanced
  have absent : before.board.store.find? id = none := Desk.fresh_absent _ steady.sound id new
  obtain ⟨sameSettings, sameRegistry, faithful⟩ :=
    faithful_run settings registry cores scheduler built history
  have answered : (before.resolved request.reference).2 = registry.resolve request.reference := by
    rw [← sameRegistry]
    exact Scheduler.faithful_answer before faithful request.reference
  refine ⟨sameSettings, sameRegistry, fun blank => ?_, fun named zero => ?_,
    fun named positive => ⟨fun stopped => ?_, fun opened => ⟨?_, fun cause unknown => ?_,
      fun callable known => ⟨fun limit bounded most => ?_, fun free => ?_⟩⟩⟩, ?_⟩
  · exact Scheduler.submit_invalid before request id now _ (request.blank_invalid blank)
  · exact Scheduler.submit_invalid before request id now _ (request.zero_invalid named zero)
  · exact Scheduler.submit_stopped before request id now ⟨named, positive⟩ stopped
  · exact Scheduler.open_on before steady.orderly opened
  · exact Scheduler.submit_refused before request id now balanced absent ⟨named, positive⟩ opened
      cause (answered.trans unknown)
  · have full : before.board.isFull before.settings.queueCapacity = true := by
      rw [sameSettings, Board.full_limit]
      exact ⟨limit, bounded, most⟩
    have done := Scheduler.accept_full before request id now callable (answered.trans known) full
    have capacity : before.settings.queueCapacity = some limit := by
      rw [sameSettings]
      exact bounded
    rw [capacity] at done
    rw [← sameRegistry]
    exact Scheduler.submit_failed before request id now ⟨named, positive⟩ opened _ _ done
  · have room : before.board.isFull before.settings.queueCapacity = false := by
      rw [sameSettings, ← Bool.not_eq_true, Board.full_limit]
      rintro ⟨limit, bounded, most⟩
      exact absurd most (Nat.not_le.mpr (free limit bounded))
    exact Scheduler.submit_received before request id now balanced absent ⟨named, positive⟩ opened
      callable (answered.trans known) room
  · intro limit bounded sized
    exact pending_run settings registry cores scheduler built history fresh limit bounded sized

def oneWaits : List (Instant × Step) :=
  let moves : List Move := [.start, .submit (Request.new "tasks:quick") (TaskId.ofNumber 1)]
  moves.map fun move => (Instant.epoch, .move move)

theorem narrow_queue_receives :
    let before := ((ofScheduler narrowScheduler).run oneWaits).scheduler
    let submit (reference : String) :=
      before.submit (Request.new reference) (TaskId.ofNumber 2) Instant.epoch
    Scheduler.new narrowSettings quickTask 1 = .ok narrowScheduler ∧ Fresh oneWaits ∧
      TaskId.ofNumber 2 ∉ idsOf oneWaits ∧
      submit " " = (before, .error (.invalidArgument "task reference must not be empty")) ∧
        (submit "tasks:gone").2 =
          .error (.resolution (TaskId.ofNumber 2) (.notFound "tasks:gone")) ∧
        (submit "tasks:gone").1.board.waiting = before.board.waiting ∧
        (submit "tasks:quick").2 = .error (.queueFull 1) ∧
        (submit "tasks:quick").1.board.store.records = before.board.store.records := by
  intro before submit
  have built : Scheduler.new narrowSettings quickTask 1 = .ok narrowScheduler := rfl
  have fresh : Fresh oneWaits := by
    unfold Fresh
    decide +kernel
  have new : TaskId.ofNumber 2 ∉ idsOf oneWaits := by decide +kernel
  have receives (reference : String) := submit_receives narrowSettings quickTask 1 narrowScheduler
    built oneWaits fresh (Request.new reference) (TaskId.ofNumber 2) new Instant.epoch
  have opened : before.isOpen = true := by decide +kernel
  have waits : before.board.pending = 1 := by decide +kernel
  obtain ⟨_, _, blank, _⟩ := receives " "
  obtain ⟨_, _, _, _, gone, _⟩ := receives "tasks:gone"
  obtain ⟨_, _, _, _, quick, _⟩ := receives "tasks:quick"
  obtain ⟨_, unresolved, _⟩ := (gone (by decide +kernel) (by simp [Request.new])).2 opened
  obtain ⟨_, _, resolved⟩ := (quick (by decide +kernel) (by simp [Request.new])).2 opened
  obtain ⟨told, refused⟩ := unresolved (.notFound "tasks:gone") rfl
  have full := (resolved (.constant .sync .null) rfl).1 1 rfl (Nat.le_of_eq waits.symm)
  exact ⟨built, fresh, new, blank (by decide +kernel), told, refused.waiting,
    congrArg Prod.snd full, congrArg (fun result => result.1.board.store.records) full⟩

end Round

end Foreman
