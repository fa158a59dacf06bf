import Foreman.Proofs.Store.Records

set_option autoImplicit false

namespace Foreman.Store

inductive Entry where
  | pending (assignment : Assignment)
  | unresolved (id : TaskId) (reference : String) (failure : Failure) (made : Instant)

def Entry.record : Entry → TaskRecord
  | .pending assignment => .pending assignment
  | .unresolved id reference failure made => .unresolved id reference failure made

inductive Operation where
  | insert (entry : Entry)
  | get (id : TaskId)
  | transition (id : TaskId) (expected : List TaskState) (next : TaskState)
      (outcome : Option Outcome)
  | evict (id : TaskId)

def Operation.task : Operation → TaskId
  | .insert entry => entry.record.id
  | .get id | .transition id _ _ _ | .evict id => id

inductive Reply where
  | inserted
  | found (record : Option TaskRecord)
  | moved (previous : Option TaskState)
  | evicted (record : Option TaskRecord)

def perform (store : Store) (now : Instant) : Operation → Store × Except StoreError Reply
  | .insert entry =>
      match store.insert entry.record with
      | .error error => (store, .error error)
      | .ok next => (next, .ok .inserted)
  | .get id => (store, (store.get id).map .found)
  | .transition id expected next outcome =>
      match store.transition id expected next outcome now with
      | .error error => (store, .error error)
      | .ok (previous, after) => (after, .ok (.moved previous))
  | .evict id =>
      match store.evict id with
      | .error error => (store, .error error)
      | .ok (record, after) => (after, .ok (.evicted record))

def run (store : Store) (history : List (Instant × Operation)) : Store :=
  history.foldl (fun store entry => (store.perform entry.1 entry.2).1) store

def log (store : Store) : List (Instant × Operation) → List (Operation × Except StoreError Reply)
  | [] => []
  | (now, operation) :: rest =>
      (operation, (store.perform now operation).2) :: (store.perform now operation).1.log rest

section Ways

variable (store : Store) (now : Instant)

inductive Way : Operation → Store → Except StoreError Reply → Prop where
  | entered (entry : Entry) (absent : store.find? entry.record.id = none) :
      Way (.insert entry) { store with records := store.records ++ [entry.record] } (.ok .inserted)
  | duplicate (entry : Entry) (old : TaskRecord)
      (found : store.find? entry.record.id = some old) :
      Way (.insert entry) store (.error (.duplicate entry.record.id))
  | got (id : TaskId) : Way (.get id) store (.ok (.found (store.find? id)))
  | moved (id : TaskId) (expected : List TaskState) (next : TaskState) (outcome : Option Outcome)
      (record : TaskRecord) (found : store.find? id = some record)
      (active : record.state.isTerminal = false) (awaited : record.state ∈ expected) :
      Way (.transition id expected next outcome) (store.update (record.moved next outcome now))
        (.ok (.moved (some record.state)))
  | refused (id : TaskId) (expected : List TaskState) (next : TaskState) (outcome : Option Outcome)
      (closed : ∀ record, store.find? id = some record →
        record.state.isTerminal = true ∨ record.state ∉ expected) :
      Way (.transition id expected next outcome) store (.ok (.moved none))
  | evicted (id : TaskId) : Way (.evict id) (store.remove id) (.ok (.evicted (store.find? id)))

theorem transition_way (intact : store.Intact) (id : TaskId) (expected : List TaskState)
    (next : TaskState) (outcome : Option Outcome) :
    Way store now (.transition id expected next outcome)
      (store.perform now (.transition id expected next outcome)).1
      (store.perform now (.transition id expected next outcome)).2 := by
  have open_ := permit_open store intact .transition
  cases found : store.find? id with
  | none =>
      simp only [perform, transition, open_, found, bind, Except.bind]
      exact .refused id expected next outcome (by simp [found])
  | some record =>
      by_cases closed : (record.state.isTerminal || !expected.contains record.state) = true
      · simp only [perform, transition, open_, found, bind, Except.bind, if_pos closed]
        refine .refused id expected next outcome fun other same => ?_
        rw [found, Option.some.injEq] at same
        simpa [same] using closed
      · simp only [perform, transition, open_, found, bind, Except.bind, if_neg closed]
        have wanted : record.state.isTerminal = false ∧ record.state ∈ expected := by
          simpa using closed
        exact .moved id expected next outcome record found wanted.1 wanted.2

theorem perform_way (intact : store.Intact) (operation : Operation) :
    Way store now operation (store.perform now operation).1 (store.perform now operation).2 := by
  cases operation with
  | insert entry =>
      cases found : store.find? entry.record.id with
      | none =>
          simp only [perform, insert_intact store intact entry.record found]
          exact .entered entry found
      | some old =>
          have open_ := permit_open store intact .insert
          simp only [perform, insert, open_, found, bind, Except.bind]
          exact .duplicate entry old found
  | get id =>
      simp only [perform, get_intact store intact]
      exact .got id
  | transition id expected next outcome =>
      exact transition_way store now intact id expected next outcome
  | evict id =>
      simp only [perform, evict_intact store intact]
      exact .evicted id

theorem intact_perform (intact : store.Intact) (operation : Operation) :
    (store.perform now operation).1.Intact := by
  have way := perform_way store now intact operation
  generalize (store.perform now operation).1 = next at way ⊢
  generalize (store.perform now operation).2 = answer at way
  cases way with
  | entered entry absent => exact intact_append store intact entry.record absent
  | duplicate _ _ _ | got _ | refused _ _ _ _ _ => exact intact
  | moved id expected next outcome record found active awaited =>
      exact intact_update store intact (record.moved next outcome now)
  | evicted id => exact intact_remove store intact id

-- A refusal changes nothing, and only a task that is there already is refused with an error.
theorem perform_refused (intact : store.Intact) (operation : Operation) :
    (∀ error, (store.perform now operation).2 = .error error →
      ∃ entry, operation = .insert entry ∧ error = .duplicate entry.record.id ∧
        (store.perform now operation).1 = store) ∧
      ((store.perform now operation).2 = .ok (.moved none) →
        (store.perform now operation).1 = store) := by
  have way := perform_way store now intact operation
  generalize (store.perform now operation).1 = next at way ⊢
  generalize (store.perform now operation).2 = answer at way ⊢
  cases way with
  | duplicate entry old found =>
      refine ⟨?_, fun _ => rfl⟩
      rintro error ⟨⟩
      exact ⟨entry, rfl, rfl, rfl⟩
  | refused _ _ _ _ _ => exact ⟨nofun, fun _ => rfl⟩
  | entered _ _ | got _ | moved _ _ _ _ _ _ _ _ | evicted _ => exact ⟨nofun, nofun⟩

theorem perform_other (intact : store.Intact) (operation : Operation) (id : TaskId)
    (other : operation.task ≠ id) :
    (store.perform now operation).1.find? id = store.find? id := by
  have way := perform_way store now intact operation
  generalize (store.perform now operation).1 = next at way ⊢
  generalize (store.perform now operation).2 = answer at way
  cases way with
  | entered entry absent => exact (find_append store entry.record id absent).trans (if_neg other)
  | duplicate _ _ _ | got _ | refused _ _ _ _ _ => rfl
  | moved task expected next outcome record found active awaited =>
      refine find_update_other store (record.moved next outcome now) id fun same => ?_
      exact other ((find_has_id store task record found).symm.trans same.symm)
  | evicted task => exact find_remove_other store task id (Ne.symm other)

theorem get_answers (intact : store.Intact) (id : TaskId) :
    store.perform now (.get id) = (store, .ok (.found (store.find? id))) := by
  simp only [perform, get_intact store intact]
  rfl

theorem terminal_refuses (intact : store.Intact) (id : TaskId) (record : TaskRecord)
    (found : store.find? id = some record) (terminal : record.state.isTerminal = true)
    (expected : List TaskState) (next : TaskState) (outcome : Option Outcome) :
    store.perform now (.transition id expected next outcome) = (store, .ok (.moved none)) := by
  have way := transition_way store now intact id expected next outcome
  generalize result : store.perform now (.transition id expected next outcome) = done at way ⊢
  obtain ⟨after, answer⟩ := done
  cases way with
  | refused _ _ _ _ _ => rfl
  | moved _ _ _ _ other same active awaited =>
      rw [found, Option.some.injEq] at same
      rw [← same, terminal] at active
      cases active

end Ways

section Lives

-- What the answers tell of a task: how it came in, and the moves that it has made since.
structure Life where
  entry : Entry
  moves : List (TaskState × Option Outcome)

namespace Life

def move (life : Life) (next : TaskState) (outcome : Option Outcome) : Life :=
  { life with moves := life.moves ++ [(next, outcome)] }

def state (life : Life) : TaskState :=
  ((life.moves.map Prod.fst).getLast?).getD life.entry.record.state

def firstOutcome (life : Life) : Option Outcome :=
  (life.entry.record.outcome :: life.moves.map Prod.snd).findSome? id

def hasRun (life : Life) : Bool :=
  (life.moves.map Prod.fst).contains .running

structure Fits (life : Life) (record : TaskRecord) : Prop where
  id : record.id = life.entry.record.id
  reference : record.reference = life.entry.record.reference
  kind : record.kind = life.entry.record.kind
  submitted : record.submittedAt = life.entry.record.submittedAt
  state : record.state = life.state
  outcome : record.outcome = life.firstOutcome
  started : record.startedAt.isSome = life.hasRun
  finished : record.finishedAt.isSome = record.state.isTerminal

theorem fits_entry (entry : Entry) : Fits ⟨entry, []⟩ entry.record := by
  refine ⟨rfl, rfl, rfl, rfl, rfl, ?_, ?_, ?_⟩
  · cases outcome : entry.record.outcome <;> simp [firstOutcome, outcome]
  · cases entry <;> rfl
  · cases entry <;> rfl

theorem fits_move (life : Life) (record : TaskRecord) (fits : life.Fits record)
    (active : record.state.isTerminal = false) (next : TaskState) (outcome : Option Outcome)
    (now : Instant) : (life.move next outcome).Fits (record.moved next outcome now) := by
  refine ⟨fits.id, fits.reference, fits.kind, fits.submitted, ?_, ?_, ?_, ?_⟩
  · simp [state, move, TaskRecord.moved]
  · have before := fits.outcome
    simp only [firstOutcome, move, TaskRecord.moved, List.map_append, ← List.cons_append,
      List.findSome?_append] at before ⊢
    rw [before]
    cases outcome <;> rfl
  · have before := fits.started
    by_cases runs : next = .running
    · simp [hasRun, move, TaskRecord.moved, runs]
    · simp only [hasRun, move, TaskRecord.moved, if_neg runs, before]
      simp [Ne.symm runs]
  · have before := fits.finished
    rw [active] at before
    by_cases terminal : next.isTerminal = true
    · simp [TaskRecord.moved, terminal]
    · simp [TaskRecord.moved, terminal, before]

end Life

def lived (id : TaskId) (life : Option Life) : Operation × Except StoreError Reply → Option Life
  | (.insert entry, .ok _) => if entry.record.id = id then some ⟨entry, []⟩ else life
  | (.transition task _ next outcome, .ok (.moved (some _))) =>
      if task = id then life.map (·.move next outcome) else life
  | (.evict task, .ok _) => if task = id then none else life
  | _ => life

def lifeOf (id : TaskId) (log : List (Operation × Except StoreError Reply)) : Option Life :=
  log.foldl (lived id) none

-- A task is stored for as long as it lives, with a record that fits its life.
def Tells : Option Life → Option TaskRecord → Prop
  | none, none => True
  | some life, some record => life.Fits record
  | _, _ => False

variable (store : Store) (id : TaskId)

theorem lived_other (life : Option Life) (operation : Operation)
    (answer : Except StoreError Reply) (other : operation.task ≠ id) :
    lived id life (operation, answer) = life := by
  unfold lived
  split <;> simp_all [Operation.task]

theorem tells_perform (intact : store.Intact) (now : Instant) (operation : Operation)
    (life : Option Life) (tells : Tells life (store.find? id)) :
    Tells (lived id life (operation, (store.perform now operation).2))
      ((store.perform now operation).1.find? id) := by
  by_cases same : operation.task = id
  · have way := perform_way store now intact operation
    generalize (store.perform now operation).1 = next at way ⊢
    generalize (store.perform now operation).2 = answer at way ⊢
    cases way with
    | entered entry absent =>
        have here : entry.record.id = id := same
        have own := (find_append store entry.record id absent).trans (if_pos here)
        rw [own, lived, if_pos here]
        exact Life.fits_entry entry
    | duplicate _ _ _ | got _ | refused _ _ _ _ _ => exact tells
    | moved task expected next outcome record found active awaited =>
        have here : task = id := same
        subst here
        have has := find_has_id store task record found
        have own := find_update_same store (record.moved next outcome now) record
          (by simpa [TaskRecord.moved, has] using found)
        rw [found] at tells
        have moved : (store.update (record.moved next outcome now)).find? task =
            some (record.moved next outcome now) := by
          simpa [TaskRecord.moved, has] using own
        rw [moved, lived, if_pos rfl]
        cases life with
        | none => exact tells.elim
        | some life => exact Life.fits_move life record tells active next outcome now
    | evicted task =>
        have here : task = id := same
        rw [lived, if_pos here, ← here, find_remove_same]
        trivial
  · rw [perform_other store now intact operation id same, lived_other id life operation _ same]
    exact tells

theorem tells_run (intact : store.Intact) (history : List (Instant × Operation))
    (life : Option Life) (tells : Tells life (store.find? id)) :
    Tells ((store.log history).foldl (lived id) life) ((store.run history).find? id) := by
  induction history generalizing store life with
  | nil => exact tells
  | cons entry rest ih =>
      exact ih (store.perform entry.1 entry.2).1 (intact_perform store entry.1 intact entry.2) _
        (tells_perform store id intact entry.1 entry.2 life tells)

theorem intact_run (intact : store.Intact) (history : List (Instant × Operation)) :
    (store.run history).Intact := by
  induction history generalizing store with
  | nil => exact intact
  | cons entry rest ih =>
      exact ih (store.perform entry.1 entry.2).1 (intact_perform store entry.1 intact entry.2)

end Lives

section Keeps

structure Keeps (record later : TaskRecord) : Prop where
  id : later.id = record.id
  reference : later.reference = record.reference
  kind : later.kind = record.kind
  submitted : later.submittedAt = record.submittedAt
  outcome : ∀ outcome, record.outcome = some outcome → later.outcome = some outcome
  final : record.state.isTerminal = true → later = record

theorem keeps_same (record : TaskRecord) : Keeps record record :=
  ⟨rfl, rfl, rfl, rfl, fun _ decided => decided, fun _ => rfl⟩

theorem keeps_after (record between last : TaskRecord) (first : Keeps record between)
    (second : Keeps between last) : Keeps record last := by
  refine ⟨second.id.trans first.id, second.reference.trans first.reference,
    second.kind.trans first.kind, second.submitted.trans first.submitted,
    fun outcome decided => second.outcome outcome (first.outcome outcome decided), fun terminal => ?_⟩
  have same := first.final terminal
  subst same
  exact second.final terminal

theorem keeps_moved (record : TaskRecord) (active : record.state.isTerminal = false)
    (next : TaskState) (outcome : Option Outcome) (now : Instant) :
    Keeps record (record.moved next outcome now) := by
  refine ⟨rfl, rfl, rfl, rfl, fun given decided => ?_, fun terminal => ?_⟩
  · simp [TaskRecord.moved, decided]
  · rw [active] at terminal
    cases terminal

variable (store : Store) (id : TaskId)

theorem keeps_perform (intact : store.Intact) (now : Instant) (operation : Operation)
    (stays : operation ≠ .evict id) (record : TaskRecord) (found : store.find? id = some record) :
    ∃ later, (store.perform now operation).1.find? id = some later ∧ Keeps record later := by
  by_cases same : operation.task = id
  · have way := perform_way store now intact operation
    generalize (store.perform now operation).1 = next at way ⊢
    generalize (store.perform now operation).2 = answer at way
    cases way with
    | entered entry absent =>
        have here : entry.record.id = id := same
        rw [here, found] at absent
        cases absent
    | duplicate _ _ _ | got _ | refused _ _ _ _ _ => exact ⟨record, found, keeps_same record⟩
    | moved task expected next outcome other stored active awaited =>
        have here : task = id := same
        rw [here, found, Option.some.injEq] at stored
        subst stored
        have has := find_has_id store id record found
        refine ⟨record.moved next outcome now, ?_, keeps_moved record active next outcome now⟩
        rw [← has] at found ⊢
        exact find_update_same store (record.moved next outcome now) record found
    | evicted task => exact absurd (congrArg Operation.evict same) stays
  · exact ⟨record, (perform_other store now intact operation id same).trans found, keeps_same record⟩

theorem keeps_run (intact : store.Intact) (history : List (Instant × Operation))
    (stays : ∀ entry ∈ history, entry.2 ≠ .evict id) (record : TaskRecord)
    (found : store.find? id = some record) :
    ∃ later, (store.run history).find? id = some later ∧ Keeps record later := by
  induction history generalizing store record with
  | nil => exact ⟨record, found, keeps_same record⟩
  | cons entry rest ih =>
      obtain ⟨between, stored, first⟩ := keeps_perform store id intact entry.1 entry.2
        (stays entry List.mem_cons_self) record found
      obtain ⟨last, later, second⟩ := ih (store.perform entry.1 entry.2).1
        (intact_perform store entry.1 intact entry.2)
        (fun other member => stays other (List.mem_cons_of_mem entry member)) between stored
      exact ⟨last, later, keeps_after record between last first second⟩

end Keeps

theorem intact_empty : Store.empty.Intact := ⟨rfl, List.nodup_nil⟩

theorem records_written_once (history : List (Instant × Operation)) (id : TaskId) :
    let store := Store.empty.run history
    Tells (lifeOf id (Store.empty.log history)) (store.find? id) ∧
      (∀ record, store.find? id = some record →
        (∀ more, (∀ entry ∈ more, entry.2 ≠ .evict id) →
          ∃ later, (store.run more).find? id = some later ∧ Keeps record later) ∧
        (record.state.isTerminal = true → ∀ now expected next outcome,
          store.perform now (.transition id expected next outcome) = (store, .ok (.moved none)))) ∧
      ∀ now operation,
        (∀ error, (store.perform now operation).2 = .error error →
          ∃ entry, operation = .insert entry ∧ error = .duplicate entry.record.id ∧
            (store.perform now operation).1 = store) ∧
        ((store.perform now operation).2 = .ok (.moved none) →
          (store.perform now operation).1 = store) ∧
        (operation.task ≠ id → (store.perform now operation).1.find? id = store.find? id) ∧
        store.perform now (.get id) = (store, .ok (.found (store.find? id))) := by
  intro store
  have intact : store.Intact := intact_run Store.empty intact_empty history
  refine ⟨tells_run Store.empty id intact_empty history none trivial, fun record found => ⟨?_, ?_⟩,
    fun now operation => ?_⟩
  · exact fun more stays => keeps_run store id intact more stays record found
  · exact fun terminal now expected next outcome =>
      terminal_refuses store now intact id record found terminal expected next outcome
  · obtain ⟨failed, refused⟩ := perform_refused store now intact operation
    exact ⟨failed, refused, perform_other store now intact operation id,
      get_answers store now intact id⟩

def restless : List (Instant × Operation) :=
  let task := TaskId.ofNumber 1
  let request := Request.new "tasks:slow"
  let operations : List Operation :=
    [.insert (.pending (Assignment.ofRequest request task .async Instant.epoch)),
      .transition task [.pending] .running none,
      .transition task [.running] .pending (some (.success (.bool true))),
      .insert (.unresolved task "tasks:none" default Instant.epoch),
      .transition task [.pending, .succeeded] .cancelled (some (.success .null)),
      .transition task [.cancelled] .running none, .get task]
  operations.map fun operation => (Instant.epoch, operation)

theorem restless_task_kept :
    let store := Store.empty.run restless
    ∃ record, store.find? (TaskId.ofNumber 1) = some record ∧ record.state = .cancelled ∧
      record.reference = "tasks:slow" ∧ record.outcome = some (.success (.bool true)) ∧
      record.startedAt.isSome ∧ record.finishedAt.isSome ∧
      store.perform Instant.epoch (.transition (TaskId.ofNumber 1) [.cancelled] .running none) =
        (store, .ok (.moved none)) := by
  intro store
  obtain ⟨tells, stays, _⟩ := records_written_once restless (TaskId.ofNumber 1)
  obtain ⟨record, found⟩ : ∃ record, store.find? (TaskId.ofNumber 1) = some record := ⟨_, rfl⟩
  obtain ⟨life, lives, state, reference, outcome, runs⟩ : ∃ life,
      lifeOf (TaskId.ofNumber 1) (Store.empty.log restless) = some life ∧
        life.state = .cancelled ∧ life.entry.record.reference = "tasks:slow" ∧
        life.firstOutcome = some (.success (.bool true)) ∧ life.hasRun = true :=
    ⟨_, rfl, rfl, rfl, rfl, rfl⟩
  rw [lives] at tells
  change Tells (some life) (store.find? (TaskId.ofNumber 1)) at tells
  rw [found] at tells
  have fits : life.Fits record := tells
  have cancelled : record.state = .cancelled := fits.state.trans state
  have terminal : record.state.isTerminal = true := by rw [cancelled]; rfl
  exact ⟨record, found, cancelled, fits.reference.trans reference, fits.outcome.trans outcome,
    fits.started.trans runs, fits.finished.trans terminal,
    (stays record found).2 terminal Instant.epoch [.cancelled] .running none⟩

end Foreman.Store
