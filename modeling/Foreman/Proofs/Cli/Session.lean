import Foreman.Cli.Session
import Foreman.Proofs.Scheduler.Freedom
import Foreman.Proofs.Task.Builtin
import Mathlib.Logic.Relation

set_option autoImplicit false

namespace Foreman.Cli

theorem taken_iff (answer : Except SchedulerError TaskId) :
    Taken answer ↔ refusal? answer = none := by
  cases answer with
  | ok id => simp [Taken, refusal?]
  | error error => cases error <;> simp [Taken, refusal?]

namespace Session

-- How long a caller waits is left open, and so is the order of the scheduler's own moves.
inductive Step (timeout : Option Span) (now : Instant) (session : Session) : Session → Prop where
  | goes (move : Move) (own : move.IsOwn) :
      Step timeout now session
        { session with scheduler := session.scheduler.perform now move }
  | submits (request : Request) (rest : List Request) (id : TaskId)
      (asked : session.stage = .submitting (request :: rest)) :
      Step timeout now session (session.submit (request.orTimeout timeout) rest id now)
  | waits (asked : session.stage = .submitting []) :
      Step timeout now session { session with stage := .waiting session.ids }
  | looks (id : TaskId) (rest : List TaskId) (waiting : session.stage = .waiting (id :: rest)) :
      Step timeout now session (session.look id rest)
  | tires (id : TaskId) (rest : List TaskId) (waiting : session.stage = .waiting (id :: rest)) :
      Step timeout now session { session with stage := .waiting rest }
  | stops (heard : session.stage = .waiting []) : Step timeout now session session.stop
  | closes (stopping : session.stage = .stopping) (off : session.scheduler.phase = .off) :
      Step timeout now session { session with stage := .printing session.ids }
  | prints (id : TaskId) (rest : List TaskId) (left : session.stage = .printing (id :: rest)) :
      Step timeout now session (session.print id rest)
  | ends (left : session.stage = .printing []) :
      Step timeout now session { session with stage := .ended none }

def Reaches (timeout : Option Span) : Session → Session → Prop :=
  Relation.ReflTransGen fun session next => ∃ now, Step timeout now session next

section Stages

variable (scheduler : Scheduler) (names : List (TaskId × String)) (records : List TaskRecord)

structure Printing (left : List TaskId) : Prop where
  off : scheduler.phase = .off
  read : records.map TaskRecord.id ++ left = names.map Prod.fst
  ended : ∀ record ∈ records, record.state.isTerminal = true ∧
    scheduler.board.store.find? record.id = some record

def Suits (requests : List Request) : Stage → Prop
  | .submitting left => scheduler.isOpen = true ∧ records = [] ∧
      names.map Prod.snd ++ left.map Request.reference = requests.map Request.reference
  | .waiting left => scheduler.isOpen = true ∧ records = [] ∧
      names.map Prod.snd = requests.map Request.reference ∧ ∀ id ∈ left, id ∈ names.map Prod.fst
  | .stopping => scheduler.isOpen = false ∧ records = [] ∧
      names.map Prod.snd = requests.map Request.reference
  | .printing left => names.map Prod.snd = requests.map Request.reference ∧
      Printing scheduler names records left
  | .ended none => names.map Prod.snd = requests.map Request.reference ∧
      Printing scheduler names records []
  | .ended (some _) => False

end Stages

structure Underway (session : Session) (requests : List Request) (names : List (TaskId × String)) :
    Prop where
  fit : session.scheduler.Fit names
  taken : ∀ answer ∈ session.answers, Taken answer
  known : session.ids = names.map Prod.fst
  suits : Suits session.scheduler names session.records requests session.stage

structure Refused (session : Session) : Prop where
  refused : ∃ answer ∈ session.answers, ¬ Taken answer
  unprinted : session.records = []
  ended : ∃ error, session.stage = .ended (some error)

def Sound (session : Session) (requests : List Request) : Prop :=
  (∃ names, session.Underway requests names) ∨ session.Refused

section Steps

variable (session : Session) (requests : List Request) (names : List (TaskId × String))
  (underway : session.Underway requests names) (now : Instant)

include underway

theorem goes_underway (move : Move) (own : move.IsOwn) :
    Underway { session with scheduler := session.scheduler.perform now move } requests names := by
  obtain ⟨fit, taken, known, suits⟩ := underway
  have opened := Scheduler.own_open session.scheduler names fit now move own
  have printing (left : List TaskId)
      (printing : Printing session.scheduler names session.records left) :
      Printing (session.scheduler.perform now move) names session.records left :=
    ⟨Scheduler.own_off session.scheduler now move own printing.off, printing.read,
      fun record member =>
        have ⟨terminal, found⟩ := printing.ended record member
        ⟨terminal, Scheduler.own_settled session.scheduler names fit now move own record found
          terminal⟩⟩
  refine ⟨Scheduler.own_fit session.scheduler names fit now move own, taken, known, ?_⟩
  change Suits _ names _ requests session.stage
  cases stage : session.stage with
  | submitting left =>
      rw [stage] at suits
      exact ⟨opened.trans suits.1, suits.2⟩
  | waiting left =>
      rw [stage] at suits
      exact ⟨opened.trans suits.1, suits.2⟩
  | stopping =>
      rw [stage] at suits
      exact ⟨opened.trans suits.1, suits.2⟩
  | printing left =>
      rw [stage] at suits
      exact ⟨suits.1, printing left suits.2⟩
  | ended failure =>
      rw [stage] at suits
      cases failure with
      | none => exact ⟨suits.1, printing [] suits.2⟩
      | some error => exact suits

theorem submits_sound (request : Request) (rest : List Request) (id : TaskId)
    (timeout : Option Span) (asked : session.stage = .submitting (request :: rest)) :
    Sound (session.submit (request.orTimeout timeout) rest id now) requests := by
  obtain ⟨fit, taken, known, suits⟩ := underway
  rw [asked] at suits
  obtain ⟨opened, unprinted, references⟩ := suits
  have entered :=
    Scheduler.fit_submit session.scheduler names fit now (request.orTimeout timeout) id
  have task := Scheduler.submit_entry session.scheduler (request.orTimeout timeout) id now
    (Scheduler.fit_balanced _ names fit).intact
  unfold submit
  cases submitted : session.scheduler.submit (request.orTimeout timeout) id now with
  | mk scheduler answer =>
      simp only [submitted] at entered task ⊢
      by_cases accepted : Taken answer
      · obtain ⟨_, entry, own⟩ := task accepted
        have free := (taken_iff answer).mp accepted
        have named : taskOf? answer = some id := by
          rcases own with rfl | ⟨cause, rfl⟩ <;> rfl
        have open_ : scheduler.isOpen = true := by
          cases entry <;> exact opened
        refine .inl ⟨names ++ [(id, request.reference)], entered accepted, ?_, ?_, ?_⟩
        · intro other member
          rcases List.mem_append.mp member with before | last
          · exact taken other before
          · rwa [List.mem_singleton.mp last]
        · simp only [ids, List.filterMap_append, List.map_append, List.filterMap_cons, named,
            List.filterMap_nil, List.map_cons, List.map_nil] at known ⊢
          rw [known]
        · rw [free]
          refine ⟨open_, unprinted, ?_⟩
          rw [← references]
          simp
      · cases refusal : refusal? answer with
        | none => exact absurd ((taken_iff answer).mpr refusal) accepted
        | some error =>
            exact .inr ⟨⟨answer, List.mem_append_right _ (List.mem_singleton.mpr rfl), accepted⟩,
              unprinted, error, rfl⟩

theorem waits_underway (asked : session.stage = .submitting []) :
    Underway { session with stage := .waiting session.ids } requests names := by
  obtain ⟨fit, taken, known, suits⟩ := underway
  rw [asked] at suits
  obtain ⟨opened, unprinted, references⟩ := suits
  rw [List.map_nil, List.append_nil] at references
  exact ⟨fit, taken, known, opened, unprinted, references, fun id member => known ▸ member⟩

theorem tires_underway (id : TaskId) (rest : List TaskId)
    (waiting : session.stage = .waiting (id :: rest)) :
    Underway { session with stage := .waiting rest } requests names := by
  obtain ⟨fit, taken, known, suits⟩ := underway
  rw [waiting] at suits
  obtain ⟨opened, unprinted, references, listed⟩ := suits
  exact ⟨fit, taken, known, opened, unprinted, references,
    fun other member => listed other (List.mem_cons_of_mem id member)⟩

theorem looks_underway (id : TaskId) (rest : List TaskId)
    (waiting : session.stage = .waiting (id :: rest)) :
    Underway (session.look id rest) requests names := by
  have listed : id ∈ names.map Prod.fst := by
    have suits := underway.suits
    rw [waiting] at suits
    exact suits.2.2.2 id List.mem_cons_self
  obtain ⟨record, _, got⟩ := Scheduler.fit_record _ names underway.fit id listed
  have looked : session.scheduler.board.look id =
      .ok (if record.state.isTerminal then some record else none) := by
    rw [Board.look, got]
  unfold look
  rw [looked]
  cases record.state.isTerminal with
  | true => exact tires_underway session requests names underway id rest waiting
  | false => exact underway

theorem stops_underway (heard : session.stage = .waiting []) :
    Underway session.stop requests names := by
  have stopped := Scheduler.fit_stop session.scheduler names underway.fit
  obtain ⟨fit, taken, known, suits⟩ := underway
  rw [heard] at suits
  obtain ⟨opened, unprinted, references, _⟩ := suits
  have asked : session.scheduler.stop .cancel = ((session.scheduler.stop .cancel).1, .ok ()) := by
    rw [Scheduler.stop, if_pos opened]
  have closed : (session.scheduler.stop .cancel).1.isOpen = false := by
    rw [Scheduler.stop, if_pos opened]
  unfold stop
  rw [asked]
  exact ⟨stopped, taken, known, closed, unprinted, references⟩

theorem closes_underway (stopping : session.stage = .stopping)
    (off : session.scheduler.phase = .off) :
    Underway { session with stage := .printing session.ids } requests names := by
  obtain ⟨fit, taken, known, suits⟩ := underway
  rw [stopping] at suits
  obtain ⟨_, unprinted, references⟩ := suits
  refine ⟨fit, taken, known, references, off, ?_, fun record member => ?_⟩
  · rw [unprinted]
    exact known
  · rw [unprinted] at member
    cases member

theorem prints_underway (id : TaskId) (rest : List TaskId)
    (left : session.stage = .printing (id :: rest)) :
    Underway (session.print id rest) requests names := by
  obtain ⟨fit, taken, known, suits⟩ := underway
  rw [left] at suits
  obtain ⟨references, off, read, ended⟩ := suits
  have listed : id ∈ names.map Prod.fst := by
    rw [← read]
    exact List.mem_append_right _ List.mem_cons_self
  obtain ⟨record, found, got⟩ := Scheduler.fit_record _ names fit id listed
  have own := Store.find_has_id _ id record found
  unfold print
  rw [Board.record, got]
  refine ⟨fit, taken, known, references, off, ?_, fun other member => ?_⟩
  · rw [List.map_append, List.map_singleton, own, List.append_assoc, List.singleton_append]
    exact read
  · rcases List.mem_append.mp member with before | last
    · exact ended other before
    · obtain rfl := List.mem_singleton.mp last
      exact ⟨Scheduler.fit_returned _ names fit off other (Store.find_member _ id other found),
        own ▸ found⟩

theorem ends_underway (left : session.stage = .printing []) :
    Underway { session with stage := .ended none } requests names := by
  obtain ⟨fit, taken, known, suits⟩ := underway
  rw [left] at suits
  exact ⟨fit, taken, known, suits⟩

end Steps

theorem step_sound (session next : Session) (requests : List Request) (timeout : Option Span)
    (now : Instant) (sound : session.Sound requests) (step : Step timeout now session next) :
    next.Sound requests := by
  rcases sound with ⟨names, underway⟩ | ⟨refused, unprinted, error, ended⟩
  · cases step with
    | goes move own =>
        exact .inl ⟨names, goes_underway session requests names underway now move own⟩
    | submits request rest id asked =>
        exact submits_sound session requests names underway now request rest id timeout asked
    | waits asked => exact .inl ⟨names, waits_underway session requests names underway asked⟩
    | looks id rest waiting =>
        exact .inl ⟨names, looks_underway session requests names underway id rest waiting⟩
    | tires id rest waiting =>
        exact .inl ⟨names, tires_underway session requests names underway id rest waiting⟩
    | stops heard => exact .inl ⟨names, stops_underway session requests names underway heard⟩
    | closes stopping off =>
        exact .inl ⟨names, closes_underway session requests names underway stopping off⟩
    | prints id rest left =>
        exact .inl ⟨names, prints_underway session requests names underway id rest left⟩
    | ends left => exact .inl ⟨names, ends_underway session requests names underway left⟩
  · cases step with
    | goes move own => exact .inr ⟨refused, unprinted, error, ended⟩
    | submits _ _ _ other | waits other | looks _ _ other | tires _ _ other | stops other
    | closes other _ | prints _ _ other | ends other =>
        rw [ended] at other
        cases other

theorem reaches_sound (session next : Session) (requests : List Request) (timeout : Option Span)
    (sound : session.Sound requests) (reaches : Reaches timeout session next) :
    next.Sound requests := by
  induction reaches with
  | refl => exact sound
  | tail _ step ih =>
      obtain ⟨now, step⟩ := step
      exact step_sound _ _ requests timeout now ih step

theorem begin_sound (settings : Settings) (cores : Nat) (scheduler : Scheduler)
    (built : Scheduler.new settings Builtin.registry cores = .ok scheduler) (requests : List Request)
    (now : Instant) : (begin scheduler requests now).Sound requests := by
  have fit := Scheduler.fit_start scheduler [] (Scheduler.fit_new settings _ cores scheduler built
    Builtin.registry_flows) now
  have started : scheduler.start now = ((scheduler.start now).1, .ok ()) ∧
      (scheduler.start now).1.isOpen = true := by
    rw [Scheduler.new_cases settings _ cores scheduler built]
    exact ⟨rfl, rfl⟩
  unfold begin
  rw [started.1]
  exact .inl ⟨[], fit, fun _ member => (by cases member), rfl, started.2, rfl, rfl⟩

end Session

-- One record on a board for each of the references, in their order, and no task goes on.
structure Accounts (references : List String) (board : Board) (records : List TaskRecord) : Prop where
  distinct : (records.map TaskRecord.id).Nodup
  stored : ∀ record ∈ records, record ∈ board.store.records
  references : records.map TaskRecord.reference = references
  ended : ∀ record ∈ records, record.state.isTerminal = true

theorem named_references (board : Board) (names : List (TaskId × String))
    (named : ∀ entry ∈ names, ∃ record,
      board.store.find? entry.1 = some record ∧ record.reference = entry.2)
    (records : List TaskRecord) (read : records.map TaskRecord.id = names.map Prod.fst)
    (found : ∀ record ∈ records, board.store.find? record.id = some record) :
    records.map TaskRecord.reference = names.map Prod.snd := by
  induction names generalizing records with
  | nil => rw [List.map_eq_nil_iff.mp read, List.map_nil, List.map_nil]
  | cons entry rest ih =>
      obtain ⟨record, others, rfl, own, later⟩ := List.map_eq_cons_iff.mp read
      obtain ⟨first, behind⟩ := List.forall_mem_cons.mp found
      obtain ⟨⟨other, stored, referred⟩, more⟩ := List.forall_mem_cons.mp named
      rw [own, stored] at first
      rw [List.map_cons, List.map_cons, ih more others later behind, ← referred,
        Option.some.inj first]

namespace Session

theorem ended_accounts (session : Session) (requests : List Request)
    (names : List (TaskId × String)) (underway : session.Underway requests names)
    (failure : Option SchedulerError) (ended : session.stage = .ended failure) :
    failure = none ∧ Accounts (requests.map Request.reference) session.scheduler.board
      session.records := by
  obtain ⟨fit, _, _, suits⟩ := underway
  rw [ended] at suits
  cases failure with
  | some error => exact suits.elim
  | none =>
      obtain ⟨references, _, read, known⟩ := suits
      rw [List.append_nil] at read
      refine ⟨rfl, ?_, fun record member => ?_, ?_, fun record member => (known record member).1⟩
      · rw [read]
        exact fit.distinct
      · exact Store.find_member _ _ record (known record member).2
      · rw [named_references _ names fit.named _ read fun record member => (known record member).2]
        exact references

theorem stopping_winds_up (session : Session) (requests : List Request)
    (names : List (TaskId × String)) (underway : session.Underway requests names)
    (stopping : session.stage = .stopping) : session.scheduler.WindsUp := by
  have suits := underway.suits
  rw [stopping] at suits
  exact Scheduler.fit_winds_up _ names underway.fit suits.1

end Session

end Foreman.Cli
