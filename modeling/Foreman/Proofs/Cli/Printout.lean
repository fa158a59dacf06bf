import Foreman.Proofs.Cli.Course
import Foreman.Proofs.Cli.Lines
import Foreman.Proofs.Cli.Tasks

set_option autoImplicit false

namespace Foreman.Cli

theorem checked_valid (chosen settings : Settings)
    (made : (do chosen.validate; return chosen : Except SchedulerError Settings) = .ok settings) :
    settings.validate = .ok () := by
  cases valid : chosen.validate with
  | error error =>
      rw [valid] at made
      cases made
  | ok done =>
      rw [valid] at made
      cases made
      exact valid

theorem settings_valid (options : Options) (given settings : Settings)
    (read : String → Settings.FileContent) (made : settingsOf options given read = .ok settings) :
    settings.validate = .ok () := by
  unfold settingsOf at made
  cases named : options.config with
  | none =>
      rw [named] at made
      exact checked_valid _ settings made
  | some path =>
      cases loaded : Settings.ofFile path (read path) with
      | error error =>
          simp only [named, loaded] at made
          cases made
      | ok base =>
          simp only [named, loaded] at made
          exact checked_valid _ settings made

theorem terminal_words (state : TaskState) (terminal : state.isTerminal = true) :
    state.name ∈ ["SUCCEEDED", "FAILED", "TIMED_OUT", "CANCELLED"] ∧
      (state.name = "SUCCEEDED" ↔ state = .succeeded) := by
  cases state with
  | pending | running => cases terminal
  | succeeded | failed | timedOut | cancelled => simp [TaskState.name]

section Printed

variable (session : Session) (elapsed : Span)

theorem lines_tell (records : List TaskRecord) :
    List.Forall₂ TaskRecord.Tells records (records.map recordLine) := by
  rw [List.forall₂_map_right_iff, List.forall₂_same]
  exact fun record _ => record_line_tells record

theorem printed_successful (records : List TaskRecord) :
    (printed records elapsed).lines = records.map recordLine ∧
      ((printed records elapsed).code = 0 ↔ ∀ record ∈ records, record.state = .succeeded) := by
  have none : unsuccessful records = 0 ↔ ∀ record ∈ records, record.state = .succeeded := by
    simp [unsuccessful, List.countP_eq_zero]
  rw [← none]
  by_cases all : unsuccessful records = 0 <;>
    simp [printed, all, Printout.ofLines, Printout.failed]

-- What a session that was not refused has printed, and what its tasks have come to.
structure Session.Settled (tasks : List String) (printout : Printout) : Prop where
  accounts : Accounts (tasks.map referencePart) session.scheduler.board session.records
  lines : List.Forall₂ TaskRecord.Tells session.records printout.lines
  words : ∀ record ∈ session.records,
    record.state.name ∈ ["SUCCEEDED", "FAILED", "TIMED_OUT", "CANCELLED"] ∧
      (record.state.name = "SUCCEEDED" ↔ record.state = .succeeded)
  success : printout.code = 0 ↔ ∀ record ∈ session.records, record.state = .succeeded

structure Session.Concluded (tasks : List String) (printout : Printout) : Prop where
  refused : (∃ answer ∈ session.answers, ¬ Taken answer) →
    printout.lines = [] ∧ printout.code ≠ 0
  settled : (∀ answer ∈ session.answers, Taken answer) → session.Settled tasks printout

theorem sound_concluded (requests : List Request) (sound : session.Sound requests)
    (failure : Option SchedulerError) (ended : session.stage = .ended failure) (tasks : List String)
    (named : requests.map Request.reference = tasks.map referencePart) :
    session.Concluded tasks (session.printout elapsed) := by
  rcases sound with ⟨names, underway⟩ | ⟨⟨answer, member, refused⟩, unprinted, error, failed⟩
  · obtain ⟨rfl, accounts⟩ := Session.ended_accounts session requests names underway failure ended
    refine ⟨fun ⟨answer, member, refused⟩ => absurd (underway.taken answer member) refused,
      fun _ => ?_⟩
    obtain ⟨lines, success⟩ := printed_successful elapsed session.records
    rw [Session.printout, ended]
    refine ⟨named ▸ accounts, lines ▸ lines_tell session.records, fun record member => ?_, success⟩
    exact terminal_words record.state (accounts.ended record member)
  · refine ⟨fun _ => ?_, fun taken => absurd (taken answer member) refused⟩
    rw [Session.printout, failed, unprinted]
    exact ⟨rfl, Nat.one_ne_zero⟩

end Printed

section Run

variable (line : List String) (around : Surroundings) (environment : Environment)
  (options : Options)

theorem run_course
    (known : Environment.ofVariables (fun name => Variables.find? name around.vars) = .ok environment)
    (parsed : Options.parse line around.vars = .ok options) (unlisted : options.list = false) :
    run line around =
      (course options environment.scheduler.settings around).printout around.now := by
  simp only [run, known, parsed, unlisted, Bool.false_eq_true, if_false]
  rfl

theorem course_malformed (given : Settings) (task : String) (member : task ∈ options.tasks)
    (malformed : Malformed task) : ∃ message, course options given around = .unread message := by
  obtain ⟨message, unread⟩ := requests_malformed options.tasks task member malformed
  exact ⟨message, by rw [course, unread]⟩

theorem course_carried (given settings : Settings) (requests : List Request) (scheduler : Scheduler)
    (configured : settingsOf options given around.read = .ok settings)
    (read : requestsOf options.tasks = .ok requests)
    (built : Scheduler.new settings Builtin.registry around.cores = .ok scheduler) : ∃ wait,
    let carried := carryOut scheduler requests (options.timeoutMs.map Span.ofMillis) wait around.now
      around.idOf
    course options given around = .ended carried.1 carried.2 := by
  refine ⟨Span.ofNanos? (options.waitSecs.getD Options.defaultWaitSecs * 1000000000), ?_⟩
  simp only [course, read, configured, bind, Except.bind, built]

-- Every session of a command line, and among them the one that is run in virtual time.
theorem run_prints_records (settings : Settings)
    (known : Environment.ofVariables (fun name => Variables.find? name around.vars) = .ok environment)
    (parsed : Options.parse line around.vars = .ok options) (unlisted : options.list = false)
    (configured : settingsOf options environment.scheduler.settings around.read = .ok settings) :
    let course := course options environment.scheduler.settings around
    let timeout := options.timeoutMs.map Span.ofMillis
    run line around = course.printout around.now ∧
    ((∃ task ∈ options.tasks, Malformed task) → (∃ message, course = .unread message) ∧
      course.called = [] ∧ (run line around).lines = [] ∧ (run line around).code ≠ 0) ∧
    ((∀ task ∈ options.tasks, ¬ Malformed task) →
      ∃ requests scheduler, requestsOf options.tasks = .ok requests ∧
        Scheduler.new settings Builtin.registry around.cores = .ok scheduler ∧
        let start := Session.begin scheduler requests around.now
        (∀ session, start.Reaches timeout session →
          (session.stage = .stopping → session.scheduler.WindsUp) ∧
          ∀ failure elapsed, session.stage = .ended failure →
            session.Concluded options.tasks (session.printout elapsed)) ∧
        ∃ session finish failure, course = .ended session finish ∧ start.Reaches timeout session ∧
          session.stage = .ended failure ∧ session.answers =
            (submitAll around.idOf timeout requests (opened around.idOf scheduler around.now)).2) := by
  have ran := run_course line around environment options known parsed unlisted
  refine ⟨ran, ?_, fun proper => ?_⟩
  · rintro ⟨task, member, malformed⟩
    obtain ⟨message, unread⟩ := course_malformed around options environment.scheduler.settings task
      member malformed
    rw [ran, unread]
    exact ⟨⟨message, rfl⟩, rfl, rfl, Nat.one_ne_zero⟩
  · obtain ⟨requests, read, named⟩ := requests_proper options.tasks proper
    have valid := settings_valid options _ settings around.read configured
    obtain ⟨scheduler, built⟩ : ∃ scheduler,
        Scheduler.new settings Builtin.registry around.cores = .ok scheduler := by
      rw [Scheduler.new, valid]
      exact ⟨_, rfl⟩
    have begun := Session.begin_sound settings around.cores scheduler built requests around.now
    refine ⟨requests, scheduler, read, built, fun session reaches => ?_, ?_⟩
    · have sound := Session.reaches_sound _ session requests _ begun reaches
      refine ⟨fun stopping => ?_, fun failure elapsed ended =>
        sound_concluded session elapsed requests sound failure ended options.tasks named⟩
      obtain ⟨names, underway⟩ := sound.resolve_right fun refused => by
        obtain ⟨_, other⟩ := refused.ended
        rw [stopping] at other
        cases other
      exact Session.stopping_winds_up session requests names underway stopping
    · obtain ⟨wait, same⟩ := course_carried around options environment.scheduler.settings settings
        requests scheduler configured read built
      obtain ⟨reaches, answers, failure, ended⟩ := carry_out_reaches around.idOf
        (options.timeoutMs.map Span.ofMillis) scheduler settings around.cores built around.now requests
        wait
      exact ⟨_, _, failure, same, reaches, ended, answers⟩

end Run

def bare : Surroundings :=
  ⟨[], fun _ => .failed "no such file", Instant.epoch, TaskId.ofNumber, 1⟩

def failing : Options := { Options.empty with tasks := ["builtin:fail"] }

def bareEnvironment : Environment :=
  (Environment.ofVariables fun _ => none).toOption.getD default

def bareScheduler : Scheduler :=
  (Scheduler.new bareEnvironment.scheduler.settings Builtin.registry 1).toOption.getD default

theorem failing_parsed : Options.parse ["builtin:fail"] bare.vars = .ok failing := by
  have plain : ("builtin:fail".startsWith "--") = false := by decide +kernel
  have argument : Options.isOption "builtin:fail" = false := by decide +kernel
  have read : Options.empty.read ["builtin:fail"] = .ok failing := by
    rw [Options.read, if_neg (by decide), plain, argument, if_neg Bool.false_ne_true,
      if_neg Bool.false_ne_true, Options.read]
    rfl
  rw [Options.parse, read]
  rfl

theorem bare_answers :
    (submitAll bare.idOf none [Request.new "builtin:fail"]
      (opened bare.idOf bareScheduler bare.now)).2 = [.ok (TaskId.ofNumber 0)] := by
  let started := (bareScheduler.start Instant.epoch).1
  have settled : opened bare.idOf bareScheduler bare.now = ⟨⟨started, 0⟩, Instant.epoch⟩ :=
    (Simulation.works bare.idOf).settle_resting ⟨⟨started, 0⟩, Instant.epoch⟩ rfl
  have taken : (started.submit (Request.new "builtin:fail") (TaskId.ofNumber 0) Instant.epoch).2 =
      .ok (TaskId.ofNumber 0) := rfl
  have answered : (Simulation.submit bare.idOf ⟨⟨started, 0⟩, Instant.epoch⟩
      ((Request.new "builtin:fail").orTimeout none)).2.2 = .ok (TaskId.ofNumber 0) := taken
  rw [settled, submitAll]
  simp only [answered, refusal?, submitAll]

theorem failing_task_printed :
    ∃ (record : TaskRecord) (text : String),
      (run ["builtin:fail"] bare).lines = [text] ∧ record.Tells text ∧
        record.reference = "builtin:fail" ∧ record.state.isTerminal = true := by
  obtain ⟨ran, _, proper⟩ := run_prints_records ["builtin:fail"] bare bareEnvironment failing
    bareEnvironment.scheduler.settings rfl failing_parsed rfl rfl
  have unsigned : ∀ task ∈ failing.tasks, ¬ Malformed task := by
    rintro task member ⟨before, text, shape, _⟩
    rw [List.mem_singleton.mp member] at shape
    have signed : '=' ∈ "builtin:fail".toList := by simp [shape]
    exact absurd signed (by decide)
  obtain ⟨requests, scheduler, read, built, every, session, finish, failure, ended, reaches, closed,
    answers⟩ := proper unsigned
  obtain rfl : [Request.new "builtin:fail"] = requests := Except.ok.inj read
  obtain rfl : bareScheduler = scheduler := Except.ok.inj built
  have settled := ((every session reaches).2 failure ((finish.since bare.now).getD Span.zero)
    closed).settled fun answer member => by
      rw [answers, show failing.timeoutMs.map Span.ofMillis = none from rfl, bare_answers,
        List.mem_singleton] at member
      exact member ▸ trivial
  obtain ⟨record, single⟩ : ∃ record, session.records = [record] := by
    have counted := congrArg List.length settled.accounts.references
    rw [List.length_map, List.length_map] at counted
    exact List.length_eq_one_iff.mp counted
  have lines := settled.lines
  have references := settled.accounts.references
  have terminal := settled.accounts.ended
  rw [single] at lines references terminal
  obtain ⟨text, _, tells, none, printed⟩ := List.forall₂_cons_left_iff.mp lines
  rw [ran, ended]
  refine ⟨record, text, ?_, tells, List.singleton_inj.mp references,
    terminal record List.mem_cons_self⟩
  exact printed.trans (congrArg _ (List.forall₂_nil_left_iff.mp none))

end Foreman.Cli
