import Foreman.Cli.Options
import Foreman.Cli.Session
import Foreman.Config.Environment
import Foreman.Config.File
import Foreman.Json.Reader
import Foreman.Json.Writer
import Foreman.Scheduler.Simulation
import Foreman.Task.Builtin
import Foreman.Text.Log
import Foreman.Text.Plain

set_option autoImplicit false

namespace Foreman.Cli

structure Printout where
  code : Nat
  lines : List String
  complaint : String
  elapsed : Span
deriving Inhabited

namespace Printout

def ofLines (lines : List String) : Printout := ⟨0, lines, "", Span.zero⟩

def failed (message : String) : Printout := ⟨1, [], "Error: " ++ message ++ "\n", Span.zero⟩

end Printout

structure Surroundings where
  vars : Variables
  read : String → Settings.FileContent
  now : Instant
  idOf : Nat → TaskId
  cores : Nat

def name : String := "taskhub-run"

def version : String := name ++ " 0.1.0"

def variableNote (vars : Variables) (name : String) : String :=
  " [env: " ++ name ++ "=" ++ (Variables.find? name vars).getD "" ++ "]"

def noteColumn : Nat := 33

def noteChar (c : Char) : List Char :=
  if c = '\n' then '\n' :: List.replicate noteColumn ' ' else [c]

def optionText (option note : String) : String :=
  String.ofList ((option.toList ++ List.replicate noteColumn ' ').take noteColumn ++
    note.toList.flatMap noteChar)

def helpText (vars : Variables) : List String :=
  ["Run tasks on a local scheduler and print each task record as JSON",
   "",
   "Usage: " ++ name ++ " [OPTIONS] [TASKS]...",
   "",
   "Arguments:",
   "  [TASKS]...  Tasks to run: \x60reference\x60 or \x60reference=<json args>\x60",
   "",
   "Options:",
   optionText "      --config <CONFIG>"
     ("Scheduler TOML config file. Environment settings are used when absent" ++
       variableNote vars "TASKHUB_CONFIG"),
   optionText "      --workers <WORKERS>"
     "Number of blocking worker threads (0 = available parallelism)",
   optionText "      --timeout-ms <TIMEOUT_MS>" "Timeout applied to every task, in milliseconds",
   optionText "      --wait-secs <WAIT_SECS>"
     ("How long to wait for all tasks before cancelling the rest, in seconds" ++
       variableNote vars "TASKHUB_WAIT_SECS" ++ " [default: 60]"),
   optionText "      --list" "List the registered task references and exit",
   optionText "  -h, --help" "Print help",
   optionText "  -V, --version" "Print version"]

def help (vars : Variables) : List String :=
  let text := (helpText vars).flatMap fun line => line.toList ++ ['\n']
  (Text.lines (Text.plain text)).map String.ofList

def halted (vars : Variables) : Halt → Printout
  | .help => .ofLines (help vars)
  | .version => .ofLines [version]
  | .misuse => ⟨2, [], "error: invalid command line\n\nFor more information, try '--help'.\n",
      Span.zero⟩

def withArguments (request : Request) : Json → Request
  | .array items => request.args items
  | .object members => request.kwargs members
  | value => request.arg value

def requestOf (task : String) : Except String Request :=
  match Options.splitEqual task.toList with
  | (reference, none) => .ok (Request.new (String.ofList reference))
  | (reference, some arguments) =>
      let reference := String.ofList reference
      match Json.read (String.ofList arguments) with
      | .ok value => .ok (withArguments (Request.new reference) value)
      | .error cause =>
          let subject := "arguments for '" ++ reference ++ "' are not valid JSON"
          .error (TaskError.report subject [cause])

def requestsOf : List String → Except String (List Request)
  | [] => .ok []
  | task :: rest => do
      let request ← requestOf task
      return request :: (← requestsOf rest)

def settingsOf (options : Options) (given : Settings) (read : String → Settings.FileContent) :
    Except SchedulerError Settings := do
  let settings ← match options.config with
    | some path => Settings.ofFile path (read path)
    | none => .ok given
  let settings := match options.workers with
    | some workers => settings.withWorkers workers
    | none => settings
  settings.validate
  return settings

def errorText (error : SchedulerError) : String :=
  TaskError.report error.message error.source?.toList

def failureLine (failure : Failure) : Json :=
  let detail := match failure.detail with
    | some detail => [("detail", Json.text detail)]
    | none => []
  .object
    ([("message", .text failure.message), ("origin", failure.origin.toJson),
      ("occurred_at", failure.occurredAt.toJson)] ++ detail)

def outcomeLine : Outcome → Json
  | .success value => .object [("success", value)]
  | .failure reason => .object [("failure", failureLine reason)]

def recordLine (record : TaskRecord) : String :=
  Json.write (.object
    [("id", record.id.toJson), ("reference", .text record.reference),
     ("kind", Json.ofOption Kind.toJson record.kind), ("state", record.state.toJson),
     ("outcome", Json.ofOption outcomeLine record.outcome),
     ("submitted_at", record.submittedAt.toJson),
     ("started_at", Json.ofOption Timestamp.toJson record.startedAt),
     ("finished_at", Json.ofOption Timestamp.toJson record.finishedAt)])

section

variable (idOf : Nat → TaskId)

def submitAll (timeout : Option Span) :
    List Request → Moment Simulation →
      Moment Simulation × List (Except SchedulerError TaskId)
  | [], moment => (moment, [])
  | request :: rest, moment =>
      let (moment, _, answer) := Simulation.submit idOf moment (request.orTimeout timeout)
      match refusal? answer with
      | some _ => (moment, [answer])
      | none =>
          let (moment, answers) := submitAll timeout rest moment
          (moment, answer :: answers)

def remaining (deadline : Option Instant) (now : Instant) : Option Span :=
  deadline.map fun deadline => (deadline.since now).getD Span.zero

def awaitAll (deadline : Option Instant) :
    List TaskId → Moment Simulation → Moment Simulation × Except SchedulerError Unit
  | [], moment => (moment, .ok ())
  | id :: rest, moment =>
      match Simulation.await idOf moment id (remaining deadline moment.now) with
      | (moment, .ok _) => awaitAll deadline rest moment
      | (moment, .error (.waitTimeout _ _)) => awaitAll deadline rest moment
      | (moment, .error error) => (moment, .error error)

def recordsOf (board : Board) : List TaskId → List TaskRecord × Option SchedulerError
  | [] => ([], none)
  | id :: rest =>
      match board.record id with
      | .error error => ([], some error)
      | .ok record =>
          let (records, failure) := recordsOf board rest
          (record :: records, failure)

end

def unsuccessful (records : List TaskRecord) : Nat :=
  records.countP fun record => record.state != .succeeded

def printed (records : List TaskRecord) (elapsed : Span) : Printout :=
  let lines := records.map recordLine
  let count := unsuccessful records
  if count = 0 then { Printout.ofLines lines with elapsed := elapsed }
  else
    let message := Number.natText count ++ " of " ++ Number.natText records.length ++
      " tasks did not succeed"
    { Printout.failed message with lines := lines, elapsed := elapsed }

def carryOut (scheduler : Scheduler) (requests : List Request) (timeout wait : Option Span)
    (start : Instant) (idOf : Nat → TaskId) : Session × Instant :=
  let (moment, started) :=
    Simulation.call idOf ⟨⟨scheduler, 0⟩, start⟩ fun scheduler now => scheduler.start now
  match started with
  | .error error => (⟨moment.state.scheduler, [], [], .ended (some error)⟩, moment.now)
  | .ok () =>
      let (moment, answers) := submitAll idOf timeout requests moment
      let ended (moment : Moment Simulation) (records : List TaskRecord)
          (failure : Option SchedulerError) : Session × Instant :=
        (⟨moment.state.scheduler, answers, records, .ended failure⟩, moment.now)
      match answers.findSome? refusal? with
      | some error => ended moment [] (some error)
      | none =>
          let ids := answers.filterMap taskOf?
          match awaitAll idOf (wait.bind moment.now.add?) ids moment with
          | (moment, .error error) => ended moment [] (some error)
          | (moment, .ok ()) =>
              match Simulation.stop idOf moment .cancel with
              | (moment, .error error) => ended moment [] (some error)
              | (moment, .ok ()) =>
                  let (records, failure) := recordsOf moment.state.scheduler.board ids
                  ended moment records failure

namespace Session

def printout (session : Session) (elapsed : Span) : Printout :=
  match session.stage with
  | .ended (some error) =>
      { Printout.failed (errorText error) with lines := session.records.map recordLine }
  | _ => printed session.records elapsed

end Session

inductive Course where
  | unread (message : String)
  | unmade (error : SchedulerError)
  | ended (session : Session) (finish : Instant)

namespace Course

def called : Course → List Assignment
  | .ended session _ => session.scheduler.shop.called
  | _ => []

def printout (start : Instant) : Course → Printout
  | .unread message => .failed message
  | .unmade error => .failed (errorText error)
  | .ended session finish => session.printout ((finish.since start).getD Span.zero)

end Course

def course (options : Options) (given : Settings) (around : Surroundings) : Course :=
  match requestsOf options.tasks with
  | .error message => .unread message
  | .ok requests =>
      let scheduler := do
        let settings ← settingsOf options given around.read
        Scheduler.new settings Builtin.registry around.cores
      match scheduler with
      | .error error => .unmade error
      | .ok scheduler =>
          let timeout := options.timeoutMs.map Span.ofMillis
          let wait := Span.ofNanos? ((options.waitSecs.getD Options.defaultWaitSecs) * 1000000000)
          let (session, finish) :=
            carryOut scheduler requests timeout wait around.now around.idOf
          .ended session finish

def runTasks (options : Options) (given : Settings) (around : Surroundings) : Printout :=
  (course options given around).printout around.now

def run (line : List String) (around : Surroundings) : Printout :=
  match Environment.ofVariables fun name => Variables.find? name around.vars with
  | .error error => .failed error.message
  | .ok environment =>
      match Options.parse line around.vars with
      | .error halt => halted around.vars halt
      | .ok options =>
          if options.list then .ofLines Builtin.registry.references
          else runTasks options environment.scheduler.settings around

end Foreman.Cli
