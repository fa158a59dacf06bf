import Foreman.Board
import Foreman.Board.Calls
import Foreman.Board.Waiter
import Foreman.Cli.Options
import Foreman.Cli.Run
import Foreman.Cli.Session
import Foreman.Config.Environment
import Foreman.Config.File
import Foreman.Config.Folder
import Foreman.Config.Settings
import Foreman.Config.Variables
import Foreman.Event
import Foreman.Event.Digest
import Foreman.Job
import Foreman.Json.Access
import Foreman.Json.Basic
import Foreman.Json.Decode
import Foreman.Json.Fault
import Foreman.Json.Numeral
import Foreman.Json.Reader
import Foreman.Json.Writer
import Foreman.Main
import Foreman.Metrics
import Foreman.Number.Digits
import Foreman.Number.Double
import Foreman.Number.Shortest
import Foreman.Number.Width
import Foreman.Proofs.Board.Abort
import Foreman.Proofs.Board.Balance
import Foreman.Proofs.Board.Calls
import Foreman.Proofs.Board.Change
import Foreman.Proofs.Board.Clearance
import Foreman.Proofs.Board.Coherence
import Foreman.Proofs.Board.Conservation
import Foreman.Proofs.Board.Counters
import Foreman.Proofs.Board.Fate
import Foreman.Proofs.Board.History
import Foreman.Proofs.Board.Keeping
import Foreman.Proofs.Board.Ledger
import Foreman.Proofs.Board.Race
import Foreman.Proofs.Board.Refusal
import Foreman.Proofs.Board.Story
import Foreman.Proofs.Board.Sweep
import Foreman.Proofs.Board.Transition
import Foreman.Proofs.Board.Turn
import Foreman.Proofs.Cli.Course
import Foreman.Proofs.Cli.Lines
import Foreman.Proofs.Cli.Printout
import Foreman.Proofs.Cli.Session
import Foreman.Proofs.Cli.Tasks
import Foreman.Proofs.Config.Environment
import Foreman.Proofs.Config.Keys
import Foreman.Proofs.Config.Timeout
import Foreman.Proofs.Jobs.Edits
import Foreman.Proofs.Jobs.History
import Foreman.Proofs.Jobs.OneShot
import Foreman.Proofs.Jobs.Table
import Foreman.Proofs.Jobs.Wake
import Foreman.Proofs.Json.Grammar
import Foreman.Proofs.Json.Numerals
import Foreman.Proofs.Json.Range
import Foreman.Proofs.Json.Reading
import Foreman.Proofs.Json.Writing
import Foreman.Proofs.Json.Strings
import Foreman.Proofs.Metrics.Counts
import Foreman.Proofs.Number.Digits
import Foreman.Proofs.Registry.Cache
import Foreman.Proofs.Registry.Entries
import Foreman.Proofs.Registry.History
import Foreman.Proofs.Registry.Reference
import Foreman.Proofs.Scheduler.Acceptance
import Foreman.Proofs.Scheduler.Acts
import Foreman.Proofs.Scheduler.Admission
import Foreman.Proofs.Scheduler.Agreement
import Foreman.Proofs.Scheduler.Calls
import Foreman.Proofs.Scheduler.Cancellation
import Foreman.Proofs.Scheduler.Checks
import Foreman.Proofs.Scheduler.Coherence
import Foreman.Proofs.Scheduler.Custody
import Foreman.Proofs.Scheduler.Desk
import Foreman.Proofs.Scheduler.Entry
import Foreman.Proofs.Scheduler.Exclusive
import Foreman.Proofs.Scheduler.Fires
import Foreman.Proofs.Scheduler.Fit
import Foreman.Proofs.Scheduler.Invocation
import Foreman.Proofs.Scheduler.Moves
import Foreman.Proofs.Scheduler.Orders
import Foreman.Proofs.Scheduler.Overlap
import Foreman.Proofs.Scheduler.Pass
import Foreman.Proofs.Scheduler.Phases
import Foreman.Proofs.Scheduler.Reception
import Foreman.Proofs.Scheduler.Rest
import Foreman.Proofs.Scheduler.Round
import Foreman.Proofs.Scheduler.Setup
import Foreman.Proofs.Scheduler.Shutdown
import Foreman.Proofs.Scheduler.Steady
import Foreman.Proofs.Scheduler.Supervision
import Foreman.Proofs.Scheduler.Upkeep
import Foreman.Proofs.Store.History
import Foreman.Proofs.Store.Records
import Foreman.Proofs.Task.Builtin
import Foreman.Proofs.Task.Codec
import Foreman.Proofs.Task.IdText
import Foreman.Proofs.Text.Bytes
import Foreman.Proofs.Text.Words
import Foreman.Proofs.Time.Calendar
import Foreman.Proofs.Time.Clockwork
import Foreman.Proofs.Time.Instant
import Foreman.Proofs.Time.Reading
import Foreman.Proofs.Time.Stamp
import Foreman.Proofs.Time.Years
import Foreman.Proofs.Trigger.CatchUp
import Foreman.Proofs.Trigger.Drift
import Foreman.Proofs.Trigger.Leaves
import Foreman.Proofs.Trigger.Onward
import Foreman.Proofs.Trigger.Orbit
import Foreman.Proofs.Trigger.Sameness
import Foreman.Proofs.Trigger.Schedule
import Foreman.Proofs.Trigger.Search
import Foreman.Proofs.Trigger.Series
import Foreman.Proofs.Trigger.Waiting
import Foreman.Proofs.Workshop.Bearers
import Foreman.Proofs.Workshop.Bodies
import Foreman.Proofs.Workshop.Calls
import Foreman.Proofs.Workshop.Crew
import Foreman.Proofs.Workshop.Custody
import Foreman.Proofs.Workshop.Deeds
import Foreman.Proofs.Workshop.Drain
import Foreman.Proofs.Workshop.Efforts
import Foreman.Proofs.Workshop.Flow
import Foreman.Proofs.Workshop.Posts
import Foreman.Proofs.Workshop.Verdicts
import Foreman.Reference
import Foreman.Registry
import Foreman.Report
import Foreman.Scenario
import Foreman.Scheduler.Basic
import Foreman.Scheduler.Coordinator
import Foreman.Scheduler.Error
import Foreman.Scheduler.Jobs
import Foreman.Scheduler.Move
import Foreman.Scheduler.Simulation
import Foreman.Scheduler.Submission
import Foreman.Store
import Foreman.Task.Arguments
import Foreman.Task.Builtin
import Foreman.Task.Error
import Foreman.Task.Outcome
import Foreman.Task.Probe
import Foreman.Task.Process
import Foreman.Task.Record
import Foreman.Task.Request
import Foreman.Task.Shape
import Foreman.Task.State
import Foreman.TaskId
import Foreman.Text.Alphanumeric
import Foreman.Text.Blank
import Foreman.Text.Case
import Foreman.Text.Hidden
import Foreman.Text.Log
import Foreman.Text.Plain
import Foreman.Text.Quoted
import Foreman.Time.Calendar
import Foreman.Time.Clockwork
import Foreman.Time.Codec
import Foreman.Time.Instant
import Foreman.Time.Span
import Foreman.Time.Stamp
import Foreman.Time.Timestamp
import Foreman.Toml.Reader
import Foreman.Toml.Scalar
import Foreman.Toml.Table
import Foreman.Trigger.Basic
import Foreman.Trigger.Cron
import Foreman.Trigger.Error
import Foreman.Trigger.Field
import Foreman.Trigger.Interval
import Foreman.Workshop.Activity
import Foreman.Workshop.Basic
import Foreman.Workshop.Deed
import Foreman.Workshop.Gate
