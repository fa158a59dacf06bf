import Foreman.Time.Span

set_option autoImplicit false

namespace Foreman

inductive TriggerError where
  | intervalTooShort (every : Span)
  | intervalOutOfRange (every : Span)
  | emptyWindow
  | invalidCron (expression reason : String)
  | noTriggers
deriving DecidableEq, Inhabited

def TriggerError.kind : TriggerError → String
  | .intervalTooShort _ => "IntervalTooShort"
  | .intervalOutOfRange _ => "IntervalOutOfRange"
  | .emptyWindow => "EmptyWindow"
  | .invalidCron _ _ => "InvalidCron"
  | .noTriggers => "NoTriggers"

def TriggerError.message : TriggerError → String
  | .intervalTooShort every => "Interval must be at least 1ms, got " ++ every.text
  | .intervalOutOfRange every => "Interval " ++ every.text ++ " is out of range"
  | .emptyWindow => "Interval window ends before it starts"
  | .invalidCron expression reason =>
      "Invalid cron expression '" ++ expression ++ "': " ++ reason
  | .noTriggers => "A combined trigger needs at least one trigger"

end Foreman
