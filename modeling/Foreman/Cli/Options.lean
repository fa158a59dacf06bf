import Foreman.Config.Variables
import Foreman.Number.Digits
import Foreman.Number.Width

set_option autoImplicit false

namespace Foreman.Cli

structure Options where
  tasks : List String
  config : Option String
  workers : Option Nat
  timeoutMs : Option Nat
  waitSecs : Option Nat
  list : Bool
deriving DecidableEq, Repr, Inhabited

inductive Halt where
  | help
  | version
  | misuse
deriving DecidableEq, Repr, Inhabited

namespace Options

def empty : Options := ⟨[], none, none, none, none, false⟩

def defaultWaitSecs : Nat := 60

def number (value : String) : Except Halt Nat :=
  match Number.readBelow Number.bound64 value.toList with
  | some number => .ok number
  | none => .error .misuse

def once {α : Type} (old : Option α) (value : α) : Except Halt (Option α) :=
  match old with
  | some _ => .error .misuse
  | none => .ok (some value)

def path (value : String) : Except Halt String :=
  if value.isEmpty then .error .misuse else .ok value

inductive Name where
  | config
  | workers
  | timeoutMs
  | waitSecs
deriving DecidableEq, Repr

def names : List (String × Name) :=
  [("config", .config), ("workers", .workers), ("timeout-ms", .timeoutMs), ("wait-secs", .waitSecs)]

def named? (word : String) : Option Name :=
  (names.find? fun entry => entry.1 == word).map Prod.snd

def set (options : Options) (name : Name) (value : String) : Except Halt Options :=
  match name with
  | .config => do return { options with config := ← once options.config (← path value) }
  | .workers => do return { options with workers := ← once options.workers (← number value) }
  | .timeoutMs => do return { options with timeoutMs := ← once options.timeoutMs (← number value) }
  | .waitSecs => do return { options with waitSecs := ← once options.waitSecs (← number value) }

def flag (options : Options) (word : String) : Except Halt Options :=
  if word = "help" then .error .help
  else if word = "version" then .error .version
  else if word = "list" ∧ options.list = false then .ok { options with list := true }
  else .error .misuse

def short (word : String) : Halt :=
  match word.toList with
  | '-' :: 'h' :: _ => .help
  | '-' :: 'V' :: _ => .version
  | _ => .misuse

def isOption (word : String) : Bool :=
  word.startsWith "-" && word != "-"

def splitEqual (text : List Char) : List Char × Option (List Char) :=
  match text.dropWhile (· != '=') with
  | [] => (text, none)
  | _ :: value => (text.takeWhile (· != '='), some value)

def read (options : Options) : List String → Except Halt Options
  | [] => .ok options
  | word :: rest =>
      if word = "--" then .ok { options with tasks := options.tasks ++ rest }
      else if word.startsWith "--" then
        let (name, value) := splitEqual (word.toList.drop 2)
        match named? (String.ofList name), value, rest with
        | none, none, rest => do read (← options.flag (String.ofList name)) rest
        | none, some _, _ => .error .misuse
        | some name, some value, rest => do read (← options.set name (String.ofList value)) rest
        | some _, none, [] => .error .misuse
        | some name, none, value :: rest =>
            if isOption value then .error .misuse else do read (← options.set name value) rest
      else if isOption word then .error (short word)
      else read { options with tasks := options.tasks ++ [word] } rest
termination_by line => line.length

def withVariables (options : Options) (vars : Variables) : Except Halt Options := do
  let config ← match options.config, Variables.find? "TASKHUB_CONFIG" vars with
    | none, some value => (path value).map some
    | given, _ => .ok given
  let waitSecs ← match options.waitSecs, Variables.find? "TASKHUB_WAIT_SECS" vars with
    | none, some value => (number value).map some
    | given, _ => .ok given
  return { options with config := config, waitSecs := waitSecs }

def parse (line : List String) (vars : Variables) : Except Halt Options := do
  let options ← (← empty.read line).withVariables vars
  if options.tasks.isEmpty && !options.list then .error .misuse else return options

end Options

end Foreman.Cli
