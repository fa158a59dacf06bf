import Foreman.Number.Digits

set_option autoImplicit false

namespace Foreman

inductive TaskError where
  | failed (message : String)
  | invalidArgument (message : String)
  | chain (outermost : String) (causes : List String)
deriving DecidableEq, Repr, Inhabited

namespace TaskError

def kind : TaskError → String
  | .failed _ => "Failed"
  | .invalidArgument _ => "InvalidArgument"
  | .chain _ _ => "Other"

def message : TaskError → String
  | .failed message => "Task failed: " ++ message
  | .invalidArgument message => "Invalid argument: " ++ message
  | .chain outermost _ => outermost

def indented (width : Nat) (text : String) : String :=
  ("\n" ++ String.ofList (List.replicate width ' ')).intercalate (text.splitOn "\n")

def numbered (index : Nat) (cause : String) : String :=
  let number := Number.digits index
  "\n" ++ String.ofList (List.replicate (5 - number.length) ' ' ++ number) ++ ": " ++
    indented 7 cause

def causeLines : Nat → List String → String
  | _, [] => ""
  | index, cause :: rest => numbered index cause ++ causeLines (index + 1) rest

def report (outermost : String) (causes : List String) : String :=
  match causes with
  | [] => outermost
  | [cause] => outermost ++ "\n\nCaused by:\n    " ++ indented 4 cause
  | causes => outermost ++ "\n\nCaused by:" ++ causeLines 0 causes

end TaskError

end Foreman
