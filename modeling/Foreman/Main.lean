import Foreman.Cli.Run
import Std.Time.DateTime.Timestamp

set_option autoImplicit false

namespace Foreman.Surroundings

def textOf (bytes : ByteArray) : String := (String.fromUTF8? bytes).getD ""

def readText? (path : String) : IO (Option String) := do
  try return some (textOf (← IO.FS.readBinFile path))
  catch _ => return none

def variableOf (assignment : String) : Option (String × String) :=
  match Cli.Options.splitEqual assignment.toList with
  | (name, some value) => some (String.ofList name, String.ofList value)
  | (_, none) => none

def processVariables : IO Variables := do
  let stored ← readText? "/proc/self/environ"
  return ((stored.getD "").splitOn "\x00").filterMap variableOf

def variableFile? : Nat → String → IO (Option String)
  | 0, _ => return none
  | above + 1, folder => do
      match ← readText? (folder ++ ".env") with
      | some document => return some document
      | none => variableFile? above (folder ++ "../")

def allVariables : IO Variables := do
  let set ← processVariables
  let depth := ((← IO.currentDir).toString.splitOn "/").length
  return (← variableFile? depth "").elim set (Variables.withFile set)

def reasonOf : IO.Error → String
  | .noFileOrDirectory _ _ _ => "No such file or directory (os error 2)"
  | .permissionDenied _ _ _ => "Permission denied (os error 13)"
  | .inappropriateType _ _ _ => "Is a directory (os error 21)"
  | error => error.toString

def fileContent (path : String) : IO Settings.FileContent := do
  try
    match String.fromUTF8? (← IO.FS.readBinFile path) with
    | some document => return .content document
    | none => return .failed "stream did not contain valid UTF-8"
  catch error => return .failed (reasonOf error)

def configFile (line : List String) (vars : Variables) : IO Settings.FileContent :=
  match Cli.Options.parse line vars with
  | .ok { config := some path, .. } => fileContent path
  | _ => return .failed "No such file or directory (os error 2)"

def clock : IO Instant := do
  let nanos := (← Std.Time.Timestamp.now).toNanosecondsSinceUnixEpoch.val
  return (Instant.ofNanos? nanos).getD Instant.epoch

def seed : IO Nat := do
  return (← IO.getRandomBytes 16).toList.foldl (fun seed byte => seed * 256 + byte.toNat) 0

def cores : IO Nat := do
  let shown := (← readText? "/proc/cpuinfo").getD ""
  return max 1 ((shown.splitOn "\n").countP fun line => line.startsWith "processor")

def observe (line : List String) : IO Cli.Surroundings := do
  let vars ← allVariables
  let content ← configFile line vars
  let seed ← seed
  return ⟨vars, fun _ => content, ← clock, fun number => TaskId.ofNumber (seed + number),
    ← cores⟩

end Foreman.Surroundings

def main (line : List String) : IO UInt32 := do
  let printout := Foreman.Cli.run line (← Foreman.Surroundings.observe line)
  IO.sleep (UInt32.ofNat printout.elapsed.millisUp)
  for shown in printout.lines do IO.println shown
  IO.eprint printout.complaint
  return UInt32.ofNat printout.code
