import Foreman.Text.Blank

set_option autoImplicit false

namespace Foreman

inductive ResolutionError where
  | malformedReference (reference : String)
  | notFound (reference : String)
  | duplicate (reference : String)
deriving DecidableEq, Repr, Inhabited

def ResolutionError.kind : ResolutionError → String
  | .malformedReference _ => "MalformedReference"
  | .notFound _ => "NotFound"
  | .duplicate _ => "Duplicate"

def ResolutionError.message : ResolutionError → String
  | .malformedReference reference =>
      "Malformed task reference '" ++ reference ++ "': expected 'module:function'"
  | .notFound reference => "No task registered under '" ++ reference ++ "'"
  | .duplicate reference => "Task '" ++ reference ++ "' is already registered"

structure Reference where
  module : List Char
  function : List Char
deriving DecidableEq, Repr

namespace Reference

def isBlank (half : List Char) : Bool :=
  half.all Text.isBlank

def ofChars (text : List Char) : Option Reference :=
  let module := text.takeWhile (· != ':')
  match text.dropWhile (· != ':') with
  | [] => none
  | _ :: function =>
      if function.contains ':' || isBlank module || isBlank function then none
      else some ⟨module, function⟩

def parse (reference : String) : Except ResolutionError Reference :=
  match ofChars reference.toList with
  | some parsed => .ok parsed
  | none => .error (.malformedReference reference)

end Reference

end Foreman
