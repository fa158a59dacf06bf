import Foreman.Number.Digits

set_option autoImplicit false

namespace Foreman.Json

inductive Reason where
  | unclosedList
  | unclosedObject
  | unclosedString
  | missingValue
  | expectedColon
  | expectedListEnd
  | expectedObjectEnd
  | expectedIdent
  | expectedValue
  | invalidEscape
  | invalidNumber
  | numberOutOfRange
  | controlCharacter
  | keyNotText
  | loneSurrogate
  | trailingComma
  | trailingCharacters
  | unfinishedEscape
  | tooDeep
deriving DecidableEq, Repr

def Reason.message : Reason → String
  | .unclosedList => "EOF while parsing a list"
  | .unclosedObject => "EOF while parsing an object"
  | .unclosedString => "EOF while parsing a string"
  | .missingValue => "EOF while parsing a value"
  | .expectedColon => "expected `:`"
  | .expectedListEnd => "expected `,` or `]`"
  | .expectedObjectEnd => "expected `,` or `\x7d`"
  | .expectedIdent => "expected ident"
  | .expectedValue => "expected value"
  | .invalidEscape => "invalid escape"
  | .invalidNumber => "invalid number"
  | .numberOutOfRange => "number out of range"
  | .controlCharacter => "control character (\\u0000-\\u001F) found while parsing a string"
  | .keyNotText => "key must be a string"
  | .loneSurrogate => "lone leading surrogate in hex escape"
  | .trailingComma => "trailing comma"
  | .trailingCharacters => "trailing characters"
  | .unfinishedEscape => "unexpected end of hex escape"
  | .tooDeep => "recursion limit exceeded"

structure Fault where
  reason : Reason
  behind : Nat
deriving DecidableEq, Repr

def byteCount (text : List Char) : Nat :=
  text.foldl (fun total c => total + c.utf8Size) 0

def Fault.before (reason : Reason) (rest : List Char) : Fault :=
  ⟨reason, byteCount rest⟩

def Fault.upon (reason : Reason) (rest : List Char) : Fault :=
  ⟨reason, byteCount rest - 1⟩

def position (text : List Char) (offset : Nat) : Nat × Nat :=
  let step (place : Nat × Nat × Nat) (c : Char) : Nat × Nat × Nat :=
    let (line, column, left) := place
    if left < c.utf8Size then (line, column + left, 0)
    else if c = '\n' then (line + 1, 0, left - 1)
    else (line, column + c.utf8Size, left - c.utf8Size)
  let (line, column, _) := text.foldl step (1, 0, offset)
  (line, column)

def Fault.message (text : List Char) (fault : Fault) : String :=
  let (line, column) := position text (byteCount text - fault.behind)
  fault.reason.message ++ " at line " ++ Number.natText line ++ " column " ++ Number.natText column

end Foreman.Json
