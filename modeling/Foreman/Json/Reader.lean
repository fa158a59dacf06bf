import Foreman.Json.Numeral

set_option autoImplicit false

namespace Foreman.Json

def isSpace (c : Char) : Bool :=
  c == ' ' || c == '\n' || c == '\t' || c == '\r'

def skipSpace (text : List Char) : List Char :=
  text.dropWhile isSpace

def hexValue (c : Char) : Option Nat :=
  if '0' ≤ c ∧ c ≤ '9' then some (c.toNat - '0'.toNat)
  else if 'a' ≤ c ∧ c ≤ 'f' then some (c.toNat - 'a'.toNat + 10)
  else if 'A' ≤ c ∧ c ≤ 'F' then some (c.toNat - 'A'.toNat + 10)
  else none

def readHex (text : List Char) : Except Fault (Nat × List Char) :=
  if byteCount text < 4 then .error (.before .unclosedString [])
  else
    match (text.take 4).mapM hexValue with
    | some [a, b, c, d] => .ok (((a * 16 + b) * 16 + c) * 16 + d, text.drop 4)
    | _ => .error ⟨.invalidEscape, byteCount text - 4⟩

def isLowSurrogate (unit : Nat) : Bool :=
  decide (0xdc00 ≤ unit) && decide (unit ≤ 0xdfff)

def isHighSurrogate (unit : Nat) : Bool :=
  decide (0xd800 ≤ unit) && decide (unit ≤ 0xdbff)

def readLowUnit (high : Nat) (text : List Char) : Except Fault (Char × List Char) := do
  match text with
  | '\\' :: 'u' :: rest =>
      let (low, rest) ← readHex rest
      if isLowSurrogate low then
        .ok (Char.ofNat ((high - 0xd800) * 0x400 + (low - 0xdc00) + 0x10000), rest)
      else .error (.before .loneSurrogate rest)
  | [] => .error (.before .unclosedString [])
  | ['\\'] => .error (.before .unclosedString [])
  | '\\' :: rest => .error (.upon .unfinishedEscape rest)
  | other => .error (.upon .unfinishedEscape other)

def readUnicode (text : List Char) : Except Fault (Char × List Char) := do
  let (unit, rest) ← readHex text
  if isLowSurrogate unit then .error (.before .loneSurrogate rest)
  else if isHighSurrogate unit then readLowUnit unit rest
  else .ok (Char.ofNat unit, rest)

def readEscape (text : List Char) : Except Fault (Char × List Char) :=
  match text with
  | [] => .error (.before .unclosedString [])
  | '"' :: rest => .ok ('"', rest)
  | '\\' :: rest => .ok ('\\', rest)
  | '/' :: rest => .ok ('/', rest)
  | 'b' :: rest => .ok ('\x08', rest)
  | 'f' :: rest => .ok ('\x0c', rest)
  | 'n' :: rest => .ok ('\n', rest)
  | 'r' :: rest => .ok ('\r', rest)
  | 't' :: rest => .ok ('\t', rest)
  | 'u' :: rest => readUnicode rest
  | other => .error (.upon .invalidEscape other)

def readChars : Nat → List Char → List Char → Except Fault (String × List Char)
  | 0, _, rest => .error (.before .unclosedString rest)
  | _ + 1, _, [] => .error (.before .unclosedString [])
  | fuel + 1, done, c :: rest => do
      if c = '"' then .ok (String.ofList done.reverse, rest)
      else if c = '\\' then
        let (escaped, rest) ← readEscape rest
        readChars fuel (escaped :: done) rest
      else if c.toNat < 0x20 then .error (.before .controlCharacter rest)
      else readChars fuel (c :: done) rest

def readString (text : List Char) : Except Fault (String × List Char) :=
  readChars (text.length + 1) [] text

def readWord (word : List Char) (value : Json) (text : List Char) :
    Except Fault (Json × List Char) :=
  match word, text with
  | [], rest => .ok (value, rest)
  | _ :: _, [] => .error (.before .missingValue [])
  | expected :: word, c :: rest =>
      if c = expected then readWord word value rest else .error (.upon .expectedIdent (c :: rest))

def readColon (text : List Char) : Except Fault (List Char) :=
  match skipSpace text with
  | ':' :: rest => .ok rest
  | [] => .error (.before .unclosedObject [])
  | other => .error (.upon .expectedColon other)

def nextItem (first : Bool) (text : List Char) : Except Fault (Option (List Char) × List Char) :=
  match skipSpace text with
  | ']' :: rest => .ok (none, rest)
  | [] => .error (.before .unclosedList [])
  | ',' :: rest =>
      if first then .ok (some (',' :: rest), [])
      else
        match skipSpace rest with
        | ']' :: more => .error (.upon .trailingComma (']' :: more))
        | [] => .error (.before .missingValue [])
        | other => .ok (some other, [])
  | other => if first then .ok (some other, []) else .error (.upon .expectedListEnd other)

def nextName (first : Bool) (text : List Char) : Except Fault (Option (List Char) × List Char) :=
  match skipSpace text with
  | '\x7d' :: rest => .ok (none, rest)
  | [] => .error (.before .unclosedObject [])
  | c :: rest =>
      if first then
        if c = '"' then .ok (some rest, []) else .error (.upon .keyNotText (c :: rest))
      else if c = ',' then
        match skipSpace rest with
        | '"' :: more => .ok (some more, [])
        | '\x7d' :: more => .error (.upon .trailingComma ('\x7d' :: more))
        | [] => .error (.before .missingValue [])
        | other => .error (.upon .keyNotText other)
      else .error (.upon .expectedObjectEnd (c :: rest))

mutual

def readValue : Nat → Nat → List Char → Except Fault (Json × List Char)
  | 0, _, rest => .error (.before .missingValue rest)
  | fuel + 1, depth, start =>
      match skipSpace start with
      | [] => .error (.before .missingValue [])
      | 'n' :: rest => readWord ['u', 'l', 'l'] .null rest
      | 't' :: rest => readWord ['r', 'u', 'e'] (.bool true) rest
      | 'f' :: rest => readWord ['a', 'l', 's', 'e'] (.bool false) rest
      | '-' :: rest => readNumber true rest
      | '"' :: rest => do
          let (value, rest) ← readString rest
          .ok (.text value, rest)
      | '[' :: rest =>
          if depth ≤ 1 then .error (.upon .tooDeep ('[' :: rest))
          else readItems fuel (depth - 1) true [] rest
      | '\x7b' :: rest =>
          if depth ≤ 1 then .error (.upon .tooDeep ('\x7b' :: rest))
          else readMembers fuel (depth - 1) true [] rest
      | c :: rest =>
          if Number.isDigit c then readNumber false (c :: rest)
          else .error (.upon .expectedValue (c :: rest))

def readItems : Nat → Nat → Bool → List Json → List Char → Except Fault (Json × List Char)
  | 0, _, _, _, rest => .error (.before .unclosedList rest)
  | fuel + 1, depth, first, done, start => do
      match ← nextItem first start with
      | (none, rest) => .ok (.array done.reverse, rest)
      | (some start, _) =>
          let (value, rest) ← readValue fuel depth start
          readItems fuel depth false (value :: done) rest

def readMembers :
    Nat → Nat → Bool → List (String × Json) → List Char → Except Fault (Json × List Char)
  | 0, _, _, _, rest => .error (.before .unclosedObject rest)
  | fuel + 1, depth, first, done, start => do
      match ← nextName first start with
      | (none, rest) => .ok (.object done, rest)
      | (some start, _) =>
          let (name, rest) ← readString start
          let start ← readColon rest
          let (value, rest) ← readValue fuel depth start
          readMembers fuel depth false (put name value done) rest

end

def readText (text : List Char) : Except Fault Json := do
  let (value, rest) ← readValue (2 * text.length + 2) 128 text
  match skipSpace rest with
  | [] => .ok value
  | other => .error (.upon .trailingCharacters other)

def read (text : String) : Except String Json :=
  (readText text.toList).mapError (Fault.message text.toList)

end Foreman.Json
