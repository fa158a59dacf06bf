import Foreman.Text.Alphanumeric
import Foreman.Text.Blank

/-!
Variables from a text file with one assignment a line. Values may be quoted and may refer to other
variables. The first line that cannot be read ends the file; what was read before it counts.
-/

set_option autoImplicit false

namespace Foreman

abbrev Variables := List (String × String)

namespace Variables

def find? (name : String) : Variables → Option String
  | [] => none
  | (other, value) :: rest => if other = name then some value else find? name rest

def put (name value : String) : Variables → Variables
  | [] => [(name, value)]
  | (other, old) :: rest =>
      if other = name then (other, value) :: rest else (other, old) :: put name value rest

inductive LineState where
  | plain
  | blank
  | escape
  | strong
  | strongEscape
  | weak
  | weakEscape
  | comment
deriving DecidableEq, Repr

def opening (c : Char) : LineState :=
  match c with
  | '\\' => .escape
  | '"' => .weak
  | '\x27' => .strong
  | _ => .plain

def LineState.next (state : LineState) (c : Char) : LineState :=
  match state with
  | .plain =>
      if Text.isBlank c && c != '\n' && c != '\r' then .blank else opening c
  | .blank => if c = '#' then .comment else opening c
  | .escape => .plain
  | .strong => if c = '\\' then .strongEscape else if c = '\x27' then .plain else .strong
  | .strongEscape => .strong
  | .weak => if c = '\\' then .weakEscape else if c = '"' then .plain else .weak
  | .weakEscape => .weak
  | .comment => .comment

def dropLineEnd (line : List Char) : List Char :=
  match line with
  | '\n' :: '\r' :: rest => rest
  | '\n' :: rest => rest
  | _ => line

def skipLine : List Char → List Char
  | [] => []
  | c :: rest => if c = '\n' then rest else skipLine rest

theorem length_skipLine (text : List Char) : (skipLine text).length ≤ text.length := by
  induction text with
  | nil => simp [skipLine]
  | cons c rest ih =>
      simp only [skipLine, List.length_cons]
      split <;> omega

def takeBytes : Nat → List Char → List Char
  | _, [] => []
  | room, c :: rest =>
      if c.utf8Size ≤ room then c :: takeBytes (room - c.utf8Size) rest else []

def byteCount (text : List Char) : Nat :=
  text.foldl (fun total c => total + c.utf8Size) 0

-- What a comment leaves of a line, given in reverse what was read of it: as many bytes from the
-- start as there are before the comment since the last line break.
def beforeComment (seen : List Char) : List Char :=
  takeBytes (byteCount (seen.takeWhile (· != '\n'))) seen.reverse

def readLine : LineState → List Char → List Char → Option (List Char × List Char)
  | state, seen, [] =>
      if state = .plain ∧ !seen.isEmpty then some (seen.reverse, []) else none
  | state, seen, c :: rest =>
      match state.next c with
      | .comment => some (beforeComment seen, skipLine rest)
      | .plain =>
          if c = '\n' then some ((dropLineEnd ('\n' :: seen)).reverse, rest)
          else readLine .plain (c :: seen) rest
      | next => readLine next (c :: seen) rest

theorem length_readLine (state : LineState) (seen text line rest : List Char)
    (read : readLine state seen text = some (line, rest)) : rest.length ≤ text.length - 1 := by
  induction text generalizing state seen with
  | nil =>
      simp only [readLine, Option.ite_none_right_eq_some, Option.some.injEq, Prod.mk.injEq] at read
      obtain ⟨_, _, ended⟩ := read
      simp [← ended]
  | cons c tail ih =>
      simp only [readLine] at read
      have shorter : (skipLine tail).length ≤ tail.length := length_skipLine tail
      simp only [List.length_cons, Nat.add_sub_cancel]
      split at read
      · simp only [Option.some.injEq, Prod.mk.injEq] at read
        simp only [← read.2]
        omega
      · split at read
        · simp only [Option.some.injEq, Prod.mk.injEq] at read
          simp [← read.2]
        · have := ih _ _ read
          omega
      · have := ih _ _ read
        omega

theorem length_skipLine_dropBlanks (text : List Char)
    (comment : (Text.dropBlanks text).head? = some '#') :
    (skipLine (Text.dropBlanks text)).length < text.length := by
  have whole : (Text.dropBlanks text).length ≤ text.length :=
    (List.dropWhile_sublist Text.isBlank).length_le
  cases found : Text.dropBlanks text with
  | nil => simp [found] at comment
  | cons c rest =>
      simp only [found, List.head?_cons, Option.some.injEq] at comment
      have shorter := length_skipLine rest
      rw [found] at whole
      simp only [List.length_cons] at whole
      simp only [skipLine, comment]
      rw [if_neg (by decide)]
      omega

def readLines (text : List Char) : List (List Char) :=
  if text = [] then []
  else if (Text.dropBlanks text).head? = some '#' then
    readLines (skipLine (Text.dropBlanks text))
  else
    match _read : readLine .plain [] text with
    | none => []
    | some (line, rest) => line :: readLines rest
termination_by text.length
decreasing_by
  · exact length_skipLine_dropBlanks text (by assumption)
  · have shorter := length_readLine _ _ _ _ _ _read
    have := List.length_pos_iff.mpr (by assumption : ¬ text = [])
    omega

def isKeyStart (c : Char) : Bool := c.isAlpha || c == '_'

def isKeyRest (c : Char) : Bool := c.isAlphanum || c == '_' || c == '.'

def readKey (line : List Char) : Option (List Char × List Char) :=
  match line with
  | [] => none
  | c :: _ =>
      if isKeyStart c then
        some (line.takeWhile isKeyRest, Text.dropBlanks (line.dropWhile isKeyRest))
      else none

def afterEqual : List Char → Option (List Char)
  | '=' :: rest => some (Text.dropBlanks rest)
  | _ => none

def readAssignment (line : List Char) : Option (List Char × List Char) := do
  let (key, rest) ← readKey line
  match afterEqual rest with
  | some value => return (key, value)
  | none =>
      if key = "export".toList then
        let (key, rest) ← readKey rest
        return (key, ← afterEqual rest)
      else none

-- A reference to a variable is a name after a dollar sign, or a text in braces after it.
inductive ValueState where
  | plain
  | escape
  | strong
  | name (read : List Char)
  | block (read : List Char)
  | ended
deriving DecidableEq, Repr

def escaped (c : Char) : Option Char :=
  match c with
  | '\\' => some '\\'
  | '\x27' => some '\x27'
  | '"' => some '"'
  | '$' => some '$'
  | ' ' => some ' '
  | 'n' => some '\n'
  | _ => none

def isGap (c : Char) : Bool := c == ' ' || c == '\t'

def substituted (look : String → String) (read : List Char) : List Char :=
  (look (String.ofList read.reverse)).toList.reverse

-- Reads a value; `weak` tells whether double quotes are open, and what was read is in reverse.
def readValue (look : String → String) :
    ValueState → Bool → List Char → List Char → Option (List Char)
  | .strong, _, _, [] => none
  | .block _, _, _, [] => none
  | .name read, weak, out, [] =>
      if weak then none else some (substituted look read ++ out).reverse
  | _, weak, out, [] => if weak then none else some out.reverse
  | .ended, weak, out, c :: rest =>
      if isGap c then readValue look .ended weak out rest
      else if c = '#' then some out.reverse
      else none
  | .escape, weak, out, c :: rest =>
      match escaped c with
      | some c => readValue look .plain weak (c :: out) rest
      | none => none
  | .strong, weak, out, c :: rest =>
      if c = '\x27' then readValue look .plain weak out rest
      else readValue look .strong weak (c :: out) rest
  | .name read, weak, out, c :: rest =>
      if Text.isAlphanumeric c then readValue look (.name (c :: read)) weak out rest
      else if c = '\x7b' ∧ read.isEmpty then readValue look (.block []) weak out rest
      else
        let out := substituted look read ++ out
        if c = '$' then readValue look (.name []) weak out rest
        else readValue look .plain weak (c :: out) rest
  | .block read, weak, out, c :: rest =>
      if c = '\x7d' then readValue look .plain weak (substituted look read ++ out) rest
      else readValue look (.block (c :: read)) weak out rest
  | .plain, weak, out, c :: rest =>
      if c = '$' then readValue look (.name []) weak out rest
      else if c = '\\' then readValue look .escape weak out rest
      else if weak then
        if c = '"' then readValue look .plain false out rest
        else readValue look .plain true (c :: out) rest
      else if c = '\x27' then readValue look .strong weak out rest
      else if c = '"' then readValue look .plain true out rest
      else if isGap c then readValue look .ended weak out rest
      else readValue look .plain weak (c :: out) rest

-- Variables that are set stay as they are, and go before those of the file in references.
def assign (known stored : Variables) (line : List Char) : Option (Variables × Variables) :=
  let line := Text.trimmed line
  if line.isEmpty || line.head? == some '#' then some (known, stored)
  else do
    let (key, text) ← readAssignment line
    let look (name : String) : String := ((find? name known).or (find? name stored)).getD ""
    let value ←
      if text.isEmpty || text.head? == some '#' then some []
      else readValue look .plain false [] text
    let key := String.ofList key
    let value := String.ofList value
    let known := if (find? key known).isSome then known else put key value known
    return (known, put key value stored)

def assignAll (known stored : Variables) : List (List Char) → Variables
  | [] => known
  | line :: rest =>
      match assign known stored line with
      | none => known
      | some (known, stored) => assignAll known stored rest

def withFile (known : Variables) (document : String) : Variables :=
  let text := document.toList
  let text := if text.head? = some '\ufeff' then text.drop 1 else text
  assignAll known [] (readLines text)

end Variables

end Foreman
