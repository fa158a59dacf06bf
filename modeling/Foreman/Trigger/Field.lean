import Foreman.Number.Digits
import Foreman.Number.Width

set_option autoImplicit false

namespace Foreman.Cron

structure Field where
  low : Nat
  high : Nat
  names : List (String × Nat)
  anyMark : Bool

namespace Field

def second : Field := ⟨0, 59, [], false⟩
def minute : Field := ⟨0, 59, [], false⟩
def hour : Field := ⟨0, 23, [], false⟩
def day : Field := ⟨1, 31, [], true⟩
def year : Field := ⟨1970, 2100, [], false⟩

def month : Field where
  low := 1
  high := 12
  names :=
    [("jan", 1), ("january", 1), ("feb", 2), ("february", 2), ("mar", 3), ("march", 3), ("apr", 4),
     ("april", 4), ("may", 5), ("jun", 6), ("june", 6), ("jul", 7), ("july", 7), ("aug", 8),
     ("august", 8), ("sep", 9), ("september", 9), ("oct", 10), ("october", 10), ("nov", 11),
     ("november", 11), ("dec", 12), ("december", 12)]
  anyMark := false

def weekday : Field where
  low := 1
  high := 7
  names :=
    [("sun", 1), ("sunday", 1), ("mon", 2), ("monday", 2), ("tue", 3), ("tues", 3), ("tuesday", 3),
     ("wed", 4), ("wednesday", 4), ("thu", 5), ("thurs", 5), ("thursday", 5), ("fri", 6),
     ("friday", 6), ("sat", 7), ("saturday", 7)]
  anyMark := true

def all (field : Field) : List Nat :=
  (List.range (field.high + 1 - field.low)).map (· + field.low)

def named (field : Field) (name : List Char) : Option Nat :=
  let lower := String.ofList (name.map Char.toLower)
  (field.names.find? fun entry => entry.1 == lower).map Prod.snd

end Field

inductive Base where
  | all
  | number (value : Nat)
  | numbers (first last : Nat)
  | names (first last : List Char)
deriving DecidableEq, Repr

inductive Item where
  | base (base : Base)
  | stepped (base : Base) (step : Nat)
  | name (name : List Char)
deriving DecidableEq, Repr

def isGap (c : Char) : Bool :=
  c == ' ' || c == '\t' || c == '\r' || c == '\n'

def skipGap (text : List Char) : List Char :=
  text.dropWhile isGap

def readMark (mark : Char) (text : List Char) : Option (List Char) :=
  match text with
  | c :: rest => if c = mark then some rest else none
  | [] => none

-- Gaps around a number or a name belong to it; those around a mark do not.
def readNumber (text : List Char) : Option (Nat × List Char) :=
  let start := skipGap text
  let digits := start.takeWhile Number.isDigit
  let value := Number.ofDigits digits
  if digits.isEmpty ∨ Number.bound32 ≤ value then none
  else some (value, skipGap (start.dropWhile Number.isDigit))

def isLetter (c : Char) : Bool :=
  c.isAlpha

def readName (text : List Char) : Option (List Char × List Char) :=
  let start := skipGap text
  let letters := start.takeWhile isLetter
  if letters.isEmpty then none else some (letters, skipGap (start.dropWhile isLetter))

def readNumbers (text : List Char) : Option (Base × List Char) := do
  let (first, rest) ← readNumber text
  let rest ← readMark '-' rest
  let (last, rest) ← readNumber rest
  some (.numbers first last, rest)

def readNames (text : List Char) : Option (Base × List Char) := do
  let (first, rest) ← readName text
  let rest ← readMark '-' rest
  let (last, rest) ← readName rest
  some (.names first last, rest)

def readBase (anyMark : Bool) (text : List Char) : Option (Base × List Char) :=
  let any := if anyMark then (readMark '?' text).map fun rest => (Base.all, rest) else none
  any <|> (readMark '*' text).map (fun rest => (Base.all, rest)) <|> readNumbers text <|>
    (readNumber text).map (fun (value, rest) => (Base.number value, rest)) <|> readNames text

def readItem (anyMark : Bool) (text : List Char) : Option (Item × List Char) :=
  let stepped : Option (Item × List Char) := do
    let (base, rest) ← readBase anyMark text
    let rest ← readMark '/' rest
    let (step, rest) ← readNumber rest
    some (.stepped base step, rest)
  stepped <|> (readBase anyMark text).map (fun (base, rest) => (Item.base base, rest)) <|>
    (readName text).map fun (name, rest) => (Item.name name, rest)

def readItems (anyMark : Bool) : Nat → List Char → Option (List Item × List Char)
  | 0, _ => none
  | fuel + 1, text => do
      let (item, rest) ← readItem anyMark text
      match readMark ',' rest with
      | none => some ([item], rest)
      | some more =>
          match readItems anyMark fuel more with
          | none => some ([item], rest)
          | some (items, rest) => some (item :: items, rest)

def Field.between (field : Field) (first last : Nat) : Option (List Nat) :=
  if field.low ≤ first ∧ first ≤ last ∧ last ≤ field.high then
    some ((List.range (last + 1 - first)).map (· + first))
  else none

def Base.values (field : Field) : Base → Option (List Nat)
  | .all => some field.all
  | .number value => field.between value value
  | .numbers first last => field.between first last
  | .names first last => do
      let first ← field.named first
      let last ← field.named last
      field.between first last

def Base.onward (field : Field) : Base → Option (List Nat)
  | .number value => field.between value field.high
  | other => other.values field

def everyNth (step : Nat) (values : List Nat) : List Nat :=
  values.filter fun value => (value - values.headD 0) % step == 0

def Item.values (field : Field) : Item → Option (List Nat)
  | .base whole => whole.values field
  | .stepped start step =>
      if step = 0 ∨ field.high < step then none else (start.onward field).map (everyNth step)
  | .name word => (field.named word).map fun value => [value]

def column (field : Field) (items : List Item) : Option (List Nat) :=
  (items.mapM (Item.values field)).map fun lists =>
    field.all.filter fun value => lists.any fun values => values.contains value

def readColumn (field : Field) (text : List Char) : Option (List Nat × List Char) := do
  let (items, rest) ← readItems field.anyMark (text.length + 1) (skipGap text)
  let values ← column field items
  some (values, skipGap rest)

end Foreman.Cron
