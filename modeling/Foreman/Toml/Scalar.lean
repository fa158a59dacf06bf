import Foreman.Number.Digits
import Foreman.Number.Width
import Foreman.Time.Calendar
import Foreman.Toml.Table

set_option autoImplicit false

namespace Foreman.Toml

open Number (isDigit ofDigits)

abbrev Text := List Char

def isSpace (c : Char) : Bool := c == ' ' || c == '\t'

def skipSpace (text : Text) : Text := text.dropWhile isSpace

def literal (expected : List Char) (text : Text) : Option Text :=
  if expected.isPrefixOf text then some (text.drop expected.length) else none

def newline (text : Text) : Option Text :=
  match text with
  | '\n' :: rest => some rest
  | '\r' :: '\n' :: rest => some rest
  | _ => none

def isPlain (c : Char) : Bool :=
  c == '\t' || (decide (0x20 ≤ c.toNat) && c.toNat != 0x7f)

def hexOf (c : Char) : Option Nat :=
  if isDigit c then some (c.toNat - '0'.toNat)
  else if 'a' ≤ c ∧ c ≤ 'f' then some (c.toNat - 'a'.toNat + 10)
  else if 'A' ≤ c ∧ c ≤ 'F' then some (c.toNat - 'A'.toNat + 10)
  else none

def codePoint (width : Nat) (text : Text) : Option (Char × Text) := do
  let digits := text.take width
  if digits.length ≠ width then none
  else
    let values ← digits.mapM hexOf
    let code := values.foldl (fun code digit => code * 16 + digit) 0
    if code < 0xd800 ∨ (0xdfff < code ∧ code < 0x110000) then
      some (Char.ofNat code, text.drop width)
    else none

def escape (text : Text) : Option (Char × Text) :=
  match text with
  | 'b' :: rest => some ('\x08', rest)
  | 't' :: rest => some ('\t', rest)
  | 'n' :: rest => some ('\n', rest)
  | 'f' :: rest => some ('\x0c', rest)
  | 'r' :: rest => some ('\r', rest)
  | '"' :: rest => some ('"', rest)
  | '\\' :: rest => some ('\\', rest)
  | 'u' :: rest => codePoint 4 rest
  | 'U' :: rest => codePoint 8 rest
  | _ => none

def continuation (text : Text) : Option Text :=
  (newline (skipSpace text)).map fun rest =>
    rest.dropWhile fun c => isSpace c || c == '\n' || c == '\r'

def basicChars : Nat → Text → Text → Option (String × Text)
  | 0, _, _ => none
  | fuel + 1, done, text =>
      match text with
      | [] => none
      | '"' :: rest => some (String.ofList done.reverse, rest)
      | '\\' :: rest => do
          let (c, rest) ← escape rest
          basicChars fuel (c :: done) rest
      | c :: rest => if isPlain c then basicChars fuel (c :: done) rest else none

def literalChars (text : Text) : Option (String × Text) :=
  let content := text.takeWhile (· != '\x27')
  match text.dropWhile (· != '\x27') with
  | _ :: rest => if content.all isPlain then some (String.ofList content, rest) else none
  | [] => none

-- The quotes at the head of a text: three of them end a string, up to two more belong to it.
def closing (quote : Char) (text : Text) : Option (Text × Text) :=
  let quotes := text.takeWhile (· == quote)
  if quotes.length < 3 then none
  else
    let extra := min (quotes.length - 3) 2
    some (List.replicate extra quote, text.drop (extra + 3))

def longChars (quote : Char) (escapes : Bool) : Nat → Text → Text → Option (String × Text)
  | 0, _, _ => none
  | fuel + 1, done, text =>
      match closing quote text with
      | some (extra, rest) => some (String.ofList (done.reverse ++ extra), rest)
      | none =>
          match newline text with
          | some rest => longChars quote escapes fuel ('\n' :: done) rest
          | none =>
              match text with
              | [] => none
              | c :: rest =>
                  if c = '\\' ∧ escapes then
                    match continuation rest with
                    | some rest => longChars quote escapes fuel done rest
                    | none => do
                        let (c, rest) ← escape rest
                        longChars quote escapes fuel (c :: done) rest
                  else if isPlain c then longChars quote escapes fuel (c :: done) rest
                  else none

def longString (quote : Char) (escapes : Bool) (text : Text) : Option (String × Text) :=
  longChars quote escapes (text.length + 1) [] ((newline text).getD text)

def string (text : Text) : Option (String × Text) :=
  match text with
  | '"' :: '"' :: '"' :: rest => longString '"' true rest
  | '\x27' :: '\x27' :: '\x27' :: rest => longString '\x27' false rest
  | '"' :: rest => basicChars (rest.length + 1) [] rest
  | '\x27' :: rest => literalChars rest
  | _ => none

def isBare (c : Char) : Bool :=
  c.isAlpha || isDigit c || c == '_' || c == '-'

def name (text : Text) : Option (String × Text) :=
  match text with
  | '"' :: rest => basicChars (rest.length + 1) [] rest
  | '\x27' :: rest => literalChars rest
  | text =>
      let bare := text.takeWhile isBare
      if bare.isEmpty then none else some (String.ofList bare, text.drop bare.length)

def grouped (isMember : Char → Bool) (text : Text) : Option (Text × Text) :=
  let taken := text.takeWhile fun c => isMember c || c == '_'
  let pairs := taken.zip (taken.drop 1)
  let sound := taken.head? ≠ some '_' ∧ taken.getLast? ≠ some '_' ∧ ('_', '_') ∉ pairs
  if taken.isEmpty ∨ ¬ sound then none
  else some (taken.filter (· != '_'), text.drop taken.length)

def sign (text : Text) : Bool × Text :=
  match text with
  | '-' :: rest => (true, rest)
  | '+' :: rest => (false, rest)
  | other => (false, other)

def decimal (text : Text) : Option (Text × Text) := do
  let (digits, rest) ← grouped isDigit text
  if digits.head? = some '0' ∧ text.length - rest.length ≠ 1 then none else some (digits, rest)

def inRange (value : Int) : Option Value :=
  if Number.isSigned64 value then some (.int value) else none

def radix (base : Nat) (text : Text) : Option (Value × Text) := do
  let isMember (c : Char) : Bool := (hexOf c).any fun digit => digit < base
  let (digits, rest) ← grouped isMember text
  let value := digits.foldl (fun value c => value * base + (hexOf c).getD 0) 0
  let value ← inRange value
  some (value, rest)

def integer (text : Text) : Option (Value × Text) :=
  match text with
  | '0' :: 'x' :: rest => radix 16 rest
  | '0' :: 'o' :: rest => radix 8 rest
  | '0' :: 'b' :: rest => radix 2 rest
  | text => do
      let (negative, rest) := sign text
      let (digits, rest) ← decimal rest
      let size : Int := ofDigits digits
      let value ← inRange (if negative then -size else size)
      some (value, rest)

def special (text : Text) : Option Text :=
  (literal ['i', 'n', 'f'] text).or (literal ['n', 'a', 'n'] text)

def fractionDigits (text : Text) : Option (Text × Text) :=
  match text with
  | '.' :: rest => grouped isDigit rest
  | _ => none

def exponent (text : Text) : Option (Int × Text) :=
  match text with
  | c :: rest =>
      if c = 'e' ∨ c = 'E' then do
        let (negative, rest) := sign rest
        let (digits, rest) ← grouped isDigit rest
        let size : Int := min (ofDigits digits) 100000
        some (if negative then -size else size, rest)
      else none
  | [] => none

def scaled (digits : Text) (power : Int) : Float :=
  if power < 0 then Float.ofScientific (ofDigits digits) true power.natAbs
  else Float.ofScientific (ofDigits digits) false power.natAbs

-- A number with a fraction or an exponent. One above all others is refused; one below all others is
-- taken for minus infinity.
def float (text : Text) : Option (Value × Text) := do
  let (negative, rest) := sign text
  match special rest with
  | some rest => some (.float 0, rest)
  | none =>
      let (whole, rest) ← decimal rest
      let fraction := fractionDigits rest
      let (digits, places, rest) := match fraction with
        | some (digits, rest) => (whole ++ digits, digits.length, rest)
        | none => (whole, 0, rest)
      let power := exponent rest
      if fraction.isNone ∧ power.isNone then none
      else
        let (power, rest) := power.getD (0, rest)
        let value := scaled digits (power - places)
        if negative then some (.float (-value), rest)
        else if value.isInf then none
        else some (.float value, rest)

def digitsOf (width : Nat) (text : Text) : Option (Nat × Text) :=
  let digits := text.take width
  if digits.length = width ∧ digits.all isDigit then some (ofDigits digits, text.drop width)
  else none

def date (text : Text) : Option Text := do
  let (year, rest) ← digitsOf 4 text
  let rest ← literal ['-'] rest
  let (month, rest) ← digitsOf 2 rest
  let rest ← literal ['-'] rest
  let (day, rest) ← digitsOf 2 rest
  if (Date.mk year month day).isValid then some rest else none

def clock (text : Text) : Option Text := do
  let (hour, rest) ← digitsOf 2 text
  let rest ← literal [':'] rest
  let (minute, rest) ← digitsOf 2 rest
  let rest ← literal [':'] rest
  let (second, rest) ← digitsOf 2 rest
  if 23 < hour ∨ 59 < minute ∨ 60 < second then none
  else
    match rest with
    | '.' :: more =>
        if (more.takeWhile isDigit).isEmpty then some rest else some (more.dropWhile isDigit)
    | rest => some rest

def offset (text : Text) : Option Text :=
  match text with
  | 'Z' :: rest => some rest
  | 'z' :: rest => some rest
  | c :: rest =>
      if c = '+' ∨ c = '-' then do
        let (hour, rest) ← digitsOf 2 rest
        let rest ← literal [':'] rest
        let (minute, rest) ← digitsOf 2 rest
        if 23 < hour ∨ 59 < minute then none else some rest
      else none
  | [] => none

def dayTime (text : Text) : Option Text :=
  match text with
  | c :: rest => if c = 'T' ∨ c = 't' ∨ c = ' ' then clock rest else none
  | [] => none

def dateTime (text : Text) : Option (Value × Text) :=
  match date text with
  | some rest =>
      match dayTime rest with
      | some rest => some (.date, (offset rest).getD rest)
      | none => some (.date, rest)
  | none => (clock text).map fun rest => (.date, rest)

def number (text : Text) : Option (Value × Text) :=
  (dateTime text).or ((float text).or (integer text))

end Foreman.Toml
