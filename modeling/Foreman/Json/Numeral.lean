import Foreman.Json.Basic
import Foreman.Json.Fault
import Foreman.Number.Width

set_option autoImplicit false

namespace Foreman.Json

open Number (isDigit digitValue bound31 bound63 bound64)

-- Reads digits while the value stays below the bound; the rest starts with a digit only if the next
-- one would pass it.
def readDigits (bound : Nat) : Nat → List Char → Nat × List Char
  | value, [] => (value, [])
  | value, c :: rest =>
      if isDigit c && decide (value * 10 + digitValue c < bound) then
        readDigits bound (value * 10 + digitValue c) rest
      else (value, c :: rest)

def startsWithDigit : List Char → Bool
  | [] => false
  | c :: _ => isDigit c

def startsExponent : List Char → Bool
  | [] => false
  | c :: _ => c == 'e' || c == 'E'

def tenTo (power : Nat) : Float :=
  Float.ofScientific 1 false power

def scaleDown (x : Float) (power : Nat) : Float :=
  if power ≤ 308 then x / tenTo power
  else if x == 0 then x
  else scaleDown (x / tenTo 308) (power - 308)
termination_by power
decreasing_by omega

def scale (x : Float) (exponent : Int) : Option Float :=
  if exponent < 0 then some (scaleDown x exponent.natAbs)
  else if exponent.natAbs ≤ 308 then
    let scaled := x * tenTo exponent.natAbs
    if scaled.isInf then none else some scaled
  else if x == 0 then some x
  else none

def signed (negative : Bool) (x : Float) : Json :=
  .float (if negative then -x else x)

def fraction (negative : Bool) (significand : Nat) (exponent : Int) (rest : List Char) :
    Except Fault (Json × List Char) :=
  match scale significand.toUInt64.toFloat exponent with
  | some x => .ok (signed negative x, rest)
  | none => .error (.before .numberOutOfRange rest)

-- The exponent behind its mark and sign; one that is too long decides by its sign.
def readPower (negative : Bool) (significand : Nat) (start : Int) (down : Bool) (text : List Char) :
    Except Fault (Json × List Char) :=
  match text with
  | [] => .error (.before .missingValue [])
  | c :: _ =>
      if !isDigit c then .error (.upon .invalidNumber text)
      else
        let (exponent, rest) := readDigits bound31 0 text
        if startsWithDigit rest then
          if significand ≠ 0 ∧ !down then .error (.upon .numberOutOfRange rest)
          else .ok (signed negative 0, rest.dropWhile isDigit)
        else
          fraction negative significand (if down then start - exponent else start + exponent) rest

def readExponent (negative : Bool) (significand : Nat) (start : Int) (text : List Char) :
    Except Fault (Json × List Char) :=
  match text with
  | '+' :: rest => readPower negative significand start false rest
  | '-' :: rest => readPower negative significand start true rest
  | other => readPower negative significand start false other

def afterDigits (negative : Bool) (significand : Nat) (exponent : Int) (rest : List Char) :
    Except Fault (Json × List Char) :=
  if startsExponent rest then readExponent negative significand exponent (rest.drop 1)
  else fraction negative significand exponent rest

-- The digits behind the decimal point; those past 64 bits are dropped.
def readFraction (negative : Bool) (significand : Nat) (exponent : Int) (text : List Char) :
    Except Fault (Json × List Char) :=
  match text with
  | [] => .error (.before .missingValue [])
  | c :: _ =>
      if !isDigit c then .error (.upon .invalidNumber text)
      else
        let (value, rest) := readDigits bound64 significand text
        let read : Nat := text.length - rest.length
        afterDigits negative value (exponent - read) (rest.dropWhile isDigit)

def wholeNumber (negative : Bool) (value : Nat) : Json :=
  if !negative then .int value
  else if value = 0 ∨ bound63 < value then signed true value.toUInt64.toFloat
  else .int (-(value : Int))

def afterWhole (negative : Bool) (value : Nat) (rest : List Char) :
    Except Fault (Json × List Char) :=
  match rest with
  | '.' :: more => readFraction negative value 0 more
  | other =>
      if startsExponent other then readExponent negative value 0 (other.drop 1)
      else .ok (wholeNumber negative value, other)

-- A whole number past 64 bits: its further digits only raise the exponent.
def readLong (negative : Bool) (value : Nat) (text : List Char) : Except Fault (Json × List Char) :=
  let extra := (text.takeWhile isDigit).length
  match text.dropWhile isDigit with
  | '.' :: more => readFraction negative value extra more
  | other => afterDigits negative value extra other

def readNumber (negative : Bool) (text : List Char) : Except Fault (Json × List Char) :=
  match text with
  | [] => .error (.before .missingValue [])
  | '0' :: rest =>
      if startsWithDigit rest then .error (.upon .invalidNumber rest)
      else afterWhole negative 0 rest
  | c :: _ =>
      if !isDigit c then .error (.upon .invalidNumber text)
      else
        let (value, rest) := readDigits bound64 0 text
        if startsWithDigit rest then readLong negative value rest
        else afterWhole negative value rest

end Foreman.Json
