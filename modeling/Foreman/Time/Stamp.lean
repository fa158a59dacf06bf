import Foreman.Number.Width
import Foreman.Text.Blank
import Foreman.Time.Timestamp

set_option autoImplicit false

namespace Foreman.Stamp

open Number (digits padded isDigit ofDigits)

def yearText (year : Int) : List Char :=
  if 0 ≤ year ∧ year ≤ 9999 then padded 4 year.toNat
  else (if year < 0 then '-' else '+') :: padded 4 year.natAbs

def dateText (date : Date) : List Char :=
  yearText date.year ++ ['-'] ++ padded 2 date.month ++ ['-'] ++ padded 2 date.day

def fractionText (nanos : Nat) : List Char :=
  if nanos = 0 then []
  else if nanos % 1000000 = 0 then '.' :: padded 3 (nanos / 1000000)
  else if nanos % 1000 = 0 then '.' :: padded 6 (nanos / 1000)
  else '.' :: padded 9 nanos

-- A leap second is the sixtieth of its minute.
def clockText (second : Nat) (leap : Bool) (nanos : Nat) : List Char :=
  padded 2 (second / 3600) ++ [':'] ++ padded 2 (second / 60 % 60) ++ [':'] ++
    padded 2 (second % 60 + leap.toNat) ++ fractionText nanos

def localText (stamp : Timestamp) : List Char :=
  dateText stamp.time.date ++ ['T'] ++
    clockText stamp.time.secondOfDay stamp.leap stamp.time.subNanos

def write (stamp : Timestamp) : String :=
  String.ofList (localText stamp ++ ['Z'])

def writeOffset (stamp : Timestamp) : String :=
  String.ofList (localText stamp ++ ['+', '0', '0', ':', '0', '0'])

def number (most : Nat) (text : List Char) : Option (Nat × List Char) :=
  let start := Text.dropBlanks text
  let taken := (start.take most).takeWhile isDigit
  if taken.isEmpty then none else some (ofDigits taken, start.drop taken.length)

def numberIn (low high : Nat) (text : List Char) : Option (Nat × List Char) := do
  let (value, rest) ← number 2 text
  if low ≤ value ∧ value ≤ high then some (value, rest) else none

def year (text : List Char) : Option (Int × List Char) := do
  match Text.dropBlanks text with
  | '-' :: rest =>
      if !(rest.take 1).all isDigit then none
      else
        let (value, rest) ← number rest.length rest
        some (-(value : Int), rest)
  | '+' :: rest =>
      if !(rest.take 1).all isDigit then none
      else
        let (value, rest) ← number rest.length rest
        some (value, rest)
  | other =>
      let (value, rest) ← number 4 other
      some (value, rest)

def mark (expected : Char) (text : List Char) : Option (List Char) :=
  match Text.dropBlanks text with
  | c :: rest => if c = expected then some rest else none
  | [] => none

def daySeparator (text : List Char) : Option (List Char) :=
  match text with
  | 'T' :: rest => some rest
  | 't' :: rest => some rest
  | ' ' :: rest => some rest
  | _ => none

def fraction (text : List Char) : Option (Nat × List Char) :=
  match text with
  | '.' :: rest =>
      let all := rest.takeWhile isDigit
      let kept := all.take 9
      if all.isEmpty then none
      else some (ofDigits kept * Number.powerOfTen (9 - kept.length), rest.dropWhile isDigit)
  | other => some (0, other)

def twoDigits (text : List Char) : Option (Nat × List Char) :=
  match text with
  | a :: b :: rest => if isDigit a && isDigit b then some (ofDigits [a, b], rest) else none
  | _ => none

def offsetSign (text : List Char) : Option (Int × List Char) :=
  match text with
  | '+' :: rest => some (1, rest)
  | '-' :: rest => some (-1, rest)
  | '−' :: rest => some (-1, rest)
  | _ => none

def offset (text : List Char) : Option (Int × List Char) :=
  match text with
  | 'Z' :: rest => some (0, rest)
  | 'z' :: rest => some (0, rest)
  | other =>
      if (other.take 3).map Char.toUpper = ['U', 'T', 'C'] then some (0, other.drop 3)
      else do
        let (sign, rest) ← offsetSign other
        let (hours, rest) ← twoDigits rest
        let (minutes, rest) ← twoDigits (rest.dropWhile fun c => c == ':' || Text.isBlank c)
        if hours < 24 ∧ minutes < 60 then some (sign * (hours * 3600 + minutes * 60 : Nat), rest)
        else none

-- Both the time that is written and the one in universal time have to be on the calendar.
def read (text : String) : Option Timestamp := do
  let (year, rest) ← year text.toList
  let rest ← mark '-' rest
  let (month, rest) ← numberIn 1 12 rest
  let rest ← mark '-' rest
  let (day, rest) ← numberIn 1 31 rest
  let rest ← daySeparator rest
  let (hour, rest) ← numberIn 0 23 rest
  let rest ← mark ':' rest
  let (minute, rest) ← numberIn 0 59 rest
  let rest ← mark ':' rest
  let (second, rest) ← numberIn 0 60 rest
  let (nanos, rest) ← fraction rest
  let (ahead, rest) ← offset (Text.dropBlanks rest)
  let date : Date := ⟨year, month, day⟩
  if Text.dropBlanks rest ≠ [] ∨ !date.isValid then none
  else
    let clock : Nat := hour * 3600 + minute * 60 + min second 59
    let written := date.toDayNumber * 86400 + clock
    let _ ← Instant.ofUnix? written nanos
    let time ← Instant.ofUnix? (written - ahead) nanos
    if second = 60 then Timestamp.ofLeap? time else some (Timestamp.ofInstant time)

end Foreman.Stamp
