import Foreman.Json.Decode
import Foreman.Number.Width

set_option autoImplicit false

namespace Foreman

structure TaskId where
  digits : List (Fin 16)
  size : digits.length = 32
deriving DecidableEq

namespace TaskId

instance : Inhabited TaskId := ⟨⟨List.replicate 32 0, by simp⟩⟩

def digitOf (c : Char) : Option (Fin 16) :=
  if '0' ≤ c ∧ c ≤ '9' then some (Fin.ofNat 16 (c.toNat - '0'.toNat))
  else if 'a' ≤ c ∧ c ≤ 'f' then some (Fin.ofNat 16 (c.toNat - 'a'.toNat + 10))
  else if 'A' ≤ c ∧ c ≤ 'F' then some (Fin.ofNat 16 (c.toNat - 'A'.toNat + 10))
  else none

def ofDigits (text : List Char) : Option TaskId := do
  let digits ← text.mapM digitOf
  if size : digits.length = 32 then some ⟨digits, size⟩ else none

def ofGroups (text : List Char) : Option TaskId :=
  let hyphens := [text[8]?, text[13]?, text[18]?, text[23]?]
  if hyphens = List.replicate 4 (some '-') then
    ofDigits (text.take 8 ++ (text.drop 9).take 4 ++ (text.drop 14).take 4 ++
      (text.drop 19).take 4 ++ text.drop 24)
  else none

def urnStart : List Char := "urn:uuid:".toList

def ofChars (text : List Char) : Option TaskId :=
  if text.length = 32 then ofDigits text
  else if text.length = 36 then ofGroups text
  else if text.length = 38 ∧ text.head? = some '\x7b' ∧ text.getLast? = some '\x7d' then
    ofGroups ((text.drop 1).take 36)
  else if text.length = 45 ∧ (text.take 9).map Char.toLower = urnStart then ofGroups (text.drop 9)
  else none

def parse (text : String) : Option TaskId :=
  ofChars text.toList

def chars (id : TaskId) : List Char :=
  let all := id.digits.map fun digit => Text.hexDigit digit.val
  all.take 8 ++ ['-'] ++ (all.drop 8).take 4 ++ ['-'] ++ (all.drop 12).take 4 ++ ['-'] ++
    (all.drop 16).take 4 ++ ['-'] ++ all.drop 20

def text (id : TaskId) : String :=
  String.ofList id.chars

def version (id : TaskId) : Nat :=
  (id.digits[12]?.getD 0).val

def ofNumber (number : Nat) : TaskId :=
  let digit (place : Nat) : Fin 16 := Fin.ofNat 16 (number / Number.twoTo (4 * (31 - place)))
  let plain := (List.range 32).map digit
  ⟨(plain.set 12 4).set 16 8, by simp [plain]⟩

def before (a b : TaskId) : Bool :=
  decide (a.digits < b.digits)

def toJson (id : TaskId) : Json :=
  .text id.text

def expectation : String := "a formatted UUID string"

def ofJson : Json → Decoded TaskId
  | .text value =>
      match parse value with
      | some id => .ok id
      | none => .error (.unreadable expectation)
  | other => other.unexpected expectation

end TaskId

end Foreman
