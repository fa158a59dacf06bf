import Foreman.Json.Writer
import Foreman.Number.Width

/-!
Decoding values of the domain from JSON values. Of several faults in an object the one under the
least name counts, and a missing member counts last; in an array the first one counts.
-/

set_option autoImplicit false

namespace Foreman

inductive DecodeError where
  | unknownVariant (name : String) (known : List String)
  | missingField (name : String)
  | invalidType (found expected : String)
  | invalidValue (found expected : String)
  | invalidLength (length : Nat) (expected : String)
  | unreadable (expected : String)
deriving DecidableEq, Inhabited

def listed (names : List String) : String :=
  match names with
  | [a, b] => "`" ++ a ++ "` or `" ++ b ++ "`"
  | names => "one of " ++ ", ".intercalate (names.map fun name => "`" ++ name ++ "`")

def DecodeError.message : DecodeError → String
  | .unknownVariant name known => "unknown variant `" ++ name ++ "`, expected " ++ listed known
  | .missingField name => "missing field `" ++ name ++ "`"
  | .invalidType found expected => "invalid type: " ++ found ++ ", expected " ++ expected
  | .invalidValue found expected => "invalid value: " ++ found ++ ", expected " ++ expected
  | .invalidLength length expected =>
      "invalid length " ++ Number.natText length ++ ", expected " ++ expected
  | .unreadable expected => "not " ++ expected

abbrev Decoded (α : Type) := Except DecodeError α

namespace Json

def described : Json → String
  | .null => "null"
  | .bool value => "boolean `" ++ (if value then "true" else "false") ++ "`"
  | .int value => "integer `" ++ Number.intText value ++ "`"
  | .float value => "floating point `" ++ Number.floatText value ++ "`"
  | .text value => "string " ++ Text.quoted value
  | .array _ => "sequence"
  | .object _ => "map"

def unexpected {α : Type} (value : Json) (expected : String) : Decoded α :=
  .error (.invalidType value.described expected)

def toText : Json → Decoded String
  | .text value => .ok value
  | other => other.unexpected "a string"

def toBool : Json → Decoded Bool
  | .bool value => .ok value
  | other => other.unexpected "a boolean"

def toWhole (low high : Int) (type : String) : Json → Decoded Int
  | .int value =>
      if low ≤ value ∧ value ≤ high then .ok value
      else .error (.invalidValue (Json.int value).described type)
  | other => other.unexpected type

def toNatural (bound : Nat) (type : String) (value : Json) : Decoded Nat :=
  (toWhole 0 ((bound : Int) - 1) type value).map Int.toNat

def toSize : Json → Decoded Nat := toNatural Number.bound64 "usize"

def toMillis : Json → Decoded Nat := toNatural Number.bound64 "u64"

def floatOfInt (value : Int) : Float :=
  match value with
  | .ofNat value => value.toUInt64.toFloat
  | .negSucc value => -(value + 1).toUInt64.toFloat

def toFloat : Json → Decoded Float
  | .int value => .ok (floatOfInt value)
  | .float value => .ok value
  | other => other.unexpected "f64"

def toNullable {α : Type} (decode : Json → Decoded α) : Json → Decoded (Option α)
  | .null => .ok none
  | other => (decode other).map some

def toList {α : Type} (decode : Json → Decoded α) : Json → Decoded (List α)
  | .array items => items.mapM decode
  | other => other.unexpected "a sequence"

def toMembers : Json → Decoded (List (String × Json))
  | .object members => .ok members
  | other => other.unexpected "a map"

def toChoice : Json → Decoded (String × Option Json)
  | .text name => .ok (name, none)
  | .object [(name, content)] => .ok (name, some content)
  | .object _ => .error (.invalidValue "map" "map with a single key")
  | other => other.unexpected "string or map"

def toName {α : Type} (names : List (String × α)) (value : Json) : Decoded α := do
  let (name, content) ← value.toChoice
  match names.find? fun entry => entry.1 == name with
  | none => .error (.unknownVariant name (names.map Prod.fst))
  | some entry =>
      match content with
      | none => .ok entry.2
      | some .null => .ok entry.2
      | some other => other.unexpected "unit"

def field {α : Type} (members : List (String × Json)) (name : String)
    (decode : Json → Decoded α) : Option (Decoded α) :=
  (member? name members).map decode

def required {α : Type} (name : String) : Option (Decoded α) → Decoded α
  | some decoded => decoded
  | none => .error (.missingField name)

def defaulted {α : Type} (value : α) : Option (Decoded α) → Decoded α
  | some decoded => decoded
  | none => .ok value

def checked {α : Type} : Option (Decoded α) → Decoded Unit
  | some (.error error) => .error error
  | _ => .ok ()

def element {α : Type} (items : List Json) (index : Nat) (expected : String)
    (decode : Json → Decoded α) : Decoded α :=
  match items[index]? with
  | some item => decode item
  | none => .error (.invalidLength index expected)

def elementOr {α : Type} (items : List Json) (index : Nat) (value : α)
    (decode : Json → Decoded α) : Decoded α :=
  match items[index]? with
  | some item => decode item
  | none => .ok value

def atMost (items : List Json) (count : Nat) : Decoded Unit :=
  if items.length ≤ count then .ok ()
  else .error (.invalidLength items.length "fewer elements in array")

end Json

end Foreman
