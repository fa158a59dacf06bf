import Foreman.Json.Basic

set_option autoImplicit false

namespace Foreman.Json.Access

def member (input : Json) (name : String) : Json :=
  match input with
  | .object members => (Json.member? name members).getD .null
  | _ => .null

def has (input : Json) (name : String) : Bool :=
  match input with
  | .object members => (Json.member? name members).isSome
  | _ => false

def asText : Json → String
  | .text value => value
  | _ => ""

def asInt : Json → Int
  | .int value => value
  | _ => 0

def asNat (value : Json) : Nat := (asInt value).toNat

def asBool : Json → Bool
  | .bool value => value
  | _ => false

def asList : Json → List Json
  | .array items => items
  | _ => []

def asMembers : Json → List (String × Json)
  | .object members => members
  | _ => []

def optional {α : Type} (decode : Json → α) : Json → Option α
  | .null => none
  | value => some (decode value)

def textAt (input : Json) (name : String) : String := asText (member input name)

def natAt (input : Json) (name : String) : Nat := asNat (member input name)

def boolAt (input : Json) (name : String) : Bool := asBool (member input name)

def listAt (input : Json) (name : String) : List Json := asList (member input name)

def membersAt (input : Json) (name : String) : List (String × Json) :=
  asMembers (member input name)

end Foreman.Json.Access
