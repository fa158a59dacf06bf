set_option autoImplicit false

namespace Foreman

inductive Json where
  | null
  | bool (value : Bool)
  | int (value : Int)
  | float (value : Float)
  | text (value : String)
  | array (items : List Json)
  | object (members : List (String × Json))
deriving Inhabited

namespace Json

def put {α : Type} (name : String) (value : α) : List (String × α) → List (String × α)
  | [] => [(name, value)]
  | (other, old) :: rest =>
      if name = other then (name, value) :: rest
      else if name < other then (name, value) :: (other, old) :: rest
      else (other, old) :: put name value rest

def ofMembers (members : List (String × Json)) : Json :=
  .object (members.foldl (fun sorted member => put member.1 member.2 sorted) [])

def member? {α : Type} (name : String) : List (String × α) → Option α
  | [] => none
  | (other, value) :: rest => if other = name then some value else member? name rest

def ofOption {α : Type} (encode : α → Json) : Option α → Json
  | none => .null
  | some value => encode value

end Json

end Foreman
