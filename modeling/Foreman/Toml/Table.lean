set_option autoImplicit false

namespace Foreman.Toml

-- How a table came to be. An implied one is only named by the header of a table inside it.
inductive Shape where
  | inline
  | header
  | implied
  | dotted
deriving DecidableEq, Repr

inductive Value where
  | int (value : Int)
  | float (value : Float)
  | bool (value : Bool)
  | text (value : String)
  | date
  | array (items : List Value)
  | table (shape : Shape) (members : List (String × Value))
  | tables (items : List (List (String × Value)))
deriving Inhabited

abbrev Members := List (String × Value)

def find? (name : String) (members : Members) : Option Value :=
  (members.find? fun member => member.1 == name).map Prod.snd

def replace (name : String) (value : Value) (members : Members) : Members :=
  members.map fun member => if member.1 = name then (name, value) else member

def isExtensible : Shape → Bool
  | .implied => true
  | .dotted => true
  | _ => false

def assign : List String → String → Value → Members → Option Members
  | [], key, value, members =>
      match find? key members with
      | some _ => none
      | none => some (members ++ [(key, value)])
  | name :: path, key, value, members =>
      match find? name members with
      | none => do
          let inner ← assign path key value []
          some (members ++ [(name, .table .dotted inner)])
      | some (.table shape inner) =>
          if !isExtensible shape || (path.isEmpty && shape != .dotted) then none
          else do
            let inner ← assign path key value inner
            some (replace name (.table shape inner) members)
      | some (.tables items) =>
          match items.getLast? with
          | some inner =>
              if path.isEmpty then none
              else do
                let inner ← assign path key value inner
                some (replace name (.tables (items.dropLast ++ [inner])) members)
          | none => none
      | some _ => none

def within (change : Members → Option Members) : List String → Members → Option Members
  | [], members => change members
  | name :: path, members =>
      match find? name members with
      | none => do
          let inner ← within change path []
          some (members ++ [(name, .table .implied inner)])
      | some (.table shape inner) =>
          if shape = .inline then none
          else do
            let inner ← within change path inner
            some (replace name (.table shape inner) members)
      | some (.tables items) =>
          match items.getLast? with
          | some inner => do
              let inner ← within change path inner
              some (replace name (.tables (items.dropLast ++ [inner])) members)
          | none => none
      | some _ => none

def define (name : String) (members : Members) : Option Members :=
  match find? name members with
  | none => some (members ++ [(name, .table .header [])])
  | some (.table .implied inner) => some (replace name (.table .header inner) members)
  | some _ => none

def extend (name : String) (members : Members) : Option Members :=
  match find? name members with
  | none => some (members ++ [(name, .tables [[]])])
  | some (.tables items) => some (replace name (.tables (items ++ [[]])) members)
  | some _ => none

end Foreman.Toml
