import Foreman.Toml.Scalar

set_option autoImplicit false

namespace Foreman.Toml

def comment (text : Text) : Option Text :=
  match text with
  | '#' :: rest =>
      let content := rest.takeWhile fun c => c != '\n' && c != '\r'
      if content.all isPlain then some (rest.drop content.length) else none
  | _ => none

def skipGaps : Nat → Text → Text
  | 0, text => text
  | fuel + 1, text =>
      let text := skipSpace text
      match (newline text).or (comment text) with
      | some rest => skipGaps fuel rest
      | none => text

def skipGap (text : Text) : Text := skipGaps (text.length + 1) text

def key : Nat → Text → Option (List String × Text)
  | 0, _ => none
  | fuel + 1, text => do
      let (first, rest) ← name (skipSpace text)
      match skipSpace rest with
      | '.' :: more => do
          let (others, rest) ← key fuel more
          some (first :: others, rest)
      | rest => some ([first], rest)

-- Keys have less than 80 names, and arrays and inline tables nest less than 80 deep.
def deepest : Nat := 80

def readKey (text : Text) : Option (List String × Text) := do
  let (names, rest) ← key (text.length + 1) text
  if names.length < deepest then some (names, rest) else none

def assignKey (names : List String) (value : Value) (members : Members) : Option Members :=
  match names.getLast? with
  | some last => assign names.dropLast last value members
  | none => none

mutual

def value : Nat → Nat → Text → Option (Value × Text)
  | 0, _, _ => none
  | fuel + 1, depth, text =>
      match text with
      | '"' :: _ => (string text).map fun (content, rest) => (Value.text content, rest)
      | '\x27' :: _ => (string text).map fun (content, rest) => (Value.text content, rest)
      | '[' :: rest => if depth + 1 < deepest then items fuel (depth + 1) [] rest else none
      | '\x7b' :: rest =>
          if depth + 1 < deepest then
            match skipSpace rest with
            | '\x7d' :: rest => some (.table .inline [], rest)
            | rest => pairs fuel (depth + 1) [] rest
          else none
      | 't' :: _ => (literal ['t', 'r', 'u', 'e'] text).map fun rest => (.bool true, rest)
      | 'f' :: _ => (literal ['f', 'a', 'l', 's', 'e'] text).map fun rest => (.bool false, rest)
      | text => number text

def items : Nat → Nat → List Value → Text → Option (Value × Text)
  | 0, _, _, _ => none
  | fuel + 1, depth, done, text =>
      match skipGap text with
      | ']' :: rest => some (.array done.reverse, rest)
      | text => do
          let (item, rest) ← value fuel depth text
          match skipGap rest with
          | ',' :: rest => items fuel depth (item :: done) rest
          | ']' :: rest => some (.array (item :: done).reverse, rest)
          | _ => none

def pairs : Nat → Nat → Members → Text → Option (Value × Text)
  | 0, _, _, _ => none
  | fuel + 1, depth, done, text => do
      let (names, rest) ← readKey text
      match rest with
      | '=' :: rest => do
          let (content, rest) ← value fuel depth (skipSpace rest)
          let done ← assignKey names content done
          match skipSpace rest with
          | ',' :: rest => pairs fuel depth done rest
          | '\x7d' :: rest => some (.table .inline done, rest)
          | _ => none
      | _ => none

end

def readValue (text : Text) : Option (Value × Text) := value (2 * text.length + 2) 0 text

def lineEnd (text : Text) : Option Text :=
  let text := skipSpace text
  match (comment text).getD text with
  | [] => some []
  | rest => newline rest

structure Draft where
  members : Members
  current : List String

def addKey (draft : Draft) (text : Text) : Option (Draft × Text) := do
  let (names, rest) ← readKey text
  match rest with
  | '=' :: rest => do
      let (content, rest) ← readValue (skipSpace rest)
      let members ← within (assignKey names content) draft.current draft.members
      some ({ draft with members := members }, rest)
  | _ => none

def addTable (open_ : String → Members → Option Members) (draft : Draft) (names : List String) :
    Option Draft := do
  let last ← names.getLast?
  let members ← within (open_ last) names.dropLast draft.members
  some ⟨members, names⟩

def addHeader (draft : Draft) (text : Text) : Option (Draft × Text) :=
  match text with
  | '[' :: rest => do
      let (names, rest) ← readKey rest
      let rest ← literal [']', ']'] rest
      let draft ← addTable extend draft names
      some (draft, rest)
  | text => do
      let (names, rest) ← readKey text
      let rest ← literal [']'] rest
      let draft ← addTable define draft names
      some (draft, rest)

def addLine (draft : Draft) (text : Text) : Option (Draft × Text) :=
  match skipSpace text with
  | '[' :: rest => addHeader draft rest
  | [] => some (draft, [])
  | '#' :: rest => some (draft, '#' :: rest)
  | '\n' :: rest => some (draft, '\n' :: rest)
  | '\r' :: rest => some (draft, '\r' :: rest)
  | other => addKey draft other

def addLines : Nat → Draft → Text → Option Members
  | _, draft, [] => some draft.members
  | 0, _, _ => none
  | fuel + 1, draft, text => do
      let (draft, rest) ← addLine draft text
      let rest ← lineEnd rest
      addLines fuel draft rest

def read (document : String) : Option Members :=
  let text := match document.toList with
    | '\ufeff' :: rest => rest
    | text => text
  addLines (text.length + 1) ⟨[], []⟩ text

end Foreman.Toml
