set_option autoImplicit false

namespace Foreman.Text

inductive Steering where
  | plain
  | escape
  | escapeMore
  | sequence
  | string (bell : Bool)
deriving DecidableEq, Repr

def Steering.afterEscape (code : Nat) : Steering :=
  if code = '['.toNat then .sequence
  else if code = ']'.toNat then .string true
  else if code = 'P'.toNat ∨ code = 'X'.toNat ∨ code = '^'.toNat ∨ code = '_'.toNat then
    .string false
  else if 0x20 ≤ code ∧ code ≤ 0x2f then .escapeMore
  else if 0x30 ≤ code ∧ code ≤ 0x7e then .plain
  else .escape

def Steering.next (state : Steering) (c : Char) : Steering :=
  let code := c.toNat
  if code = 0x1b then .escape
  else if code = 0x18 ∨ code = 0x1a then .plain
  else
    match state with
    | .plain => .plain
    | .escape => .afterEscape code
    | .escapeMore => if 0x30 ≤ code ∧ code ≤ 0x7e then .plain else .escapeMore
    | .sequence => if 0x40 ≤ code ∧ code ≤ 0x7e then .plain else .sequence
    | .string bell => if bell ∧ code = 0x07 then .plain else .string bell

def isBreak (c : Char) : Bool :=
  c == '\t' || c == '\n' || c == '\x0c' || c == '\r'

def Steering.keeps (state : Steering) (c : Char) : Bool :=
  match state with
  | .plain => isBreak c || (0x20 ≤ c.toNat && c.toNat != 0x7f)
  | .string _ => false
  | _ => isBreak c

def plainFrom : Steering → List Char → List Char
  | _, [] => []
  | state, c :: rest =>
      let more := plainFrom (state.next c) rest
      if state.keeps c then c :: more else more

def plain (text : List Char) : List Char :=
  plainFrom .plain text

end Foreman.Text
