import Foreman.Json.Reader

set_option autoImplicit false

namespace Foreman.Json

def Blank (text : List Char) : Prop := ∀ c ∈ text, c ∈ [' ', '\n', '\t', '\r']

def Digits (text : List Char) : Prop := text ≠ [] ∧ ∀ c ∈ text, Number.isDigit c = true

def Whole (text : List Char) : Prop := Digits text ∧ (text.head? = some '0' → text = ['0'])

def Fraction (text : List Char) : Prop :=
  text = [] ∨ ∃ digits, Digits digits ∧ text = '.' :: digits

def Power (text : List Char) : Prop :=
  text = [] ∨ ∃ mark sign digits, mark ∈ ['e', 'E'] ∧ sign ∈ [[], ['+'], ['-']] ∧ Digits digits ∧
    text = mark :: (sign ++ digits)

def Numeral (text : List Char) : Prop :=
  ∃ whole fraction power, Whole whole ∧ Fraction fraction ∧ Power power ∧
    text = whole ++ fraction ++ power

def CodeUnit (text : List Char) (unit : Nat) : Prop :=
  ∃ a b c d p q r s, text = [a, b, c, d] ∧ hexValue a = some p ∧ hexValue b = some q ∧
    hexValue c = some r ∧ hexValue d = some s ∧ unit = ((p * 16 + q) * 16 + r) * 16 + s

def shortEscapes : List (Char × Char) :=
  [('"', '"'), ('\\', '\\'), ('/', '/'), ('b', '\x08'), ('f', '\x0c'), ('n', '\n'), ('r', '\r'),
   ('t', '\t')]

inductive Escape : List Char → Char → Prop where
  | short (mark c : Char) (listed : (mark, c) ∈ shortEscapes) : Escape [mark] c
  | unit (digits : List Char) (unit : Nat) (coded : CodeUnit digits unit)
      (unpaired : isLowSurrogate unit = false ∧ isHighSurrogate unit = false) :
      Escape ('u' :: digits) (Char.ofNat unit)
  | pair (first second : List Char) (high low : Nat) (leads : CodeUnit first high)
      (trails : CodeUnit second low) (isHigh : isHighSurrogate high = true)
      (isLow : isLowSurrogate low = true) :
      Escape ('u' :: first ++ '\\' :: 'u' :: second)
        (Char.ofNat ((high - 0xd800) * 0x400 + (low - 0xdc00) + 0x10000))

inductive Quotes : List Char → List Char → Prop where
  | nil : Quotes [] []
  | plain (c : Char) (rest value : List Char) (shown : 0x20 ≤ c.toNat)
      (bare : c ≠ '"' ∧ c ≠ '\\') (more : Quotes rest value) : Quotes (c :: rest) (c :: value)
  | escaped (mark : List Char) (c : Char) (rest value : List Char) (escape : Escape mark c)
      (more : Quotes rest value) : Quotes ('\\' :: mark ++ rest) (c :: value)

def Quoted (value : String) (text : List Char) : Prop :=
  ∃ content, Quotes content value.toList ∧ text = '"' :: content ++ ['"']

inductive Tree where
  | null
  | bool (value : Bool)
  | number (negative : Bool) (digits : List Char)
  | text (value : String)
  | array (items : List Tree)
  | object (members : List (String × Tree))

def worth? (negative : Bool) (digits : List Char) : Option Json :=
  match readNumber negative digits with
  | .ok (value, []) => some value
  | _ => none

namespace Tree

mutual

def Spells : Tree → List Char → Prop
  | .null, spelling => spelling = ['n', 'u', 'l', 'l']
  | .bool true, spelling => spelling = ['t', 'r', 'u', 'e']
  | .bool false, spelling => spelling = ['f', 'a', 'l', 's', 'e']
  | .number negative digits, spelling =>
      Numeral digits ∧ spelling = (if negative then '-' :: digits else digits)
  | .text value, spelling => Quoted value spelling
  | .array items, spelling => ∃ inner, spelling = '[' :: inner ++ [']'] ∧
      (items = [] ∧ Blank inner ∨ SpellsItems items (',' :: inner))
  | .object members, spelling => ∃ inner, spelling = '\x7b' :: inner ++ ['\x7d'] ∧
      (members = [] ∧ Blank inner ∨ SpellsMembers members (',' :: inner))

def SpellsItems : List Tree → List Char → Prop
  | [], spelling => spelling = []
  | item :: rest, spelling => ∃ before own after more,
      spelling = ',' :: before ++ own ++ after ++ more ∧
        Blank before ∧ Spells item own ∧ Blank after ∧ SpellsItems rest more

def SpellsMembers : List (String × Tree) → List Char → Prop
  | [], spelling => spelling = []
  | (name, value) :: rest, spelling => ∃ before title gap between own after more,
      spelling = ',' :: before ++ title ++ gap ++ ':' :: between ++ own ++ after ++ more ∧
        Blank before ∧ Quoted name title ∧ Blank gap ∧ Blank between ∧ Spells value own ∧
        Blank after ∧ SpellsMembers rest more

end

def Fills (tree : Tree) (text : List Char) : Prop :=
  ∃ before own after, text = before ++ own ++ after ∧ Blank before ∧ tree.Spells own ∧ Blank after

mutual

def depth : Tree → Nat
  | .array items => itemsDepth items + 1
  | .object members => membersDepth members + 1
  | _ => 0

def itemsDepth : List Tree → Nat
  | [] => 0
  | item :: rest => max item.depth (itemsDepth rest)

def membersDepth : List (String × Tree) → Nat
  | [] => 0
  | (_, value) :: rest => max value.depth (membersDepth rest)

end

-- The value of a tree; there is none if a number is out of range.
mutual

def value? : Tree → Option Json
  | .null => some .null
  | .bool value => some (.bool value)
  | .number negative digits => worth? negative digits
  | .text value => some (.text value)
  | .array items => (itemValues? items).map .array
  | .object members => (memberValues? members).map ofMembers

def itemValues? : List Tree → Option (List Json)
  | [] => some []
  | item :: rest =>
      match item.value?, itemValues? rest with
      | some value, some values => some (value :: values)
      | _, _ => none

def memberValues? : List (String × Tree) → Option (List (String × Json))
  | [] => some []
  | (name, tree) :: rest =>
      match tree.value?, memberValues? rest with
      | some value, some members => some ((name, value) :: members)
      | _, _ => none

end

end Tree

end Foreman.Json
