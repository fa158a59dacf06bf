import Foreman.Json.Basic
import Foreman.Number.Digits

set_option autoImplicit false

namespace Foreman

structure Span where
  nanos : Nat
  bounded : nanos < 18446744073709551616000000000

namespace Span

instance : DecidableEq Span := fun a b =>
  if same : a.nanos = b.nanos then
    isTrue (by cases a; cases b; simp_all)
  else
    isFalse fun equal => same (congrArg Span.nanos equal)

def zero : Span := ⟨0, by decide⟩

instance : Inhabited Span := ⟨zero⟩

def longest : Span := ⟨18446744073709551616000000000 - 1, by decide⟩

def ofNanos? (nanos : Nat) : Option Span :=
  if bounded : nanos < 18446744073709551616000000000 then some ⟨nanos, bounded⟩ else none

def ofNanos (nanos : Nat) : Span :=
  (ofNanos? nanos).getD longest

def ofMillis (millis : Nat) : Span :=
  ofNanos (millis * 1000000)

def ofParts (seconds nanos : Nat) : Span :=
  ofNanos (seconds * 1000000000 + nanos)

def seconds (span : Span) : Nat := span.nanos / 1000000000

def subNanos (span : Span) : Nat := span.nanos % 1000000000

def millisUp (span : Span) : Nat := (span.nanos + 999999) / 1000000

instance : LE Span := ⟨fun a b => a.nanos ≤ b.nanos⟩
instance : LT Span := ⟨fun a b => a.nanos < b.nanos⟩
instance (a b : Span) : Decidable (a ≤ b) := inferInstanceAs (Decidable (a.nanos ≤ b.nanos))
instance (a b : Span) : Decidable (a < b) := inferInstanceAs (Decidable (a.nanos < b.nanos))

def decimalText (whole places fraction : Nat) : List Char :=
  let shown := ((Number.padded places fraction).reverse.dropWhile (· == '0')).reverse
  Number.digits whole ++ (if fraction = 0 then [] else '.' :: shown)

def text (span : Span) : String :=
  let n := span.nanos
  let chars :=
    if 1000000000 ≤ n then decimalText (n / 1000000000) 9 (n % 1000000000) ++ ['s']
    else if 1000000 ≤ n then decimalText (n / 1000000) 6 (n % 1000000) ++ ['m', 's']
    else if 1000 ≤ n then decimalText (n / 1000) 3 (n % 1000) ++ ['µ', 's']
    else Number.digits n ++ ['n', 's']
  String.ofList chars

def toJson (span : Span) : Json :=
  .object [("nanos", .int span.subNanos), ("secs", .int span.seconds)]

end Span

end Foreman
