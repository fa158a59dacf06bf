import Foreman.Time.Calendar
import Foreman.Time.Span

/-!
Points in time: nanoseconds since 1970 in universal time, from the start of the year -262143 to the
end of the year 262142.
-/

set_option autoImplicit false

namespace Foreman

structure Instant where
  nanos : Int
  lower : -8334601228800000000000 ≤ nanos
  upper : nanos < 8210266876800000000000

namespace Instant

instance : DecidableEq Instant := fun a b =>
  if same : a.nanos = b.nanos then
    isTrue (by cases a; cases b; simp_all)
  else
    isFalse fun equal => same (congrArg Instant.nanos equal)

def ofNanos? (nanos : Int) : Option Instant :=
  if bounds : -8334601228800000000000 ≤ nanos ∧ nanos < 8210266876800000000000 then
    some ⟨nanos, bounds.1, bounds.2⟩
  else none

def ofUnix? (seconds : Int) (nanos : Nat) : Option Instant :=
  ofNanos? (seconds * 1000000000 + nanos)

def epoch : Instant := ⟨0, by decide, by decide⟩

instance : Inhabited Instant := ⟨epoch⟩

instance : LE Instant := ⟨fun a b => a.nanos ≤ b.nanos⟩
instance : LT Instant := ⟨fun a b => a.nanos < b.nanos⟩
instance (a b : Instant) : Decidable (a ≤ b) := inferInstanceAs (Decidable (a.nanos ≤ b.nanos))
instance (a b : Instant) : Decidable (a < b) := inferInstanceAs (Decidable (a.nanos < b.nanos))

def seconds (time : Instant) : Int := time.nanos / 1000000000

def subNanos (time : Instant) : Nat := (time.nanos % 1000000000).toNat

def addNanos? (time : Instant) (nanos : Int) : Option Instant :=
  ofNanos? (time.nanos + nanos)

def add? (time : Instant) (span : Span) : Option Instant :=
  time.addNanos? span.nanos

def since (later earlier : Instant) : Option Span :=
  if later.nanos < earlier.nanos then none
  else Span.ofNanos? (later.nanos - earlier.nanos).toNat

def earlier (a b : Instant) : Instant := if b.nanos < a.nanos then b else a

def earliest? (a b : Option Instant) : Option Instant :=
  match a, b with
  | none, other => other
  | some time, none => some time
  | some time, some other => some (earlier time other)

def date (time : Instant) : Date :=
  Date.ofDayNumber (time.seconds / 86400)

def secondOfDay (time : Instant) : Nat :=
  (time.seconds % 86400).toNat

end Instant

end Foreman
