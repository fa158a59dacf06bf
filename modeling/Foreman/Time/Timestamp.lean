import Foreman.Time.Instant

set_option autoImplicit false

namespace Foreman

-- A leap second is written as the second behind the one it is stored with, the last of a minute.
structure Timestamp where
  time : Instant
  leap : Bool
  last_second : leap = true → time.secondOfDay % 60 = 59

namespace Timestamp

instance : DecidableEq Timestamp := fun a b =>
  if same : a.time = b.time ∧ a.leap = b.leap then
    isTrue (by cases a; cases b; simp_all)
  else
    isFalse fun equal => same ⟨congrArg Timestamp.time equal, congrArg Timestamp.leap equal⟩

def ofInstant (time : Instant) : Timestamp := ⟨time, false, by simp⟩

instance : Coe Instant Timestamp := ⟨ofInstant⟩

instance : Inhabited Timestamp := ⟨ofInstant default⟩

def ofLeap? (time : Instant) : Option Timestamp :=
  if last : time.secondOfDay % 60 = 59 then some ⟨time, true, fun _ => last⟩ else none

-- What a leap second adds to its time. It adds nothing next to a time that is later in its day,
-- since the clock there has passed the leap second already.
def leapNanos (stamp other : Timestamp) : Int :=
  if stamp.leap ∧ other.time.secondOfDay ≤ stamp.time.secondOfDay then 1000000000 else 0

def since (later earlier : Timestamp) : Option Span :=
  let nanos := later.time.nanos + later.leapNanos earlier -
    (earlier.time.nanos + earlier.leapNanos later)
  if nanos < 0 then none else Span.ofNanos? nanos.toNat

end Timestamp

end Foreman
