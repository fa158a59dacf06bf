import Foreman.Json.Decode
import Foreman.Time.Stamp

set_option autoImplicit false

namespace Foreman

def Timestamp.toJson (stamp : Timestamp) : Json :=
  .text (Stamp.write stamp)

def Timestamp.expectation : String := "an RFC 3339 formatted date and time string"

def Timestamp.ofJson : Json → Decoded Timestamp
  | .text value =>
      match Stamp.read value with
      | some stamp => .ok stamp
      | none => .error (.unreadable expectation)
  | other => other.unexpected expectation

def Instant.toJson (time : Instant) : Json :=
  Timestamp.toJson time

end Foreman
