set_option autoImplicit false

namespace Foreman.Number

def bound64 : Nat := 18446744073709551616

def bound63 : Nat := 9223372036854775808

def bound32 : Nat := 4294967296

def bound31 : Nat := 2147483648

def twoTo (exponent : Nat) : Nat := Nat.pow 2 exponent

def powerOfTen (exponent : Nat) : Nat := Nat.pow 10 exponent

def isSigned64 (value : Int) : Bool :=
  decide (-9223372036854775808 ≤ value) && decide (value < 9223372036854775808)

end Foreman.Number
