set_option autoImplicit false

namespace Foreman.Number

def digitChar (digit : Nat) : Char :=
  Char.ofNat ('0'.toNat + digit)

def digits (n : Nat) : List Char :=
  if _ : n < 10 then [digitChar n] else digits (n / 10) ++ [digitChar (n % 10)]
termination_by n
decreasing_by omega

def padded (width n : Nat) : List Char :=
  List.replicate (width - (digits n).length) '0' ++ digits n

def digitValue (c : Char) : Nat :=
  c.toNat - '0'.toNat

def isDigit (c : Char) : Bool :=
  decide ('0'.toNat ≤ c.toNat) && decide (c.toNat ≤ '9'.toNat)

def ofDigits (text : List Char) : Nat :=
  text.foldl (fun value c => value * 10 + digitValue c) 0

def readBelow (bound : Nat) (text : List Char) : Option Nat :=
  let unsigned := match text with
    | '+' :: rest => rest
    | other => other
  if unsigned.isEmpty || !unsigned.all isDigit then none
  else
    let value := ofDigits unsigned
    if value < bound then some value else none

def natText (n : Nat) : String :=
  String.ofList (digits n)

def intText (n : Int) : String :=
  match n with
  | .ofNat value => natText value
  | .negSucc value => "-" ++ natText (value + 1)

end Foreman.Number
