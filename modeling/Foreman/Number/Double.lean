import Foreman.Number.Width

set_option autoImplicit false

namespace Foreman.Number

def halfEven (n shift : Nat) : Nat :=
  let unit := twoTo shift
  let quotient := n / unit
  let rest := 2 * (n % unit)
  if rest < unit then quotient
  else if unit < rest then quotient + 1
  else quotient + quotient % 2

def toDouble (n : Nat) : Float :=
  if n < twoTo 53 then n.toUInt64.toFloat
  else
    let shift := n.log2 - 52
    (halfEven n shift).toUInt64.toFloat.scaleB shift

end Foreman.Number
