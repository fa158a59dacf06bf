import Foreman.Number.Digits
import Foreman.Number.Width

/-!
The shortest decimal text of a double: the fewest digits that read back to the same double, of these
the nearest to its value, and of two equally near the even one.
-/

set_option autoImplicit false

namespace Foreman.Number

-- A positive double as a fraction, with the interval of the reals that round to it.
structure Window where
  low : Nat
  value : Nat
  high : Nat
  scale : Nat
  closed : Bool

def Window.ofParts (mantissa : Nat) (exponent : Int) (narrow : Bool) : Window :=
  let power : Int := exponent - 2
  let up := if 0 ≤ power then twoTo power.toNat else 1
  let down := if 0 ≤ power then 1 else twoTo (-power).toNat
  { low := (4 * mantissa - (if narrow then 1 else 2)) * up
    value := 4 * mantissa * up
    high := (4 * mantissa + 2) * up
    scale := down
    closed := mantissa % 2 == 0 }

def leadingBit : Nat := twoTo 52

def Window.ofBits (bits : Nat) : Window :=
  let fraction := bits % leadingBit
  let biased : Nat := bits / leadingBit
  if biased = 0 then Window.ofParts fraction (-1074) false
  else
    Window.ofParts (leadingBit + fraction) ((biased : Int) - 1075)
      (fraction == 0 && decide (1 < biased))

structure Decimal where
  units : Nat
  power : Int
deriving DecidableEq, Repr

def gridUp (power : Int) : Nat := if 0 ≤ power then powerOfTen power.toNat else 1

def gridDown (power : Int) : Nat := if 0 ≤ power then 1 else powerOfTen (-power).toNat

def Window.holds (window : Window) (decimal : Decimal) : Bool :=
  let point := decimal.units * gridUp decimal.power * window.scale
  let low := window.low * gridDown decimal.power
  let high := window.high * gridDown decimal.power
  if window.closed then decide (low ≤ point) && decide (point ≤ high)
  else decide (low < point) && decide (point < high)

-- The better of the two neighbours of the value on the grid of one power of ten, if any reads back.
def Window.onGrid (window : Window) (power : Int) : Option Decimal :=
  let top := window.value * gridDown power
  let step := gridUp power * window.scale
  let floor := top / step
  let below : Decimal := ⟨floor, power⟩
  let above : Decimal := ⟨floor + 1, power⟩
  match window.holds below && decide (0 < floor), window.holds above with
  | false, false => none
  | true, false => some below
  | false, true => some above
  | true, true =>
      let rest := 2 * (top - floor * step)
      if rest < step then some below
      else if step < rest then some above
      else if floor % 2 = 0 then some below
      else some above

def Window.leading (window : Window) : Int :=
  let reaches (power : Int) : Bool :=
    decide (gridUp power * window.scale ≤ window.value * gridDown power)
  let estimate : Int := ((window.value.log2 : Int) - (window.scale.log2 : Int)) * 1233 / 4096
  if reaches (estimate + 1) then estimate + 1
  else if reaches estimate then estimate
  else estimate - 1

def Window.shortest (window : Window) : Decimal :=
  let leading := window.leading
  let grids := (List.range 18).map fun (extra : Nat) => leading - (extra : Int)
  (grids.findSome? window.onGrid).getD ⟨window.value / window.scale, 0⟩

def Decimal.places (decimal : Decimal) : List Char × Int :=
  let all := digits decimal.units
  let kept := (all.reverse.dropWhile (· == '0')).reverse
  (kept, decimal.power + (all.length : Int))

def exponentText (exponent : Int) : List Char :=
  let sign := if exponent < 0 then '-' else '+'
  'e' :: sign :: digits exponent.natAbs

-- Positional from 10^-5 up to below 10^16, with a digit on both sides of the point.
def Decimal.text (decimal : Decimal) : List Char :=
  let (kept, point) := decimal.places
  if 0 < point ∧ point ≤ 16 then
    let whole := kept.take point.toNat
    let fraction := kept.drop point.toNat
    whole ++ List.replicate (point.toNat - whole.length) '0' ++ ['.'] ++
      (if fraction.isEmpty then ['0'] else fraction)
  else if -5 < point ∧ point ≤ 0 then
    ['0', '.'] ++ List.replicate (-point).toNat '0' ++ kept
  else
    match kept with
    | [] => ['0']
    | [only] => only :: exponentText (point - 1)
    | first :: rest => first :: '.' :: rest ++ exponentText (point - 1)

def floatText (x : Float) : String :=
  let bits := x.toBits.toNat
  let size := bits % bound63
  let sign := if bits < bound63 then [] else ['-']
  if size / leadingBit = 2047 then "null"
  else if size = 0 then String.ofList (sign ++ ['0', '.', '0'])
  else String.ofList (sign ++ (Window.ofBits size).shortest.text)

end Foreman.Number
