import DeliveryProbe.Number.Binary64
import DeliveryProbe.Number.Digits

/-! The decimal text of a double: the fewest digits that read back, written without an exponent.

The reals that round to a finite double form an interval around it, with its ends if the step is
even. The coarsest grid of powers of ten with a point in that interval has the shortest decimals,
and of its points the one nearest to the double is taken. -/
namespace DeliveryProbe

structure Decimal where
  significand : Nat
  exponent : Int
  deriving DecidableEq, Repr

namespace Decimal

/-- Positional notation: zeros where the digits do not reach the point, no point behind them. -/
def toChars (d : Decimal) : List Char :=
  let ds := Numeral.digits d.significand
  if 0 ≤ d.exponent then ds ++ List.replicate d.exponent.toNat '0'
  else
    let places := d.exponent.natAbs
    if places < ds.length then ds.take (ds.length - places) ++ '.' :: ds.drop (ds.length - places)
    else '0' :: '.' :: (List.replicate (places - ds.length) '0' ++ ds)

end Decimal

namespace Binary64

/-- The ends of the interval that rounds to a positive step, in half units. -/
def lowerHalf (step : Nat) : Nat := units (step - 1) + units step

def upperHalf (step : Nat) : Nat := units step + units (step + 1)

/-- Half units per point of the grid `10 ^ exponent`, and the factor that makes them whole. -/
def gridScale (exponent : Int) : Nat × Nat :=
  if 0 ≤ exponent then (Nat.pow 10 exponent.toNat * (2 * unitsPerOne), 1)
  else (2 * unitsPerOne, Nat.pow 10 exponent.natAbs)

def roundsTo (step : Nat) (exponent : Int) (multiple : Nat) : Bool :=
  let (grid, factor) := gridScale exponent
  let point := multiple * grid
  let low := lowerHalf step * factor
  let high := upperHalf step * factor
  if step % 2 = 0 then low ≤ point && point ≤ high else low < point && point < high

/-- The point of a grid nearest to the step among those that round to it; of two equally near
ones the greater. -/
def onGrid? (step : Nat) (exponent : Int) : Option Decimal :=
  let (grid, factor) := gridScale exponent
  let value := 2 * units step * factor
  let below := value / grid
  let above := below + 1
  let (near, far) := if 2 * (value % grid) < grid then (below, above) else (above, below)
  if roundsTo step exponent near then some { significand := near, exponent }
  else if roundsTo step exponent far then some { significand := far, exponent }
  else none

def gridExponents : List Int := (List.range 634).map fun (i : Nat) => (308 : Int) - i

def shortest (step : Nat) : Decimal :=
  (gridExponents.findSome? (onGrid? step)).getD { significand := 0, exponent := 0 }

def magnitudeText (step : Nat) : List Char :=
  if step = 0 then ['0'] else (shortest step).toChars

/-- The text of a number. Both zeros and both infinities keep their sign. -/
def toChars : Binary64 → List Char
  | .nan => "NaN".toList
  | .infinite negative => (if negative then ['-'] else []) ++ "inf".toList
  | .finite negative step => (if negative then ['-'] else []) ++ magnitudeText step

def text (x : Binary64) : String := String.ofList x.toChars

end Binary64
end DeliveryProbe
