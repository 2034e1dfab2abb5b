/-! Double-precision numbers as steps of one grid.

A finite magnitude is named by its place among all finite magnitudes, so that the order of
magnitudes is the order of the steps. Its value is a whole number of units of `2 ^ -1074`, and every
operation rounds an exact quotient of naturals, in these units, once: to the nearest step, a tie to
the even one. -/
namespace DeliveryProbe

def Binary64.binade : Nat := Nat.pow 2 52

def Binary64.finiteSteps : Nat := 2047 * Binary64.binade

inductive Binary64 where
  | nan
  | infinite (negative : Bool)
  | finite (negative : Bool) (step : Fin Binary64.finiteSteps)
  deriving DecidableEq

namespace Binary64

/-- The value of a step in units of `2 ^ -1074`. -/
def units (step : Nat) : Nat :=
  if step < binade then step else (binade + step % binade) * Nat.pow 2 (step / binade - 1)

def unitsPerOne : Nat := Nat.pow 2 1074

/-- The natural number nearest to a quotient, the even one if two are. -/
def divRoundEven (num den : Nat) : Nat :=
  let q := num / den
  let r := num % den
  if 2 * r < den then q else if den < 2 * r then q + 1 else q + q % 2

/-- The step nearest to `num / den` units, as if there were no largest one. -/
def roundStep (num den : Nat) : Nat :=
  let shift := (num / den).log2 - 52
  shift * binade + divRoundEven num (den * Nat.pow 2 shift)

/-- The double nearest to `num / den` units, infinite past the largest finite magnitude. -/
def ofUnits (negative : Bool) (num den : Nat) : Binary64 :=
  let step := roundStep num den
  if h : step < finiteSteps then .finite negative ⟨step, h⟩ else .infinite negative

theorem finiteSteps_pos : 0 < finiteSteps := by decide

def zero : Binary64 := .finite false ⟨0, finiteSteps_pos⟩

def ofNat (n : Nat) : Binary64 := ofUnits false (n * unitsPerOne) 1

def ofInt (n : Int) : Binary64 := ofUnits (n < 0) (n.natAbs * unitsPerOne) 1

/-- The double nearest to `significand * 10 ^ exponent`. Powers far beyond all doubles are not worked
out. -/
def ofDecimal (negative : Bool) (significand : Nat) (exponent : Int) : Binary64 :=
  let size : Int := (Nat.toDigits 10 significand).length + exponent
  if significand = 0 ∨ size < -400 then ofUnits negative 0 1
  else if 400 < size then .infinite negative
  else if 0 ≤ exponent then ofUnits negative (significand * Nat.pow 10 exponent.toNat * unitsPerOne) 1
  else ofUnits negative (significand * unitsPerOne) (Nat.pow 10 exponent.natAbs)

def divNat (x : Binary64) (k : Nat) : Binary64 :=
  match x with
  | .finite negative step => ofUnits negative (units step) k
  | other => other

def mulMagnitudes (a b : Fin finiteSteps) : Binary64 :=
  ofUnits false (units a * units b) unitsPerOne

def addMagnitudes (x y : Binary64) : Binary64 :=
  match x, y with
  | .finite _ a, .finite _ b => ofUnits false (units a + units b) 1
  | .finite _ _, other => other
  | other, _ => other

/-- The place of a number in the order of all numbers; the two zeros share theirs. -/
def rank? : Binary64 → Option Int
  | .nan => none
  | .infinite negative => some (if negative then -(finiteSteps : Int) else finiteSteps)
  | .finite negative step => some (if negative then -(step : Int) else step)

/-- Whether one number is greater than another; no comparison with a NaN holds. -/
def gt (a b : Binary64) : Bool :=
  match a.rank?, b.rank? with
  | some x, some y => y < x
  | _, _ => false

/-- A negative number raised to zero; a zero of either sign and a NaN stay. -/
def clampNegative (x : Binary64) : Binary64 := if zero.gt x then zero else x

end Binary64
end DeliveryProbe
