/-! Dates of the proleptic Gregorian calendar and their day numbers, counted from 1970-01-01.

Both directions work with years that begin on the first of March, so that the leap day is the
last day of its year and the lengths of the other months follow one linear rule. -/
namespace DeliveryProbe

/-- A civil date; `month` and `day` count from one. -/
structure Date where
  year : Int
  month : Nat
  day : Nat
  deriving DecidableEq, Repr

namespace Date

def isLeapYear (year : Int) : Bool :=
  year % 4 = 0 && (year % 100 ≠ 0 || year % 400 = 0)

/-- The length of a month, and zero for a number that names none. -/
def daysInMonth (year : Int) : Nat → Nat
  | 1 | 3 | 5 | 7 | 8 | 10 | 12 => 31
  | 4 | 6 | 9 | 11 => 30
  | 2 => if isLeapYear year then 29 else 28
  | _ => 0

def Valid (d : Date) : Prop := 1 ≤ d.day ∧ d.day ≤ daysInMonth d.year d.month

instance (d : Date) : Decidable d.Valid := inferInstanceAs (Decidable (_ ∧ _))

/-- Days from 0000-03-01 to the first of January 1970. -/
def epochOffset : Int := 719468

def toDayNumber (d : Date) : Int :=
  let marchYear := if d.month ≤ 2 then d.year - 1 else d.year
  let marchMonth := (d.month + 9) % 12
  let dayOfYear := (153 * marchMonth + 2) / 5 + d.day - 1
  365 * marchYear + marchYear / 4 - marchYear / 100 + marchYear / 400 + dayOfYear - epochOffset

/-- The date that lies the given number of days after 1970-01-01. -/
def ofDayNumber (n : Int) : Date :=
  let z := n + epochOffset
  let cycle := z / 146097
  let dayOfCycle := (z % 146097).toNat
  let century := min 3 (dayOfCycle / 36524)
  let dayOfCentury := dayOfCycle - 36524 * century
  let quad := dayOfCentury / 1461
  let dayOfQuad := dayOfCentury % 1461
  let yearOfQuad := min 3 (dayOfQuad / 365)
  let dayOfYear := dayOfQuad - 365 * yearOfQuad
  let marchMonth := (5 * dayOfYear + 2) / 153
  let marchYear := 400 * cycle + 100 * century + 4 * quad + yearOfQuad
  { year := if marchMonth < 10 then marchYear else marchYear + 1
    month := if marchMonth < 10 then marchMonth + 3 else marchMonth - 9
    day := dayOfYear - (153 * marchMonth + 2) / 5 + 1 }

end Date
end DeliveryProbe
