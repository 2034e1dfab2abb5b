import DeliveryProbe.Time.Date

/-! Instants of coordinated universal time, leap seconds included.

A leap second shares the Unix second that precedes it: its nanosecond count runs from one to two
thousand million. The distance between two instants counts such a second only if it lies between
their times of day, and moving an instant leaves a leap second as soon as a whole second is crossed. -/
namespace DeliveryProbe

/-- `nano` reaches `2 * 10 ^ 9` within a leap second and stays below `10 ^ 9` elsewhere. -/
structure Instant where
  second : Int
  nano : Nat
  deriving DecidableEq, Repr

namespace Instant

def nanosPerSecond : Nat := 1000000000
def secondsPerDay : Nat := 86400

def firstSecond : Int := -8334601228800

def lastSecond : Int := 8210266876799

def inLeapSecond (t : Instant) : Bool := nanosPerSecond ≤ t.nano

/-- The instants that dates of six-digit years can name; a leap second ends a minute. -/
def Representable (t : Instant) : Prop :=
  firstSecond ≤ t.second ∧ t.second ≤ lastSecond ∧ t.nano < 2 * nanosPerSecond ∧
    (nanosPerSecond ≤ t.nano → t.second % 60 = 59)

instance (t : Instant) : Decidable t.Representable := inferInstanceAs (Decidable (_ ∧ _))

def dayNumber (t : Instant) : Int := t.second / secondsPerDay

def secondOfDay (t : Instant) : Nat := (t.second % secondsPerDay).toNat

def date (t : Instant) : Date := Date.ofDayNumber t.dayNumber

/-- One second for each leap second that lies between the two times of day. -/
def leapCorrection (a b : Instant) : Int :=
  if a.secondOfDay < b.secondOfDay then (if a.inLeapSecond then 1 else 0)
  else if b.secondOfDay < a.secondOfDay then (if b.inLeapSecond then -1 else 0)
  else 0

def nanosUntil (a b : Instant) : Int :=
  (b.second - a.second + leapCorrection a b) * nanosPerSecond + (b.nano - a.nano : Int)

/-- Whole milliseconds from `a` to `b`; a broken millisecond is dropped, whatever the sign. -/
def millisUntil (a b : Instant) : Int := (nanosUntil a b).tdiv 1000000

/-- The instant `nanos` nanoseconds later, with no limit on the years. A leap second is left when
a whole second is added or taken away, or when the fraction runs past its end. -/
def shift (t : Instant) (nanos : Int) : Instant :=
  let whole := nanos.tdiv nanosPerSecond
  let part := nanos.tmod nanosPerSecond
  let ordinary (second nano : Int) : Instant :=
    let total := nano + part
    { second := second + whole + total / nanosPerSecond
      nano := (total % nanosPerSecond).toNat }
  if t.inLeapSecond then
    if 0 < whole ∨ 2 * nanosPerSecond ≤ t.nano + part then ordinary t.second (t.nano - nanosPerSecond)
    else if whole < 0 then ordinary (t.second + 1) (t.nano - nanosPerSecond)
    else { second := t.second, nano := (t.nano + part).toNat }
  else ordinary t.second t.nano

/-- `shift`, refused when it leaves the representable years. -/
def shift? (t : Instant) (nanos : Int) : Option Instant :=
  let moved := t.shift nanos
  if firstSecond ≤ moved.second ∧ moved.second ≤ lastSecond then some moved else none

def addMillis (t : Instant) (millis : Int) : Instant := t.shift (millis * 1000000)

end Instant
end DeliveryProbe
