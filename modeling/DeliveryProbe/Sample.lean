import DeliveryProbe.Marker
import DeliveryProbe.Number.Shortest

/-! How a marker's journey ends, and the sample that is stored for it. -/
namespace DeliveryProbe

inductive Outcome where
  | delivered
  | slow
  | timedOut
  deriving DecidableEq, Repr

def Outcome.isSuccess : Outcome → Bool
  | .delivered => true
  | _ => false

/-- A marker whose journey has ended, with the seconds to report for it. -/
structure Resolution where
  marker : Marker
  outcome : Outcome
  drift : Binary64
  deriving DecidableEq

structure Sample where
  system : String
  channel : Channel
  successful : Bool
  drift : Binary64
  deriving DecidableEq

namespace Sample

/-- The sample of a measurement. Clocks that disagree can make a drift negative; it counts as none. -/
def measured (system : String) (channel : Channel) (successful : Bool) (drift : Binary64) : Sample :=
  { system, channel, successful, drift := drift.clampNegative }

def boolText (b : Bool) : String := if b then "true" else "false"

def line (s : Sample) : String :=
  "logs,type=" ++ s.channel.label ++ ",successful=" ++ boolText s.successful ++ ",host=" ++ s.system ++
    " drift=" ++ s.drift.text

def dryRunLine (s : Sample) : String :=
  "=> write " ++ s.channel.label ++ " successful=" ++ boolText s.successful ++ " host=" ++ s.system ++
    " drift=" ++ s.drift.text

end Sample

/-- The drift between two instants: whole milliseconds, divided by a thousand as doubles. -/
def Instant.secondsUntil (a b : Instant) : Binary64 := (Binary64.ofInt (a.millisUntil b)).divNat 1000

end DeliveryProbe
