import DeliveryProbe.Event
import DeliveryProbe.Sample

/-! Matching pending markers against the events of a search. Each marker is judged on its own. -/
namespace DeliveryProbe

/-- The limits a marker is judged by, in seconds. -/
structure Thresholds where
  searchTimeout : Nat
  timeToFailure : Nat
  deriving DecidableEq, Repr

/-- The verdict on a marker, none if it is still to be waited for. A marker past its time is given
up without a look at the events. Otherwise the first usable event that holds its id decides: its
receipt counts if it was in time, the marker's age if it was late. -/
def Marker.judge (m : Marker) (events : List Event) (now : Instant) (limits : Thresholds) :
    Option Resolution :=
  let age := m.emittedAt.secondsUntil now
  if age.gt (.ofNat limits.searchTimeout) then some { marker := m, outcome := .timedOut, drift := age }
  else
    (firstReceipt? events m.id).map fun receipt =>
      let delay := m.emittedAt.secondsUntil receipt
      if delay.gt (.ofNat limits.timeToFailure) then { marker := m, outcome := .slow, drift := age }
      else { marker := m, outcome := .delivered, drift := delay }

structure Reconciliation where
  retained : List Marker
  resolved : List Resolution

def reconcile (pending : List Marker) (events : List Event) (now : Instant) (limits : Thresholds) :
    Reconciliation :=
  { retained := pending.filter fun m => (m.judge events now limits).isNone
    resolved := pending.filterMap fun m => m.judge events now limits }

end DeliveryProbe
