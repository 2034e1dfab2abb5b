import DeliveryProbe.Time.Text

/-! Markers: numbers put into a log so that they can be looked for in the search. -/
namespace DeliveryProbe

/-- The two ways a marker reaches the logs: in a line of the application's own, or in the access-log
line of a request to the monitored service. -/
inductive Channel where
  | app
  | http
  deriving DecidableEq, Repr

namespace Channel

def label : Channel → String
  | .app => "app_logs"
  | .http => "http_logs"

end Channel

structure Marker where
  id : String
  emittedAt : Instant
  deriving DecidableEq, Repr

namespace Marker

def maxNumber : Nat := 100000000

def appLine (number : String) (emittedAt : Instant) : String :=
  "id " ++ number ++ " time: " ++ emittedAt.rfc3339Millis

def samplePath (number : String) : String := "/samples/" ++ number

def ofApp (number : String) (emittedAt : Instant) : Marker := { id := number, emittedAt }

/-- The marker that a request for `samplePath` emits; the path makes it unlike any number in a line
of the application. -/
def ofHttp (number : String) (emittedAt : Instant) : Marker := { id := samplePath number, emittedAt }

end Marker
end DeliveryProbe
