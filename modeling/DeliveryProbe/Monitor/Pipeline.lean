import DeliveryProbe.Event

/-! The systems around a monitor: how long each call takes, which calls fail, and when what was
logged becomes searchable. Times are milliseconds of virtual time; calls of one kind are numbered
from zero. -/
namespace DeliveryProbe

/-- How long something takes, by how often it has been done before. -/
abbrev Durations := Nat → Nat

instance : Coe Nat Durations := ⟨fun takes _ => takes⟩

structure Pipeline where
  /-- From the writing of an application line to its being searchable. -/
  appDelay : Durations
  appFails : Nat → Bool
  appLost : Nat → Bool
  getTakes : Durations
  /-- From the end of a request to its access-log line being searchable. -/
  httpDelay : Durations
  getFails : Nat → Bool
  getLost : Nat → Bool
  getErrs : Nat → Bool
  searchTakes : Durations
  searchFails : Nat → Bool
  searchPanics : Nat → Bool
  writeTakes : Durations
  writeFails : Nat → Bool

structure Pipeline.Line where
  message : String
  visibleAt : Nat
  deriving DecidableEq, Repr

namespace Pipeline

def appMessage (number : String) : String := "id " ++ number ++ " time"

def accessMessage (url : String) : String := "GET " ++ url ++ " 200"

def appLines (p : Pipeline) (call now : Nat) (number : String) : List Line :=
  if p.appFails call || p.appLost call then []
  else [{ message := appMessage number, visibleAt := now + p.appDelay call }]

def accessLines (p : Pipeline) (call now : Nat) (url : String) : List Line :=
  if p.getFails call || p.getLost call then []
  else [{ message := accessMessage url, visibleAt := now + p.httpDelay call }]

def writing (p : Pipeline) (first : Nat) : Nat → Nat
  | 0 => 0
  | count + 1 => p.writeTakes first + p.writing (first + 1) count

/-- The events that a search finds: all lines searchable when it begins, received when they became so. -/
def eventsAt (start : Instant) (now : Nat) (lines : List Line) : List Event :=
  (lines.filter (·.visibleAt ≤ now)).map fun l => Event.received l.message (start.addMillis l.visibleAt)

end Pipeline
end DeliveryProbe
