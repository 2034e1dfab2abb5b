import DeliveryProbe.Json.Reader
import DeliveryProbe.Telemetry
import DeliveryProbe.Failure
import DeliveryProbe.Event

/-! The reply of the log search: a JSON object whose member `events` is an array of events. A body
that is anything else is malformed as a whole. -/
namespace DeliveryProbe
namespace Search

def quotedBytes : Nat := 512

/-- A message is text; without one it is empty. -/
def messageOf? : Option Json → Option String
  | none => some ""
  | some (.string s) => some s
  | some _ => none

/-- A receipt time is text or null, and may be left out. -/
def receivedAtOf? : Option Json → Option (Option String)
  | none => some none
  | some .null => some none
  | some (.string s) => some (some s)
  | some _ => none

def eventOf? (message receivedAt : Option Json) : Option Event := do
  pure { message := ← messageOf? message, receivedAt := ← receivedAtOf? receivedAt }

/-- An event is an object, or an array of at most its two values in order. -/
def event? : Json → Option Event
  | .object members => eventOf? (Json.member? "message" members) (Json.member? "received_at" members)
  | .array [] => eventOf? none none
  | .array [message] => eventOf? (some message) none
  | .array [message, receivedAt] => eventOf? (some message) (some receivedAt)
  | _ => none

def events? : Json → Option (List Event)
  | .object members =>
    match (Json.member? "events" members).bind Json.items? with
    | some items => items.mapM event?
    | none => none
  | _ => none

def readBody (body : String) : Option (List Event) := (Json.read? body.toList).bind events?

def writeBody (events : List Event) : String :=
  Json.write (.object [("events", .array (events.map Event.toJson))])

inductive Reply where
  | found (events : List Event)
  | unreadable (body : String)
  | failed (failure : Failure)

namespace Reply

def ofBody (body : String) : Reply :=
  match readBody body with
  | some events => .found events
  | none => .unreadable body

def result : Reply → Except Failure (List Event)
  | .found events => .ok events
  | .unreadable body => .error (.malformedSearch (Text.truncate quotedBytes body))
  | .failed f => .error f

def trace : Reply → Trace
  | .unreadable _ => [.metric .searchMalformed]
  | _ => []

end Reply
end Search
end DeliveryProbe
