import DeliveryProbe.Time.Text
import DeliveryProbe.Json.Writer
import DeliveryProbe.Text.Occurrence

/-! Events: the log lines that a search returns. -/
namespace DeliveryProbe

/-- A log line and the time at which the log pipeline says it received it. -/
structure Event where
  message : String
  receivedAt : Option String
  deriving DecidableEq, Repr

namespace Event

def received (message : String) (instant : Instant) : Event :=
  { message, receivedAt := some instant.rfc3339 }

/-- The instant of receipt, if the event carries one that can be read. -/
def receipt? (e : Event) : Option Instant := e.receivedAt.bind Instant.ofRfc3339?

theorem receipt?_received (message : String) (instant : Instant) :
    (received message instant).receipt? = Instant.ofRfc3339? instant.rfc3339 := by
  simp only [receipt?, received, Option.bind_some]

def mentions (e : Event) (text : String) : Bool := Text.contains e.message text

def toJson (e : Event) : Json :=
  .object
    [("message", .string e.message),
      ("received_at", match e.receivedAt with | some t => .string t | none => .null)]

end Event

/-- The receipt of the first event that holds a text and says when it was received. -/
def firstReceipt? (events : List Event) (text : String) : Option Instant :=
  events.findSome? fun e => if e.mentions text then e.receipt? else none

end DeliveryProbe
