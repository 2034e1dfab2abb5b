import DeliveryProbe.Http.Request
import DeliveryProbe.Telemetry

/-! The two servers of the program, each as the answer it gives to a request: the sample responder,
which stands in for a monitored service, and the debug drain, which dumps what it gets into the log. -/
namespace DeliveryProbe
namespace Http

structure Answer where
  status : Nat
  contentType : String
  body : String
  trace : Trace

namespace Answer

def empty (trace : Trace) : Answer := { status := 200, contentType := "text/plain", body := "", trace }

def responderTarget : String := "log_monitor::server"
def drainTarget : String := "log_monitor::drain"

def notice (target message : String) : Observation :=
  .log { level := .info, target, message, fields := [] }

/-- The sample responder counts requests, and logs their targets if it is told to. -/
def ofResponder (logsRequests : Bool) (r : Request) : Answer :=
  empty
    (.metric .requestAnswered ::
      if logsRequests then [notice responderTarget ("<- " ++ r.target.text)] else [])

def maxDrained : Nat := 2 * 1024 * 1024

def ofDrain (r : Request) : Answer :=
  if maxDrained < r.body.length then
    { status := 413
      contentType := "text/plain; charset=utf-8"
      body := "Failed to buffer the request body: length limit exceeded"
      trace := [] }
  else empty [notice drainTarget r.dump]

end Answer
end Http
end DeliveryProbe
