import DeliveryProbe.Endpoint
import DeliveryProbe.Telemetry
import DeliveryProbe.Tracker

/-! Emitting markers. A marker is registered only once its line or request is out, so a failed
emission leaves no marker to wait for. -/
namespace DeliveryProbe

/-- How an emission went: the marker or the failure, the tracker afterwards, and what was seen. -/
structure Emission where
  result : Except Failure Marker
  tracker : Option Tracker
  trace : Trace

namespace Emission

def emitterTarget : String := "log_monitor::app::emitter"

def complete (t : Option Tracker) (c : Channel) (m : Marker) : Emission :=
  match Tracker.registerWith t c m with
  | .ok t => { result := .ok m, tracker := t, trace := [.metric (.markerEmitted c)] }
  | .error f => { result := .error f, tracker := t, trace := [] }

def after (before : Trace) (e : Emission) : Emission := { e with trace := before ++ e.trace }

def app (t : Option Tracker) (number : String) (now : Instant) (written : Except Failure Unit) :
    Emission :=
  let line : Trace := [.emitted (Marker.appLine number now)]
  match written with
  | .error f => { result := .error f, tracker := t, trace := line }
  | .ok () => (complete t .app (Marker.ofApp number now)).after line

def isSuccess (status : Nat) : Bool := 200 ≤ status && status ≤ 299

/-- A status of failure is worth a warning and no more: the request is in the access log. -/
def statusWarning (url : String) (status : Nat) : Trace :=
  if isSuccess status then []
  else
    [.log
      { level := .warn
        target := emitterTarget
        message := "sample request returned non-success status"
        fields := [("status", .plain (toString status)), ("url", .plain url)] }]

/-- Ends an emission by request, begun at the given instant, with the status it was answered. -/
def httpAnswered (t : Option Tracker) (base number : String) (begun : Instant)
    (reply : Except Failure Nat) : Emission :=
  match reply with
  | .error f => { result := .error f, tracker := t, trace := [] }
  | .ok status =>
    (complete t .http (Marker.ofHttp number begun)).after
      (statusWarning (Endpoint.sample base number) status)

def http (t : Option Tracker) (base number : String) (now : Instant) (reply : Except Failure Nat) :
    Emission :=
  (httpAnswered t base number now reply).after [.emitted (Endpoint.sample base number)]

end Emission
end DeliveryProbe
