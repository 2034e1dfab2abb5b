import DeliveryProbe.Telemetry
import DeliveryProbe.Failure

/-! Recording a measurement: the process metrics first, then one write to the metric store. -/
namespace DeliveryProbe

/-- A metric store, with the answer it gives to each write of a run. -/
structure Sink where
  /-- Whether it says in the log what it would have written. -/
  announces : Bool
  answer : Nat → Except Failure Unit

namespace Sink

def storeTarget : String := "log_monitor::infra::metric_store"

def announcement (s : Sink) (sample : Sample) : Trace :=
  if s.announces then
    [.log { level := .info, target := storeTarget, message := sample.dryRunLine, fields := [] }]
  else []

end Sink

def record (system : String) (channel : Channel) (successful : Bool) (drift : Binary64) (sink : Sink)
    (write : Nat) : Except Failure Unit × Trace :=
  let sample := Sample.measured system channel successful drift
  let shown : Trace :=
    [.metric (.markerResolved channel successful), .metric (.drift channel sample.drift), .wrote sample] ++
      sink.announcement sample
  match sink.answer write with
  | .ok () => (.ok (), shown)
  | .error f => (.error f, shown ++ [.metric .writeFailed])

end DeliveryProbe
