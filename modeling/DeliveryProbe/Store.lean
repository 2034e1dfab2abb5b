import DeliveryProbe.Http.Client
import DeliveryProbe.Recorder

/-! The metric store that a configuration chooses. -/
namespace DeliveryProbe

inductive Store where
  | log
  | server (url : String)
  deriving DecidableEq, Repr

/-- A dry run stores nothing; every other run needs a server. -/
def Configuration.store (c : Configuration) : Except Failure Store :=
  if c.dryRun then .ok .log
  else
    match c.storeUrl with
    | some url => .ok (.server url)
    | none => .error (.config (.stated "metric store URL is required outside dry-run"))

namespace Store

def write (s : Store) (net : Http.Network) (sample : Sample) : Except Failure Unit × List LogRecord :=
  match s with
  | .log =>
    (.ok (), Trace.logs (Sink.announcement { announces := true, answer := fun _ => .ok () } sample))
  | .server url => (Http.Client.write net url sample, [])

end Store
end DeliveryProbe
