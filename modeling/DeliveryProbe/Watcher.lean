import DeliveryProbe.Recorder
import DeliveryProbe.Search
import DeliveryProbe.Tracker

/-! A watch pass: the intake is emptied, the log search is asked, and every marker that its events
decide is recorded. A search that fails decides nothing. -/
namespace DeliveryProbe

structure Watcher where
  system : String
  limits : Thresholds
  dryRun : Bool
  deriving DecidableEq, Repr

structure Pass where
  result : Except Failure (List (Channel × Resolution))
  tracker : Tracker
  trace : Trace

namespace Watcher

def watchTarget : String := "log_monitor::app::watch"

def note (level : Level) (message : String) (fields : List (String × FieldValue)) : Observation :=
  .log { level, target := watchTarget, message, fields }

/-- In a dry run a pass says how many markers are pending on either channel. -/
def count (w : Watcher) (words : String) (t : Tracker) : Trace :=
  if w.dryRun then
    [note .info (words ++ " " ++ toString t.app.length ++ " " ++ toString t.http.length) []]
  else []

def markerFields (c : Channel) (m : Marker) : List (String × FieldValue) :=
  [("channel", .plain c.label), ("id", .plain m.id), ("emitted_at", .plain m.emittedAt.display)]

def warning (c : Channel) (r : Resolution) : Trace :=
  match r.outcome with
  | .timedOut => [note .warn "Failed to receive" (markerFields c r.marker)]
  | .slow => [note .warn "Slow to receive (failure)" (markerFields c r.marker)]
  | .delivered => []

def complaint (c : Channel) (r : Resolution) (f : Failure) : LogRecord :=
  { level := .error
    target := watchTarget
    message := "failed to record measurement"
    fields := [("channel", .plain c.label), ("id", .plain r.marker.id), ("error", .plain f.message)] }

/-- Reports one resolution, as the given write of the run. A write that fails is logged and given up. -/
def report (w : Watcher) (sink : Sink) (write : Nat) (c : Channel) (r : Resolution) : Trace :=
  let (written, recorded) := record w.system c r.outcome.isSuccess r.drift sink write
  match written with
  | .ok () => warning c r ++ recorded
  | .error f => warning c r ++ recorded ++ [.log (complaint c r f)]

/-- Reports resolutions in order, numbering their writes from the given one. -/
def reportAll (w : Watcher) (sink : Sink) (c : Channel) : Nat → List Resolution → Trace
  | _, [] => []
  | write, r :: rs => w.report sink write c r ++ reportAll w sink c (write + 1) rs

def searchComplaint : Failure → Trace
  | .malformedSearch body =>
    [note .error "Malformed response from log search, skipping this pass" [("body", .plain body)]]
  | _ => []

def opening (w : Watcher) (t : Tracker) (search : Search.Reply) : Trace :=
  w.count "-- Looking through logs, before" t ++
    [note .info "Searching logs..." [("system", .plain w.system)], .searched w.system] ++ search.trace

/-- One pass over a tracker. `clock c n` is the reading of the clock when the turn of channel `c`
comes, after `n` writes of this pass: a pass reads the clock anew for each channel. `firstWrite`
numbers the first write among those of the run. -/
def pass (w : Watcher) (t : Tracker) (search : Search.Reply) (clock : Channel → Nat → Instant)
    (sink : Sink) (firstWrite : Nat) : Pass :=
  let t := t.drain
  let opening := w.opening t search
  match search.result with
  | .error f =>
    { result := .error f
      tracker := t
      trace := opening ++ .metric .searchFailed :: searchComplaint f }
  | .ok events =>
    let (app, t) := t.reconcile .app events (clock .app 0) w.limits
    let (http, t) := t.reconcile .http events (clock .http app.length) w.limits
    { result := .ok (app.map (Prod.mk .app) ++ http.map (Prod.mk .http))
      tracker := t
      trace :=
        opening ++ .metric (.eventsFetched events.length) ::
          (w.reportAll sink .app firstWrite app ++
            w.reportAll sink .http (firstWrite + app.length) http ++
            w.count "-- Looked through logs, after" t) }

end Watcher
end DeliveryProbe
