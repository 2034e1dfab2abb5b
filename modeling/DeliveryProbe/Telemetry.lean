import DeliveryProbe.Sample
import DeliveryProbe.Text.Terminal

/-! What a run lets be seen of itself: log records, process metrics, and what it does to the systems
around it, in one sequence. -/
namespace DeliveryProbe

inductive Level where
  | info
  | warn
  | error
  deriving DecidableEq, Repr

def Level.text : Level → String
  | .info => "INFO"
  | .warn => "WARN"
  | .error => "ERROR"

/-- A field of a log record; some are set in quotes on the console. -/
inductive FieldValue where
  | plain (text : String)
  | quoted (text : String)
  deriving DecidableEq, Repr

/-- One log record; `target` names the part of the program it comes from. -/
structure LogRecord where
  level : Level
  target : String
  message : String
  fields : List (String × FieldValue)
  deriving DecidableEq, Repr

namespace LogRecord

def consoleFieldText : FieldValue → String
  | .plain text => text
  | .quoted text => "\"" ++ text ++ "\""

/-- A record as the console shows it, with the target in front of the message, which cannot steer the
console. -/
def consoleText (r : LogRecord) : String :=
  r.fields.foldl (fun s (key, value) => s ++ " " ++ key ++ "=" ++ consoleFieldText value)
    (r.level.text ++ " " ++ r.target ++ ": " ++ Terminal.spelt r.message)

end LogRecord

/-- An increment of a counter, or a value recorded in a histogram. -/
inductive Metric where
  | markerEmitted (channel : Channel)
  | markerResolved (channel : Channel) (successful : Bool)
  | drift (channel : Channel) (seconds : Binary64)
  | searchFailed
  | searchMalformed
  | eventsFetched (count : Nat)
  | writeFailed
  | requestAnswered
  deriving DecidableEq

namespace Metric

def channelLabel (c : Channel) : String := "channel=" ++ c.label

def counterText (name : String) (labels : String) : String :=
  "counter log_monitor_" ++ name ++ labels ++ " +1"

def inBraces (labels : String) : String := "\x7b" ++ labels ++ "\x7d"

def text : Metric → String
  | .markerEmitted c => counterText "markers_emitted_total" (inBraces (channelLabel c))
  | .markerResolved c ok =>
    counterText "markers_resolved_total"
      (inBraces (channelLabel c ++ ",outcome=" ++ if ok then "success" else "failure"))
  | .drift c x => "histogram log_monitor_drift_seconds" ++ inBraces (channelLabel c) ++ " " ++ x.text
  | .searchFailed => counterText "search_errors_total" ""
  | .searchMalformed => counterText "search_malformed_total" ""
  | .eventsFetched n => "histogram log_monitor_search_events " ++ (Binary64.ofNat n).text
  | .writeFailed => counterText "store_write_errors_total" ""
  | .requestAnswered => counterText "responder_requests_total" ""

end Metric

inductive Observation where
  | log (record : LogRecord)
  | metric (m : Metric)
  /-- A line put into the application's log, or a URL requested. -/
  | emitted (text : String)
  /-- The log search was asked for a system's events. -/
  | searched (system : String)
  | wrote (sample : Sample)
  deriving DecidableEq

abbrev Trace := List Observation

namespace Trace

def logs (t : Trace) : List LogRecord := t.filterMap fun | .log r => some r | _ => none
def metrics (t : Trace) : List Metric := t.filterMap fun | .metric m => some m | _ => none
def writes (t : Trace) : List Sample := t.filterMap fun | .wrote s => some s | _ => none

section Append
variable (t u : Trace)

@[simp] theorem logs_append : logs (t ++ u) = logs t ++ logs u := List.filterMap_append

@[simp] theorem metrics_append : metrics (t ++ u) = metrics t ++ metrics u := List.filterMap_append

@[simp] theorem writes_append : writes (t ++ u) = writes t ++ writes u := List.filterMap_append

end Append

end Trace
end DeliveryProbe
