import DeliveryProbe.CommandLine.Arguments
import DeliveryProbe.Http.Server
import DeliveryProbe.Monitor.Run
import DeliveryProbe.Program.Output
import DeliveryProbe.Schedule.Task
import DeliveryProbe.Settings.EnvironmentFile

/-! The monitor as a program: from its command line to a configuration, and from there through a run
to the end. -/
namespace DeliveryProbe
namespace Program
namespace Monitoring

open CommandLine

def configOption : CommandOption :=
  { long := "config"
    short := none
    kind := .value "CONFIG" .path
    about := "Optional TOML config file; environment variables override it"
    default := none }

def dryRunOption : CommandOption :=
  { long := "dry-run"
    short := none
    kind := .flag
    about := "Log measurements instead of writing them to the metric store"
    default := none }

def portOption : CommandOption :=
  { long := "port"
    short := some 'p'
    kind := .value "PORT" .port
    about := "Port for the sample responder"
    default := none }

def command : Command :=
  { name := "log-monitor"
    release := "0.1.0"
    about := "Measures how long app and HTTP log lines take to become searchable"
    options := [configOption, dryRunOption, portOption] }

def portOf (values : List (String × String)) : Option Nat :=
  (values.lookup portOption.long).bind fun value =>
    match readInteger value.toList with
    | .ok n => some n.toNat
    | .error _ => none

def overrides (values : List (String × String)) : Settings.Overrides :=
  { dryRun := (values.lookup dryRunOption.long).isSome, port := portOf values }

def environmentFile : String := ".env"

def environment (w : World) : Environment :=
  EnvironmentFile.complete w.environment (w.read environmentFile).toOption

def configure (w : World) (values : List (String × String)) : Except Failure Configuration := do
  let file ←
    match values.lookup configOption.long with
    | some path => Settings.ofFile path (w.read path)
    | none => .ok .unset
  file.load (environment w) (overrides values)

def mainTarget : String := "log_monitor"
def metricsTarget : String := "log_monitor::observability::metrics"
def monitorTarget : String := "log_monitor::monitor"

def record (level : Level) (target message : String) (fields : List (String × FieldValue)) : LogRecord :=
  { level, target, message, fields }

def faultRecord (f : Failure) : LogRecord :=
  record .error mainTarget ("Invalid configuration: " ++ f.message) []

/-- A failure as the error stream tells it, with what lies behind it indented below. -/
def report (fault : Failure) : String :=
  let behind :=
    match fault.cause? with
    | some cause => "\n\nCaused by:\n" ++ "\n".intercalate ((cause.splitOn "\n").map ("    " ++ ·))
    | none => ""
  "Error: " ++ fault.message ++ behind ++ "\n"

def failed (f : LogFilter) (fault : Failure) : Ending :=
  let output := filtered f [.log (faultRecord fault)]
  { status := some 1, output, errors := report fault, filed := records output }

def exporterBlocked (w : World) (address : SocketAddress) : Bool := address.servesIpv4 && w.busy address.port

def exporterRecord (w : World) (address : SocketAddress) : LogRecord :=
  if exporterBlocked w address then
    record .warn mainTarget
      ("Failed to initialize metrics exporter: Failed to install Prometheus recorder: " ++
        "failed to create HTTP listener: " ++ portTaken) []
  else record .info metricsTarget "Metrics exporter listening" [("addr", .plain address.text)]

/-- Whether the sample responder finds its port taken, by somebody else or by the exporter. -/
def responderBlocked (w : World) (c : Configuration) : Bool :=
  w.busy c.port || (c.port != 0 && c.metricsAddress.any fun a => a.servesIpv4 && a.port = c.port)

def everywhere (port : Nat) : SocketAddress := .v4 { a := 0, b := 0, c := 0, d := 0 } port

def httpTask : String := "http_log_emitter"
def appTask : String := "app_log_emitter"
def watchTask : String := "log_watcher"

def opening (w : World) (c : Configuration) : List LogRecord :=
  c.metricsAddress.toList.map (exporterRecord w) ++
    [record .info mainTarget "Starting log monitor"
        [("port", .plain (toString c.port)), ("timeout_on_search", .plain (toString c.searchTimeoutSeconds)),
          ("time_to_failure", .plain (toString c.timeToFailureSeconds))],
      record .info monitorTarget ("System: " ++ c.systemName)
        [("system", .plain c.systemName), ("dry_run", .plain (Sample.boolText c.dryRun))],
      Task.startedLog httpTask c.httpIntervalMillis, Task.startedLog appTask c.appIntervalMillis,
      Task.startedLog watchTask c.watchIntervalMillis,
      record .info Http.Answer.responderTarget "Sample responder listening"
        [("addr", .plain (everywhere c.port).text)]] ++
    if responderBlocked w c then
      [record .error monitorTarget "sample responder failed" [("error", .plain cannotListen)]]
    else []

def closing (w : World) (c : Configuration) : List LogRecord :=
  [record .info monitorTarget "Shutdown requested" [], Task.stoppedLog httpTask, Task.stoppedLog appTask,
    Task.stoppedLog watchTask] ++
    (if responderBlocked w c then [] else [record .info Http.Answer.responderTarget "Sample responder stopped" []]) ++
      [record .info monitorTarget "Monitor stopped" []]

/-- A monitor that is interrupted behind some output ends well, and says so. -/
def interrupted (w : World) (c : Configuration) (f : LogFilter) (before : List Output) : Ending :=
  let output := before ++ filtered f ((closing w c).map .log)
  { status := some 0, output, errors := "", filed := records output }

inductive Start where
  | ended (ending : Ending)
  | running (config : Configuration) (filter : LogFilter)

def saying (text : String) : Ending := { status := some 0, output := [.text text], errors := "", filed := [] }

def complaint (c : Command) (fault : UsageFault) : Ending :=
  { status := some 2, output := [], errors := fault.message c, filed := [] }

def start (w : World) (arguments : List String) : Start :=
  match CommandLine.read command arguments with
  | .help => .ended (saying command.helpText)
  | .version => .ended (saying command.versionText)
  | .refused fault => .ended (complaint command fault)
  | .given values =>
    let filter := LogFilter.ofEnvironment (environment w)
    match configure w values with
    | .ok config => .running config filter
    | .error fault => .ended (failed filter fault)

end Monitoring
end Program
end DeliveryProbe
