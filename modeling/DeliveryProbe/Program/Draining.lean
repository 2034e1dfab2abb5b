import DeliveryProbe.Program.Monitoring

/-! The debug drain as a program. It listens until a signal ends it. -/
namespace DeliveryProbe
namespace Program
namespace Draining

open CommandLine

def defaultPort : Nat := 8080

def portOption : CommandOption :=
  { long := "port"
    short := some 'p'
    kind := .value "PORT" .port
    about := "Port to listen on"
    default := some (toString defaultPort) }

def command : Command :=
  { name := "drain-debug"
    release := "0.1.0"
    about := "Accepts any request and logs method, URL, headers and body"
    options := [portOption] }

def listening (port : Nat) : LogRecord :=
  { level := .info
    target := Http.Answer.drainTarget
    message := "Debug drain listening"
    fields := [("addr", .plain (Monitoring.everywhere port).text)] }

inductive Start where
  | ended (ending : Ending)
  | running (port : Nat) (output : List Output)

def start (w : World) (arguments : List String) : Start :=
  match CommandLine.read command arguments with
  | .help => .ended (Monitoring.saying command.helpText)
  | .version => .ended (Monitoring.saying command.versionText)
  | .refused fault => .ended (Monitoring.complaint command fault)
  | .given values =>
    let port := (Monitoring.portOf values).getD defaultPort
    let output := filtered (LogFilter.ofEnvironment w.environment) [.log (listening port)]
    if w.busy port then
      .ended { status := some 1, output, errors := "Error: drain failed: " ++ cannotListen ++ "\n", filed := [] }
    else .running port output

end Draining
end Program
end DeliveryProbe
