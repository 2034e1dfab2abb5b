import DeliveryProbe.Program.Draining
import DeliveryProbe.Store
import Std.Async.Signal
import Std.Time.DateTime.Timestamp

/-! The command line: the monitor, or the debug drain if that is the first argument.

What is done when, and what is said about it, is settled elsewhere; here are only the clock, the
standard streams, the files and the environment. There is no network in this layer, so every request
fails as one that nobody answers, and nothing is listened for. An interrupt ends the monitor between two ticks. -/
namespace DeliveryProbe
namespace Program

def systemInstant : IO Instant := do
  let nanos : Int := (← Std.Time.Timestamp.now).toNanosecondsSinceUnixEpoch.val
  pure { second := nanos / 1000000000, nano := (nanos % 1000000000).toNat }

def readReason : IO.Error → String
  | .noFileOrDirectory _ _ _ => "No such file or directory (os error 2)"
  | .inappropriateType _ code _ =>
    if code = 21 then "Is a directory (os error 21)" else "Not a directory (os error 20)"
  | other => toString other

def readBytes (path : String) : IO (Except String Utf8.Bytes) := do
  try pure (.ok (← IO.FS.readBinFile path).toList)
  catch e => pure (.error (readReason e))

/-- The variables that may matter: those with a meaning, and those that the environment file names. -/
def variableNames (file : Utf8.Bytes) : List String :=
  let words := ((Utf8.decodeLossy file).split fun c => !Text.isAlphanumeric c && c != '_' && c != '.').toList
  TextSetting.all.map TextSetting.envName ++ NumberSetting.all.map NumberSetting.envName ++
    [dryRunVariable, LogFilter.envName] ++ words.map (·.toString)

/-- The surroundings, as far as the arguments let the program look at them. -/
def systemWorld (arguments : List String) : IO World := do
  let environmentFile ← readBytes Monitoring.environmentFile
  let path :=
    match CommandLine.read Monitoring.command arguments with
    | .given values => values.lookup Monitoring.configOption.long
    | _ => none
  let configFile ← (path.getD Monitoring.environmentFile |> readBytes)
  let names := variableNames (environmentFile.toOption.getD [])
  let values ← names.mapM fun name => do pure (name, ← IO.getEnv name)
  pure
    { read := fun p => if some p = path then configFile else environmentFile
      environment := fun name => (values.lookup name).join
      busy := fun _ => false }

def put (f : LogFilter) (output : List Output) : IO Unit := do
  let out ← IO.getStdout
  for o in filtered f output do
    out.putStr o.toString
  out.flush

def exitWith (e : Ending) : IO UInt32 := do
  for o in e.output do
    IO.print o.toString
  IO.eprint e.errors
  pure (UInt32.ofNat (e.status.getD 130))

/-- What a run needs, the reading of the millisecond counter at its beginning, and what ends with an interrupt. -/
structure Running where
  config : Configuration
  store : Store
  filter : LogFilter
  begun : Nat
  interrupt : Std.Async.AsyncTask Int

structure Running.State where
  app : Timer
  http : Timer
  watch : Timer
  tracker : Tracker

namespace Running

def elapsed (r : Running) : IO Nat := do pure ((← IO.monoMsNow) - r.begun)

def randomNumber : IO String := do pure (toString (← IO.rand 0 Marker.maxNumber))

def putLogs (r : Running) (logs : List LogRecord) : IO Unit := put r.filter (logs.map .log)

def tickResult {α : Type} : Except Failure α → TickResult
  | .ok _ => .done
  | .error f => .failed f

def httpTick (r : Running) (t : Tracker) : IO Tracker := do
  let now ← systemInstant
  let number ← randomNumber
  let url := Endpoint.sample r.config.monitoredUrl number
  let e := Emission.http (some t) r.config.monitoredUrl number now (Http.Client.get .isolated url)
  r.putLogs (e.trace.logs ++ Task.tickLog Monitoring.httpTask (tickResult e.result))
  pure (e.tracker.getD t)

def appTick (r : Running) (t : Tracker) : IO Tracker := do
  let now ← systemInstant
  let number ← randomNumber
  put r.filter [.marker (Marker.appLine number now)]
  let e := Emission.app (some t) number now (.ok ())
  r.putLogs (Task.tickLog Monitoring.appTask (tickResult e.result))
  pure (e.tracker.getD t)

def watchTick (r : Running) (t : Tracker) : IO Tracker := do
  let now ← systemInstant
  let c := r.config
  let watcher : Watcher :=
    { system := c.systemName
      limits := { searchTimeout := c.searchTimeoutSeconds, timeToFailure := c.timeToFailureSeconds }
      dryRun := c.dryRun }
  let reply := Http.Client.search .isolated c.searchUrl c.searchToken c.systemName
  let sink : Sink :=
    { announces := r.store = .log
      answer := fun _ => if r.store = .log then .ok () else .error .http }
  let p := watcher.pass t reply (fun _ _ => now) sink 0
  r.putLogs (p.trace.logs ++ Task.tickLog Monitoring.watchTask (tickResult p.result))
  pure p.tracker

/-- Waits for a time of the run, and tells whether it comes before an interrupt. -/
partial def comes (r : Running) (due : Nat) : IO Bool := do
  if ← IO.hasFinished r.interrupt then return false
  let now ← r.elapsed
  if due ≤ now then return true
  IO.sleep (UInt32.ofNat (min 20 (due - now)))
  r.comes due

partial def loop (r : Running) (s : State) : IO Unit := do
  let due := min s.http.next (min s.app.next s.watch.next)
  unless ← r.comes due do return
  let begun ← r.elapsed
  let after (t : Timer) : IO Timer := do
    pure ({ t with free := max t.free begun }.tick ((← r.elapsed) - begun))
  if s.http.next = due then
    let tracker ← r.httpTick s.tracker
    r.loop { s with tracker, http := ← after s.http }
  else if s.app.next = due then
    let tracker ← r.appTick s.tracker
    r.loop { s with tracker, app := ← after s.app }
  else
    let tracker ← r.watchTick s.tracker
    r.loop { s with tracker, watch := ← after s.watch }

end Running

def runMonitor (w : World) (c : Configuration) (f : LogFilter) : IO UInt32 := do
  match c.store with
  | .error fault => exitWith (Monitoring.failed f fault)
  | .ok store =>
    put f ((Monitoring.opening w c).map .log)
    if app_pos : 0 < c.appIntervalMillis then
      if http_pos : 0 < c.httpIntervalMillis then
        if watch_pos : 0 < c.watchIntervalMillis then
          let interrupt ← (← Std.Async.Signal.Waiter.mk .sigint false).wait
          Running.loop { config := c, store, filter := f, begun := ← IO.monoMsNow, interrupt }
            { app := .start c.appIntervalMillis app_pos .immediate
              http := .start c.httpIntervalMillis http_pos .immediate
              watch := .start c.watchIntervalMillis watch_pos .afterPeriod
              tracker := .empty }
          return ← exitWith (Monitoring.interrupted w c f [])
    pure 1

partial def idle : IO UInt32 := do
  IO.sleep 60000
  idle

def drainMain (arguments : List String) : IO UInt32 := do
  match Draining.start (← systemWorld []) arguments with
  | .ended e => exitWith e
  | .running _ output =>
    put .standard output
    idle

def monitorMain (arguments : List String) : IO UInt32 := do
  try IO.FS.createDirAll logDirectory catch _ => pure ()
  let w ← systemWorld arguments
  match Monitoring.start w arguments with
  | .ended e => exitWith e
  | .running config filter => runMonitor w config filter

end Program
end DeliveryProbe

open DeliveryProbe.Program in
/-- Runs the program that the first argument names, the monitor if it names none. -/
def main (arguments : List String) : IO UInt32 :=
  if arguments.head? = some DeliveryProbe.Program.Draining.command.name then drainMain arguments.tail
  else monitorMain arguments
