import DeliveryProbe.Emitter
import DeliveryProbe.Monitor.Pipeline
import DeliveryProbe.Schedule.Timer
import DeliveryProbe.Watcher

/-! A run of the monitor on virtual time: the two emitters and the watcher as periodic tasks around
one tracker, against a pipeline, until a shutdown.

The run is a machine that always takes the earliest thing that is due. A watch pass is taken whole
when it begins: between its beginning and its end it shares nothing with the other tasks, since it
empties the intake and looks at the searchable lines at its beginning. A request is taken in two
parts, because its marker is registered when it ends. -/
namespace DeliveryProbe
namespace Monitor

structure Setup where
  config : Configuration
  pipeline : Pipeline
  start : Instant
  shutdownAt : Nat
  /-- The numbers that the two emitters take, by how many each has taken before. -/
  number : Channel → Nat → String

inductive Action where
  | appWrite (number : String)
  | get (url : String)
  | search
  | write (sample : Sample)
  | registered (channel : Channel) (marker : Marker)
  /-- A pass ended, with or without an answer from the search. -/
  | passEnded (searched : Bool) (tracker : Tracker)

structure Moment where
  time : Nat
  action : Action

structure Request where
  number : String
  call : Nat
  begun : Nat
  ends : Nat
  deriving DecidableEq, Repr

structure State where
  app : Timer
  http : Timer
  watch : Timer
  request : Option Request
  tracker : Tracker
  lines : List Pipeline.Line
  /-- How many application lines, requests, searches and samples there have been. -/
  appCalls : Nat
  getCalls : Nat
  searches : Nat
  writes : Nat

def Setup.clock (s : Setup) (time : Nat) : Instant := s.start.addMillis time

def Setup.watcher (s : Setup) : Watcher :=
  { system := s.config.systemName
    limits :=
      { searchTimeout := s.config.searchTimeoutSeconds, timeToFailure := s.config.timeToFailureSeconds }
    dryRun := s.config.dryRun }

def Setup.sink (s : Setup) : Sink :=
  { announces := false
    answer := fun n => if s.pipeline.writeFails n then .error .http else .ok () }

def start? (s : Setup) : Option State :=
  if app_pos : 0 < s.config.appIntervalMillis then
    if http_pos : 0 < s.config.httpIntervalMillis then
      if watch_pos : 0 < s.config.watchIntervalMillis then
        some
          { app := .start s.config.appIntervalMillis app_pos .immediate
            http := .start s.config.httpIntervalMillis http_pos .immediate
            watch := .start s.config.watchIntervalMillis watch_pos .afterPeriod
            request := none
            tracker := .empty
            lines := []
            appCalls := 0
            getCalls := 0
            searches := 0
            writes := 0 }
      else none
    else none
  else none

def registrations (time : Nat) (c : Channel) (e : Emission) : List Moment :=
  match e.result with
  | .ok m => [{ time, action := .registered c m }]
  | .error _ => []

def appTick (s : Setup) (st : State) : List Moment × State :=
  let now := st.app.next
  let number := s.number .app st.appCalls
  let written : Except Failure Unit := if s.pipeline.appFails st.appCalls then .error .http else .ok ()
  let e := Emission.app (some st.tracker) number (s.clock now) written
  ({ time := now, action := .appWrite number } :: registrations now .app e,
    { st with
      app := st.app.tick 0
      tracker := e.tracker.getD st.tracker
      lines := st.lines ++ s.pipeline.appLines st.appCalls now number
      appCalls := st.appCalls + 1 })

def httpTick (s : Setup) (st : State) : List Moment × State :=
  let now := st.http.next
  let number := s.number .http st.getCalls
  ([{ time := now, action := .get (Endpoint.sample s.config.monitoredUrl number) }],
    { st with
      http := st.http.tick (s.pipeline.getTakes st.getCalls)
      request :=
        some { number, call := st.getCalls, begun := now, ends := now + s.pipeline.getTakes st.getCalls }
      getCalls := st.getCalls + 1 })

def replyTo (p : Pipeline) (call : Nat) : Except Failure Nat :=
  if p.getFails call then .error .http else .ok (if p.getErrs call then 500 else 200)

def requestEnd (s : Setup) (st : State) (r : Request) (tracking : Bool) : List Moment × State :=
  let e :=
    Emission.httpAnswered (if tracking then some st.tracker else none) s.config.monitoredUrl r.number
      (s.clock r.begun) (replyTo s.pipeline r.call)
  (registrations r.ends .http e,
    { st with
      request := none
      tracker := e.tracker.getD st.tracker
      lines :=
        st.lines ++
          s.pipeline.accessLines r.call r.ends (Endpoint.sample s.config.monitoredUrl r.number) })

/-- The samples of a pass, numbered from `call`: the first is written at `time`, each later one when the
one before is done. -/
def writeMoments (p : Pipeline) : Nat → Nat → List Sample → List Moment
  | _, _, [] => []
  | call, time, sample :: samples =>
    { time, action := .write sample } :: writeMoments p (call + 1) (time + p.writeTakes call) samples

/-- A watch pass. A search that panics ends it before anything is judged. -/
def watchTick (s : Setup) (st : State) : List Moment × State :=
  let now := st.watch.next
  let searched := now + s.pipeline.searchTakes st.searches
  let asked : Moment := { time := now, action := .search }
  if s.pipeline.searchPanics st.searches then
    let tracker := st.tracker.drain
    ([asked, { time := searched, action := .passEnded false tracker }],
      { st with
        watch := st.watch.tick (s.pipeline.searchTakes st.searches)
        tracker
        searches := st.searches + 1 })
  else
    let reply : Search.Reply :=
      if s.pipeline.searchFails st.searches then .failed .http
      else .found (Pipeline.eventsAt s.start now st.lines)
    let p :=
      s.watcher.pass st.tracker reply (fun _ n => s.clock (searched + s.pipeline.writing st.writes n))
        s.sink st.writes
    let samples := Trace.writes p.trace
    let takes := s.pipeline.searchTakes st.searches + s.pipeline.writing st.writes samples.length
    (asked :: writeMoments s.pipeline st.writes searched samples ++
        [{ time := now + takes, action := .passEnded p.result.isOk p.tracker }],
      { st with
        watch := st.watch.tick takes
        tracker := p.tracker
        searches := st.searches + 1
        writes := st.writes + samples.length })

inductive Due where
  | requestEnd (r : Request)
  | httpTick
  | appTick
  | watchTick
  | stop
  deriving DecidableEq, Repr

/-- The earliest of the ticks that begin before the shutdown. Of two at one time the request emitter
comes first and the watcher last. -/
def dueTick (s : Setup) (st : State) : Due :=
  if s.shutdownAt ≤ min st.http.next (min st.app.next st.watch.next) then .stop
  else if st.http.next ≤ min st.app.next st.watch.next then .httpTick
  else if st.app.next ≤ st.watch.next then .appTick
  else .watchTick

/-- What comes next: a request ends before any tick that begins at the same time. -/
def due (s : Setup) (st : State) : Due :=
  match st.request with
  | none => dueTick s st
  | some r =>
    if min st.http.next (min st.app.next st.watch.next) < min r.ends s.shutdownAt then dueTick s st
    else .requestEnd r

def watcherEnd (s : Setup) (st : State) : Nat := max s.shutdownAt st.watch.free

/-- One thing done, nothing if the run is at its end. Once no tick begins any more, a request that
ends after the watcher finds no tracker. -/
def step? (s : Setup) (st : State) : Option (List Moment × State) :=
  match due s st with
  | .stop => none
  | .httpTick => some (httpTick s st)
  | .appTick => some (appTick s st)
  | .watchTick => some (watchTick s st)
  | .requestEnd r => some (requestEnd s st r (r.ends ≤ watcherEnd s st))

theorem dueTick_bound {s : Setup} {st : State} :
    (dueTick s st = .httpTick → st.http.next < s.shutdownAt) ∧
      (dueTick s st = .appTick → st.app.next < s.shutdownAt) ∧
        (dueTick s st = .watchTick → st.watch.next < s.shutdownAt) := by
  unfold dueTick
  by_cases past : s.shutdownAt ≤ min st.http.next (min st.app.next st.watch.next)
  · simp [past]
  · by_cases http : st.http.next ≤ min st.app.next st.watch.next
    · simp only [past, http, if_false, if_true, reduceCtorEq, false_implies, true_implies, and_true]
      omega
    · by_cases app : st.app.next ≤ st.watch.next
      · simp only [past, http, app, if_false, if_true, reduceCtorEq, false_implies, true_implies, and_true,
          true_and]
        omega
      · simp only [past, http, app, if_false, reduceCtorEq, false_implies, true_implies, true_and]
        omega

theorem due_bound (s : Setup) (st : State) :
    (due s st = .httpTick → st.http.next < s.shutdownAt) ∧
      (due s st = .appTick → st.app.next < s.shutdownAt) ∧
        (due s st = .watchTick → st.watch.next < s.shutdownAt) := by
  unfold due
  split
  · exact dueTick_bound
  · split
    · exact dueTick_bound
    · simp

/-- How much can still happen: every tick moves a deadline, and a request in progress ends. -/
def remaining (s : Setup) (st : State) : Nat :=
  2 * (s.shutdownAt - st.app.deadline) + 2 * (s.shutdownAt - st.http.deadline) +
    2 * (s.shutdownAt - st.watch.deadline) + (if st.request = none then 0 else 1)

theorem due_requestEnd {s : Setup} {st : State} {r : Request} (h : due s st = .requestEnd r) :
    st.request = some r := by
  have never : ∀ r, dueTick s st ≠ .requestEnd r := by
    intro r
    unfold dueTick
    repeat' split
    all_goals simp
  unfold due at h
  split at h
  · exact absurd h (never r)
  · next active =>
    split at h
    · exact absurd h (never r)
    · injection h with h; rw [active, h]

theorem remaining_step {s : Setup} {st st' : State} {moments : List Moment}
    (h : step? s st = some (moments, st')) : remaining s st' < remaining s st := by
  obtain ⟨http, app, watch⟩ := due_bound s st
  unfold step? at h
  split at h
  · contradiction
  · next ticks =>
    have bound := http ticks
    have due := st.http.deadline_le_next
    have later := st.http.deadline_lt_tick (s.pipeline.getTakes st.getCalls)
    injection h with h
    simp only [httpTick, Prod.mk.injEq] at h
    rw [← h.2]
    simp only [remaining, reduceCtorEq, if_false]
    split <;> omega
  · next ticks =>
    have bound := app ticks
    have due := st.app.deadline_le_next
    have later := st.app.deadline_lt_tick 0
    injection h with h
    simp only [appTick, Prod.mk.injEq] at h
    rw [← h.2]
    simp only [remaining]
    omega
  · next ticks =>
    have bound := watch ticks
    have due := st.watch.deadline_le_next
    have later := fun takes => st.watch.deadline_lt_tick takes
    injection h with h
    unfold watchTick at h
    split at h
    · have later := later (s.pipeline.searchTakes st.searches)
      simp only [Prod.mk.injEq] at h
      rw [← h.2]
      simp only [remaining]
      omega
    · simp only [Prod.mk.injEq] at h
      rw [← h.2]
      simp only [remaining]
      generalize hd : (Timer.tick st.watch _).deadline = d
      have later : st.watch.deadline < d := hd ▸ later _
      omega
  · next r ends =>
    injection h with h
    simp only [requestEnd, Prod.mk.injEq] at h
    rw [← h.2]
    simp only [remaining, due_requestEnd ends, reduceCtorEq, if_false, if_true]
    omega

def runFrom (s : Setup) (st : State) : List Moment × State :=
  match _taken : step? s st with
  | none => ([], st)
  | some (moments, st') =>
    let (rest, last) := runFrom s st'
    (moments ++ rest, last)
termination_by remaining s st
decreasing_by exact remaining_step _taken

/-- A whole run: what happened, the last state, and when the last task had ended. -/
structure Run where
  moments : List Moment
  last : State
  finished : Nat

def run? (s : Setup) : Option Run :=
  (start? s).map fun st =>
    let (moments, last) := runFrom s st
    { moments
      last
      finished := max s.shutdownAt (max last.app.free (max last.http.free last.watch.free)) }

end Monitor
end DeliveryProbe
