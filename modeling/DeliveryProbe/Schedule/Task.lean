import DeliveryProbe.Failure
import DeliveryProbe.Schedule.Shutdown
import DeliveryProbe.Schedule.Timer
import DeliveryProbe.Telemetry

/-! A periodic task from its start to its stop. Errors and panics of a tick are logged, and the task
goes on; a tick that has begun is never cut short. -/
namespace DeliveryProbe

/-- What a panic carries: a text that stands in the program, one put together for the occasion, or
something that is no text. -/
inductive PanicPayload where
  | literal (text : String)
  | composed (text : String)
  | other
  deriving DecidableEq, Repr

def PanicPayload.message : PanicPayload → String
  | .literal text | .composed text => text
  | .other => "unknown panic"

inductive TickResult where
  | done
  | failed (failure : Failure)
  | panicked (payload : PanicPayload)
  deriving DecidableEq, Repr

structure Tick where
  takes : Nat
  result : TickResult
  deriving DecidableEq, Repr

/-- A run of a periodic task: when its ticks began, when it ended, and what it logged. -/
structure TaskRun where
  starts : List Nat
  stopped : Nat
  logs : List LogRecord
  deriving DecidableEq

namespace Task

def schedulerTarget : String := "log_monitor::scheduler"

def entry (level : Level) (message task : String) (more : List (String × FieldValue)) : LogRecord :=
  { level, target := schedulerTarget, message, fields := ("task", .quoted task) :: more }

def startedLog (task : String) (period : Nat) : LogRecord :=
  entry .info "periodic task started" task [("period_ms", .plain (toString period))]

def stoppedLog (task : String) : LogRecord := entry .info "periodic task stopped" task []

def tickLog (task : String) : TickResult → List LogRecord
  | .done => []
  | .failed f => [entry .warn "tick failed" task [("error", .plain f.message)]]
  | .panicked payload =>
    [entry .error "tick panicked, continuing" task [("panic", .plain payload.message)]]

/-- Whether a tick begins although the sender has gone: it is due already, and the value says nothing of a
stop. This can happen only so often. -/
def Overlooks (shutdown : Shutdown) (chances : Nat) (t : Timer) : Prop :=
  0 < chances ∧ t.deadline ≤ t.free ∧ shutdown.valueAt t.free = false

instance (shutdown : Shutdown) (chances : Nat) (t : Timer) : Decidable (Overlooks shutdown chances t) :=
  inferInstanceAs (Decidable (_ ∧ _))

/-- The run from a state of the timer on; `ticks n` is the tick that comes after `n` others. -/
def runFrom (task : String) (shutdown : Shutdown) (ticks : Nat → Tick) (chances : Nat) (t : Timer) (n : Nat) :
    TaskRun :=
  let stop := shutdown.stopFrom t.free
  if _running : t.next < stop ∨ Overlooks shutdown chances t then
    let tick := ticks n
    let left := if t.next < stop then chances else chances - 1
    let rest := runFrom task shutdown ticks left (t.tick tick.takes) (n + 1)
    { rest with starts := t.next :: rest.starts, logs := tickLog task tick.result ++ rest.logs }
  else { starts := [], stopped := stop, logs := [stoppedLog task] }
termination_by Shutdown.closing shutdown.signals + 1 - t.deadline + chances
decreasing_by
  have bound := shutdown.stopFrom_le t.free
  have later := t.deadline_lt_tick (ticks n).takes
  have due := t.deadline_le_next
  have free := t.free_le_next
  rcases _running with inTime | ⟨chance, -, -⟩ <;> split <;> omega

def run (task : String) (period : Nat) (period_pos : 0 < period) (first : FirstTick) (shutdown : Shutdown)
    (ticks : Nat → Tick) : TaskRun :=
  let r := runFrom task shutdown ticks shutdown.overlooked (.start period period_pos first) 0
  { r with logs := startedLog task period :: r.logs }

end Task
end DeliveryProbe
