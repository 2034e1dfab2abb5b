import DeliveryProbe.Emitter
import DeliveryProbe.Watcher

/-! A session: one watcher, both emitters and a recorder around one tracker and a clock that moves
only when told to, driven step by step. -/
namespace DeliveryProbe

structure Session.Setup where
  watcher : Watcher
  monitoredUrl : String
  /-- Whether the metric store only says what it would write. -/
  announces : Bool
  /-- The numbers that the two emitters take, by how many each has taken before. -/
  number : Channel → Nat → String

structure Session where
  tracker : Option Tracker
  now : Instant
  taken : Channel → Nat

namespace Session

/-- One step, with the answers that the systems around give. A list of write answers is used up
write by write; a write beyond its end succeeds. -/
inductive Step where
  | register (channel : Channel) (id : String) (emittedAt : Option Instant)
  | emitApp (written : Except Failure Unit)
  | emitHttp (reply : Except Failure Nat)
  | advance (nanos : Int)
  | set (instant : Instant)
  | record (channel : Channel) (successful : Bool) (drift : Binary64) (writes : List (Except Failure Unit))
  | watch (search : Search.Reply) (writes : List (Except Failure Unit))
  | dropWatcher

inductive Reply where
  | done
  | refused (failure : Failure)
  | emitted (marker : Marker)
  | resolved (resolutions : List (Channel × Resolution))
  /-- The clock would leave the representable years, and stays. -/
  | outOfRange
  | gone

structure Answer where
  reply : Reply
  trace : Trace

def start (now : Instant) : Session := { tracker := some .empty, now, taken := fun _ => 0 }

def sinkOf (setup : Setup) (writes : List (Except Failure Unit)) : Sink :=
  { announces := setup.announces, answer := fun n => (writes[n]?).getD (.ok ()) }

def take (s : Session) (c : Channel) : Session :=
  { s with taken := fun d => if d = c then s.taken d + 1 else s.taken d }

def ofEmission (s : Session) (c : Channel) (e : Emission) : Answer × Session :=
  let reply :=
    match e.result with
    | .ok m => .emitted m
    | .error f => .refused f
  ({ reply, trace := e.trace }, { s.take c with tracker := e.tracker })

def step (setup : Setup) (s : Session) : Step → Answer × Session
  | .register c id emittedAt =>
    match Tracker.registerWith s.tracker c { id, emittedAt := emittedAt.getD s.now } with
    | .ok t => ({ reply := .done, trace := [] }, { s with tracker := t })
    | .error f => ({ reply := .refused f, trace := [] }, s)
  | .emitApp written =>
    s.ofEmission .app (Emission.app s.tracker (setup.number .app (s.taken .app)) s.now written)
  | .emitHttp reply =>
    s.ofEmission .http
      (Emission.http s.tracker setup.monitoredUrl (setup.number .http (s.taken .http)) s.now reply)
  | .advance nanos =>
    match s.now.shift? nanos with
    | some now => ({ reply := .done, trace := [] }, { s with now })
    | none => ({ reply := .outOfRange, trace := [] }, s)
  | .set now => ({ reply := .done, trace := [] }, { s with now })
  | .record c successful drift writes =>
    let (written, trace) :=
      DeliveryProbe.record setup.watcher.system c successful drift (sinkOf setup writes) 0
    let reply :=
      match written with
      | .ok () => .done
      | .error f => .refused f
    ({ reply, trace }, s)
  | .watch search writes =>
    match s.tracker with
    | none => ({ reply := .gone, trace := [] }, s)
    | some t =>
      let p := setup.watcher.pass t search (fun _ _ => s.now) (sinkOf setup writes) 0
      let reply :=
        match p.result with
        | .ok rs => .resolved rs
        | .error f => .refused f
      ({ reply, trace := p.trace }, { s with tracker := some p.tracker })
  | .dropWatcher => ({ reply := .done, trace := [] }, { s with tracker := none })

def after (setup : Setup) (s : Session) (steps : List Step) : Session :=
  steps.foldl (fun s next => (s.step setup next).2) s

/-- The answers to a sequence of steps, each with the session it leaves behind. -/
def run (setup : Setup) : Session → List Step → List (Answer × Session)
  | _, [] => []
  | s, next :: steps =>
    let answer := s.step setup next
    answer :: run setup answer.2 steps

theorem getElem?_run (setup : Setup) (s : Session) (steps : List Step) (n : Nat) :
    (run setup s steps)[n]? = steps[n]?.map ((after setup s (steps.take n)).step setup) := by
  induction steps generalizing s n with
  | nil => simp [run]
  | cons next steps ih =>
    cases n with
    | zero => rfl
    | succ n => simpa [run, after] using ih (s.step setup next).2 n

theorem run_append (setup : Setup) (s : Session) (first second : List Step) :
    run setup s (first ++ second) = run setup s first ++ run setup (after setup s first) second := by
  induction first generalizing s with
  | nil => rfl
  | cons next first ih => simpa [run, after] using ih (s.step setup next).2

end Session
end DeliveryProbe
