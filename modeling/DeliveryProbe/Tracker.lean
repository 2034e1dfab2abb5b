import DeliveryProbe.Failure
import DeliveryProbe.Reconcile

/-! The tracker: markers wait in an intake when they are registered, and move from there into the
pending set of their channel before a search is judged. Registering needs a tracker that still
exists. -/
namespace DeliveryProbe

structure Registration where
  channel : Channel
  marker : Marker
  deriving DecidableEq, Repr

structure Tracker where
  app : List Marker
  http : List Marker
  /-- The intake, oldest first. -/
  waiting : List Registration
  deriving DecidableEq, Repr

namespace Tracker

def empty : Tracker := { app := [], http := [], waiting := [] }

def pending (t : Tracker) : Channel → List Marker
  | .app => t.app
  | .http => t.http

def setPending (t : Tracker) (markers : List Marker) : Channel → Tracker
  | .app => { t with app := markers }
  | .http => { t with http := markers }

def waitingOn (t : Tracker) (c : Channel) : List Marker :=
  (t.waiting.filter (·.channel = c)).map (·.marker)

/-- All markers of a channel that have not been resolved, oldest first. -/
def outstanding (t : Tracker) (c : Channel) : List Marker := t.pending c ++ t.waitingOn c

def register (t : Tracker) (c : Channel) (m : Marker) : Tracker :=
  { t with waiting := t.waiting ++ [{ channel := c, marker := m }] }

def accept (t : Tracker) (r : Registration) : Tracker :=
  t.setPending (t.pending r.channel ++ [r.marker]) r.channel

/-- Takes the registrations out of the intake, oldest first, and counts them. -/
def drainCounting (t : Tracker) : Nat × Tracker :=
  t.waiting.foldl (fun (count, t) r => (count + 1, t.accept r)) (0, { t with waiting := [] })

def drain (t : Tracker) : Tracker := t.drainCounting.2

/-- Judges the pending markers of a channel and keeps those that are still to be waited for. -/
def reconcile (t : Tracker) (c : Channel) (events : List Event) (now : Instant) (limits : Thresholds) :
    List Resolution × Tracker :=
  let r := DeliveryProbe.reconcile (t.pending c) events now limits
  (r.resolved, t.setPending r.retained c)

@[simp] theorem pending_setPending (t : Tracker) (markers : List Marker) (c : Channel) :
    (t.setPending markers c).pending c = markers := by cases c <;> rfl

theorem pending_setPending_of_ne (t : Tracker) (markers : List Marker) {c d : Channel} (ne : d ≠ c) :
    (t.setPending markers d).pending c = t.pending c := by
  cases c <;> cases d <;> first | rfl | contradiction

@[simp] theorem waiting_setPending (t : Tracker) (markers : List Marker) (c : Channel) :
    (t.setPending markers c).waiting = t.waiting := by cases c <;> rfl

@[simp] theorem pending_empty (c : Channel) : empty.pending c = [] := by cases c <;> rfl

@[simp] theorem pending_register (t : Tracker) (c d : Channel) (m : Marker) :
    (t.register d m).pending c = t.pending c := by cases c <;> rfl

theorem waitingOn_register (t : Tracker) (c d : Channel) (m : Marker) :
    (t.register d m).waitingOn c = t.waitingOn c ++ if d = c then [m] else [] := by
  by_cases same : d = c <;> simp [waitingOn, register, same]

theorem outstanding_register (t : Tracker) (c d : Channel) (m : Marker) :
    (t.register d m).outstanding c = t.outstanding c ++ if d = c then [m] else [] := by
  rw [outstanding, pending_register, waitingOn_register, outstanding, List.append_assoc]

/-- Taking registrations out of the intake counts each of them, and puts each behind the pending
markers of its channel. -/
theorem foldl_accept (rs : List Registration) (count : Nat) (t : Tracker) :
    rs.foldl (fun (count, t) r => (count + 1, t.accept r)) (count, t) =
      (count + rs.length,
        { app := t.app ++ (rs.filter (·.channel = .app)).map (·.marker)
          http := t.http ++ (rs.filter (·.channel = .http)).map (·.marker)
          waiting := t.waiting }) := by
  induction rs generalizing count t with
  | nil => simp
  | cons r rs ih =>
    rw [List.foldl_cons, ih]
    obtain ⟨c, m⟩ := r
    cases c <;> simp [accept, setPending, pending, Nat.add_assoc, Nat.add_comm 1]

theorem drainCounting_eq (t : Tracker) :
    t.drainCounting =
      (t.waiting.length, { app := t.outstanding .app, http := t.outstanding .http, waiting := [] }) := by
  rw [drainCounting, foldl_accept, Nat.zero_add]
  rfl

@[simp] theorem drainCounting_count (t : Tracker) : t.drainCounting.1 = t.waiting.length := by
  rw [drainCounting_eq]

theorem drain_eq (t : Tracker) :
    t.drain = { app := t.outstanding .app, http := t.outstanding .http, waiting := [] } := by
  rw [drain, drainCounting_eq]

@[simp] theorem pending_drain (t : Tracker) (c : Channel) : t.drain.pending c = t.outstanding c := by
  rw [drain_eq]
  cases c <;> rfl

@[simp] theorem waiting_drain (t : Tracker) : t.drain.waiting = [] := by rw [drain_eq]

@[simp] theorem waitingOn_drain (t : Tracker) (c : Channel) : t.drain.waitingOn c = [] := by
  simp [waitingOn]

@[simp] theorem outstanding_drain (t : Tracker) (c : Channel) : t.drain.outstanding c = t.outstanding c := by
  rw [outstanding, pending_drain, waitingOn_drain, List.append_nil]

@[simp] theorem pending_reconcile (t : Tracker) (c : Channel) (events : List Event) (now : Instant)
    (limits : Thresholds) :
    (t.reconcile c events now limits).2.pending c =
      (t.pending c).filter fun m => (m.judge events now limits).isNone := by
  simp [reconcile, DeliveryProbe.reconcile]

theorem pending_reconcile_of_ne (t : Tracker) {c d : Channel} (ne : d ≠ c) (events : List Event)
    (now : Instant) (limits : Thresholds) :
    (t.reconcile d events now limits).2.pending c = t.pending c :=
  pending_setPending_of_ne t _ ne

@[simp] theorem waiting_reconcile (t : Tracker) (c : Channel) (events : List Event) (now : Instant)
    (limits : Thresholds) : (t.reconcile c events now limits).2.waiting = t.waiting := by
  simp [reconcile]

@[simp] theorem waitingOn_reconcile (t : Tracker) (c d : Channel) (events : List Event) (now : Instant)
    (limits : Thresholds) : (t.reconcile d events now limits).2.waitingOn c = t.waitingOn c := by
  simp [waitingOn]

theorem resolutions_reconcile (t : Tracker) (c : Channel) (events : List Event) (now : Instant)
    (limits : Thresholds) :
    (t.reconcile c events now limits).1 = (t.pending c).filterMap fun m => m.judge events now limits :=
  rfl

def registerWith (t : Option Tracker) (c : Channel) (m : Marker) : Except Failure (Option Tracker) :=
  match t with
  | some t => .ok (some (t.register c m))
  | none => .error .intakeClosed

inductive Step where
  | register (channel : Channel) (marker : Marker)
  | drain
  | reconcile (channel : Channel) (events : List Event) (now : Instant) (limits : Thresholds)
  /-- The tracker ends, and all it holds with it. -/
  | drop

inductive Reply where
  | done
  | refused (failure : Failure)
  | drained (count : Nat)
  | resolved (resolutions : List Resolution)
  | gone

def step (t? : Option Tracker) : Step → Reply × Option Tracker
  | .register c m =>
    match registerWith t? c m with
    | .ok t => (.done, t)
    | .error f => (.refused f, t?)
  | .drop => (.done, none)
  | .drain =>
    match t? with
    | some t =>
      let (count, t) := t.drainCounting
      (.drained count, some t)
    | none => (.gone, none)
  | .reconcile c events now limits =>
    match t? with
    | some t =>
      let (resolutions, t) := t.reconcile c events now limits
      (.resolved resolutions, some t)
    | none => (.gone, none)

def after (t? : Option Tracker) (steps : List Step) : Option Tracker :=
  steps.foldl (fun t? s => (step t? s).2) t?

/-- The replies to a sequence of steps, each with the tracker it leaves behind. -/
def run : Option Tracker → List Step → List (Reply × Option Tracker)
  | _, [] => []
  | t, s :: steps =>
    let answer := step t s
    answer :: run answer.2 steps

theorem getElem?_run (t? : Option Tracker) (steps : List Step) (n : Nat) :
    (run t? steps)[n]? = steps[n]?.map (step (after t? (steps.take n))) := by
  induction steps generalizing t? n with
  | nil => simp [run]
  | cons s steps ih =>
    cases n with
    | zero => rfl
    | succ n => simpa [run, after] using ih (step t? s).2 n

end Tracker
end DeliveryProbe
