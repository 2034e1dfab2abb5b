import DeliveryProbe.Proofs.Accounting

/-! Sessions whose requests take their time. Between a request and its answer anything can happen: the clock moves,
markers are emitted, passes are made, the watcher goes. What a session does in one step is done here by the same step,
and an emission by request is a request with an answer at once. -/
namespace DeliveryProbe

/-- A request that has no answer yet: the number it is for, and the clock's reading before it. -/
structure Traffic.Request where
  number : String
  begun : Instant
  deriving DecidableEq

structure Traffic where
  session : Session
  underway : List Traffic.Request

namespace Traffic
open Session (Setup Answer)

inductive Step where
  | turn (next : Session.Step)
  | request
  | answer (r : Request) (reply : Except Failure Nat)
  /-- A pass during which the clock may move. -/
  | pass (search : Search.Reply) (clock : Channel → Nat → Instant) (sink : Sink) (firstWrite : Nat)

def start (now : Instant) : Traffic := { session := Session.start now, underway := [] }

def step (setup : Setup) (x : Traffic) : Step → Answer × Traffic
  | .turn next =>
    let (answer, session) := x.session.step setup next
    (answer, { x with session })
  | .request =>
    let number := setup.number .http (x.session.taken .http)
    ({ reply := .done, trace := [.emitted (Endpoint.sample setup.monitoredUrl number)] },
      { session := x.session.take .http
        underway := { number, begun := x.session.now } :: x.underway })
  | .answer r reply =>
    if r ∈ x.underway then
      let e := Emission.httpAnswered x.session.tracker setup.monitoredUrl r.number r.begun reply
      ((x.session.ofEmission .http e).1,
        { session := { x.session with tracker := e.tracker }
          underway := x.underway.erase r })
    else ({ reply := .done, trace := [] }, x)
  | .pass search clock sink firstWrite =>
    match x.session.tracker with
    | none => ({ reply := .gone, trace := [] }, x)
    | some t =>
      let p := setup.watcher.pass t search clock sink firstWrite
      let reply :=
        match p.result with
        | .ok rs => .resolved rs
        | .error f => .refused f
      ({ reply, trace := p.trace }, { x with session := { x.session with tracker := some p.tracker } })

section Session
variable (setup : Setup) (x : Traffic)

/-- An emission by request is a request that is answered before anything else happens. -/
theorem step_emitHttp (reply : Except Failure Nat) :
    let r : Request := { number := setup.number .http (x.session.taken .http), begun := x.session.now }
    let asked := x.step setup .request
    let answered := asked.2.step setup (.answer r reply)
    x.step setup (.turn (.emitHttp reply)) =
      ({ reply := answered.1.reply, trace := asked.1.trace ++ answered.1.trace }, answered.2) := by
  intro r asked answered
  have listed : r ∈ asked.2.underway := List.mem_cons_self
  have settled : asked.2.underway.erase r = x.underway := List.erase_cons_head ..
  simp only [answered, step, if_pos listed, settled]
  rfl

/-- A pass of a session is one during which the clock stands. -/
theorem step_watch (search : Search.Reply) (writes : List (Except Failure Unit)) :
    x.step setup (.turn (.watch search writes)) =
      x.step setup (.pass search (fun _ _ => x.session.now) (Session.sinkOf setup writes) 0) := by
  simp only [step, Session.step]
  cases x.session.tracker <;> rfl

end Session

structure Turn where
  before : Traffic
  next : Step

def Turn.answer (setup : Setup) (turn : Turn) : Answer := (turn.before.step setup turn.next).1

def after (setup : Setup) (x : Traffic) (steps : List Step) : Traffic :=
  steps.foldl (fun x next => (x.step setup next).2) x

def run (setup : Setup) : Traffic → List Step → List Turn
  | _, [] => []
  | x, next :: steps => { before := x, next } :: run setup (x.step setup next).2 steps

theorem after_concat (setup : Setup) (x : Traffic) (steps : List Step) (next : Step) :
    after setup x (steps ++ [next]) = ((after setup x steps).step setup next).2 := List.foldl_concat ..

theorem run_concat (setup : Setup) (x : Traffic) (steps : List Step) (next : Step) :
    run setup x (steps ++ [next]) = run setup x steps ++ [{ before := after setup x steps, next }] := by
  induction steps generalizing x with
  | nil => rfl
  | cons first steps ih => exact congrArg (_ :: ·) (ih _)

end Traffic
end DeliveryProbe
