import DeliveryProbe.Monitor.Run
import Mathlib.Data.List.Basic
import Mathlib.Data.List.Nodup

/-! What a run of the monitor has done up to a state, read off its moments. Every emission goes by its number
on its channel; the markers and lines that a state holds are those of emissions that have begun. -/
namespace DeliveryProbe

structure Configuration.Periodic (c : Configuration) : Prop where
  app : 0 < c.appIntervalMillis
  http : 0 < c.httpIntervalMillis
  watch : 0 < c.watchIntervalMillis

theorem positive_ok {settings : Settings} {k : NumberSetting} {n : Nat} (ok : settings.positive k = .ok n) : 0 < n := by
  unfold Settings.positive at ok
  dsimp only at ok
  split at ok
  · contradiction
  · next some =>
    obtain rfl := Except.ok.inj ok
    exact Nat.pos_of_ne_zero some

theorem exists_of_bind_ok {ε α β : Type} {x : Except ε α} {f : α → Except ε β} {b : β} (ok : x >>= f = .ok b) :
    ∃ a, x = .ok a ∧ f a = .ok b := by
  cases x with
  | error fault => contradiction
  | ok a => exact ⟨a, rfl, ok⟩

theorem periodic_of_finish {settings : Settings} {config : Configuration} (ok : settings.finish = .ok config) :
    config.Periodic := by
  obtain ⟨_, -, ok⟩ := exists_of_bind_ok ok
  obtain ⟨_, -, ok⟩ := exists_of_bind_ok ok
  obtain ⟨_, -, ok⟩ := exists_of_bind_ok ok
  obtain ⟨_, -, ok⟩ := exists_of_bind_ok ok
  obtain ⟨_, -, ok⟩ := exists_of_bind_ok ok
  obtain ⟨_, app, ok⟩ := exists_of_bind_ok ok
  obtain ⟨_, http, ok⟩ := exists_of_bind_ok ok
  obtain ⟨_, watch, ok⟩ := exists_of_bind_ok ok
  obtain rfl := Except.ok.inj ok
  exact ⟨positive_ok app, positive_ok http, positive_ok watch⟩

namespace Monitor

/-- An emission of a channel: how many there were before it, and when it began. -/
structure Origin where
  call : Nat
  begun : Nat
  deriving DecidableEq, Repr

namespace Moment

/-- When an emission of a channel begins: the writing of an application line, or a request. -/
def emission? (c : Channel) (m : Moment) : Option Nat :=
  match c, m.action with
  | .app, .appWrite _ => some m.time
  | .http, .get _ => some m.time
  | _, _ => none

def registration? (c : Channel) (m : Moment) : Option Marker :=
  match m.action with
  | .registered d marker => if d = c then some marker else none
  | _ => none

def sample? (c : Channel) (m : Moment) : Option (Nat × Sample) :=
  match m.action with
  | .write sample => if sample.channel = c then some (m.time, sample) else none
  | _ => none

end Moment

def emissions (c : Channel) (ms : List Moment) : List Origin :=
  (ms.filterMap (Moment.emission? c)).mapIdx fun call begun => { call, begun }

def Emitted (c : Channel) (ms : List Moment) (o : Origin) : Prop := o ∈ emissions c ms

def registered (c : Channel) (ms : List Moment) : List Marker := ms.filterMap (Moment.registration? c)

/-- The samples of a channel handed to the metric store, with their times, whatever became of them. -/
def written (c : Channel) (ms : List Moment) : List (Nat × Sample) := ms.filterMap (Moment.sample? c)

def Setup.fails (s : Setup) (c : Channel) (call : Nat) : Bool :=
  match c with
  | .app => s.pipeline.appFails call
  | .http => s.pipeline.getFails call

/-- An emission that has begun and does not fail. -/
structure Sent (s : Setup) (c : Channel) (ms : List Moment) (o : Origin) : Prop where
  emitted : Emitted c ms o
  works : s.fails c o.call = false

def Setup.marker (s : Setup) (c : Channel) (o : Origin) : Marker :=
  match c with
  | .app => .ofApp (s.number .app o.call) (s.clock o.begun)
  | .http => .ofHttp (s.number .http o.call) (s.clock o.begun)

def Setup.ended (s : Setup) (o : Origin) : Nat := o.begun + s.pipeline.getTakes o.call

/-- How long after its beginning the line of an emission becomes searchable. -/
def Setup.delay (s : Setup) (c : Channel) (call : Nat) : Nat :=
  match c with
  | .app => s.pipeline.appDelay call
  | .http => s.pipeline.getTakes call + s.pipeline.httpDelay call

/-- The log line that an emission leaves, if it is not lost. -/
def Setup.line (s : Setup) (c : Channel) (o : Origin) : Pipeline.Line :=
  { message :=
      match c with
      | .app => Pipeline.appMessage (s.number .app o.call)
      | .http => Pipeline.accessMessage (Endpoint.sample s.config.monitoredUrl (s.number .http o.call))
    visibleAt := o.begun + s.delay c o.call }

section Views
variable (c : Channel) (ms ms' : List Moment)

@[simp] theorem registered_append : registered c (ms ++ ms') = registered c ms ++ registered c ms' :=
  List.filterMap_append

@[simp] theorem written_append : written c (ms ++ ms') = written c ms ++ written c ms' :=
  List.filterMap_append

theorem emissions_append : ∃ later, emissions c (ms ++ ms') = emissions c ms ++ later := by
  rw [emissions, List.filterMap_append, List.mapIdx_append]
  exact ⟨_, rfl⟩

variable {c ms ms'}

theorem emissions_quiet (quiet : ms'.filterMap (Moment.emission? c) = []) :
    emissions c (ms ++ ms') = emissions c ms := by
  rw [emissions, List.filterMap_append, quiet, List.append_nil, emissions]

theorem emissions_concat (time : Nat) (begins : ms'.filterMap (Moment.emission? c) = [time]) :
    emissions c (ms ++ ms') = emissions c ms ++ [{ call := (emissions c ms).length, begun := time }] := by
  simp [emissions, List.filterMap_append, begins, List.mapIdx_append]

theorem Emitted.mono {o : Origin} (emitted : Emitted c ms o) (ms' : List Moment) : Emitted c (ms ++ ms') o := by
  obtain ⟨later, grown⟩ := emissions_append c ms ms'
  rw [Emitted, grown]
  exact List.mem_append_left later emitted

theorem Sent.mono {s : Setup} {o : Origin} (sent : Sent s c ms o) (ms' : List Moment) : Sent s c (ms ++ ms') o :=
  ⟨sent.emitted.mono ms', sent.works⟩

theorem emissions_calls (c : Channel) (ms : List Moment) :
    (emissions c ms).map (·.call) = List.range (emissions c ms).length := by
  apply List.ext_getElem
  · simp
  · intro n before after
    simp [emissions]

theorem emissions_calls_nodup (c : Channel) (ms : List Moment) : ((emissions c ms).map (·.call)).Nodup := by
  rw [emissions_calls]
  exact List.nodup_range

theorem emissions_nodup (c : Channel) (ms : List Moment) : (emissions c ms).Nodup :=
  List.Nodup.of_map _ (emissions_calls_nodup c ms)

theorem origin_eq_of_call {o o' : Origin} (emitted : Emitted c ms o) (emitted' : Emitted c ms o')
    (same : o.call = o'.call) : o = o' :=
  List.inj_on_of_nodup_map (emissions_calls_nodup c ms) emitted emitted' same

end Views

/-- What a run has done, and the state it has come to by it. -/
inductive Reached (s : Setup) : List Moment → State → Prop where
  | start {st : State} : start? s = some st → Reached s [] st
  | step {ms moments : List Moment} {st st' : State} :
      Reached s ms st → step? s st = some (moments, st') → Reached s (ms ++ moments) st'

section Run
variable {s : Setup}

structure Fresh (st : State) : Prop where
  request : st.request = none
  tracker : st.tracker = .empty
  lines : st.lines = []
  appCalls : st.appCalls = 0
  getCalls : st.getCalls = 0
  searches : st.searches = 0
  writes : st.writes = 0

theorem fresh_of_start {st : State} (starts : start? s = some st) : Fresh st := by
  unfold start? at starts
  split at starts
  · split at starts
    · split at starts
      · obtain rfl := Option.some.inj starts
        exact ⟨rfl, rfl, rfl, rfl, rfl, rfl, rfl⟩
      · contradiction
    · contradiction
  · contradiction

theorem reached_runFrom {ms : List Moment} {st : State} (reached : Reached s ms st) :
    Reached s (ms ++ (runFrom s st).1) (runFrom s st).2 ∧ step? s (runFrom s st).2 = none := by
  induction st using runFrom.induct s generalizing ms with
  | case1 st ended =>
    rw [runFrom]
    split
    · exact ⟨by rwa [List.append_nil], ended⟩
    · next taken =>
      rw [ended] at taken
      contradiction
  | case2 st moments st' taken rest last same ih =>
    obtain ⟨there, ended⟩ := ih (reached.step taken)
    rw [runFrom]
    split
    · next none =>
      rw [none] at taken
      contradiction
    · next moments' st'' taken' =>
      rw [taken] at taken'
      obtain ⟨rfl, rfl⟩ := Prod.mk.inj (Option.some.inj taken')
      exact ⟨by rwa [List.append_assoc] at there, ended⟩

theorem run?_isSome (periodic : s.config.Periodic) : ∃ r, run? s = some r := by
  have starts : ∃ st, start? s = some st := by
    unfold start?
    rw [dif_pos periodic.app, dif_pos periodic.http, dif_pos periodic.watch]
    exact ⟨_, rfl⟩
  obtain ⟨st, starts⟩ := starts
  rw [run?, starts]
  exact ⟨_, rfl⟩

/-- The things done from a state on until nothing is left to do, if they are fewer than the given number. -/
def runWithin (s : Setup) : Nat → State → Option (List Moment × State)
  | 0, _ => none
  | n + 1, st =>
    match step? s st with
    | none => some ([], st)
    | some (moments, st') => (runWithin s n st').map fun (rest, last) => (moments ++ rest, last)

/-- A run is worked out by any number of steps that is large enough. -/
theorem runFrom_of_runWithin {n : Nat} {st : State} {out : List Moment × State}
    (within : runWithin s n st = some out) : runFrom s st = out := by
  induction n generalizing st out with
  | zero => contradiction
  | succ n ih =>
    rw [runFrom]
    cases taken : step? s st with
    | none =>
      simp only [runWithin, taken, Option.some.injEq] at within
      split
      · exact within
      · contradiction
    | some next =>
      simp only [runWithin, taken] at within
      obtain ⟨rest, later, rfl⟩ := Option.map_eq_some_iff.mp within
      split
      · contradiction
      · next moments st' same =>
        obtain rfl := Option.some.inj same
        rw [ih later]

theorem run?_of_runWithin {n : Nat} {out : List Moment × State}
    (within : (start? s).bind (runWithin s n) = some out) :
    ∃ r, run? s = some r ∧ r.moments = out.1 ∧ r.last = out.2 := by
  obtain ⟨st, starts, steps⟩ := Option.bind_eq_some_iff.mp within
  rw [run?, starts]
  refine ⟨_, rfl, ?_, ?_⟩
  · exact congrArg Prod.fst (runFrom_of_runWithin steps)
  · exact congrArg Prod.snd (runFrom_of_runWithin steps)

theorem reached_run {r : Run} (ran : run? s = some r) :
    Reached s r.moments r.last ∧ step? s r.last = none ∧
      r.finished = max s.shutdownAt (max r.last.app.free (max r.last.http.free r.last.watch.free)) := by
  obtain ⟨st, starts, rfl⟩ := Option.map_eq_some_iff.mp ran
  obtain ⟨reached, ended⟩ := reached_runFrom (Reached.start starts)
  exact ⟨reached, ended, rfl⟩

/-- A tick is the next thing: no other tick begins before it, nor does the shutdown come or the request in
progress end. -/
structure Turn (s : Setup) (st : State) (t : Timer) : Prop where
  app : t.next ≤ st.app.next
  http : t.next ≤ st.http.next
  watch : t.next ≤ st.watch.next
  early : t.next < s.shutdownAt
  idle : ∀ r, st.request = some r → t.next < r.ends

/-- The things that a run can do next, with what is known of the times when it does them. -/
inductive Next (s : Setup) (st : State) : List Moment × State → Prop where
  | httpTick (turn : Turn s st st.http) : Next s st (httpTick s st)
  | appTick (turn : Turn s st st.app) : Next s st (appTick s st)
  | watchTick (turn : Turn s st st.watch) : Next s st (watchTick s st)
  | requestEnd {r : Request} (active : st.request = some r)
      (due : min r.ends s.shutdownAt ≤ min st.http.next (min st.app.next st.watch.next)) :
      Next s st (requestEnd s st r (r.ends ≤ watcherEnd s st))

theorem due_requestEnd_time {st : State} {r : Request} (ends : due s st = .requestEnd r) :
    min r.ends s.shutdownAt ≤ min st.http.next (min st.app.next st.watch.next) := by
  have active := due_requestEnd ends
  unfold due at ends
  rw [active] at ends
  by_contra early
  simp only [if_pos (Nat.lt_of_not_le early)] at ends
  unfold dueTick at ends
  split at ends
  · contradiction
  · split at ends
    · contradiction
    · split at ends <;> contradiction

theorem idle_of_tick {st : State} (ticks : ∀ r, due s st ≠ .requestEnd r) :
    due s st = dueTick s st ∧
      ∀ r, st.request = some r → min st.http.next (min st.app.next st.watch.next) < r.ends := by
  unfold due at ticks ⊢
  cases request : st.request with
  | none => exact ⟨rfl, fun _ impossible => nomatch impossible⟩
  | some r =>
    by_cases early : min st.http.next (min st.app.next st.watch.next) < min r.ends s.shutdownAt
    · simp only [if_pos early, true_and]
      intro r' same
      obtain rfl := Option.some.inj same
      exact Nat.lt_of_lt_of_le early (Nat.min_le_left _ _)
    · have ends := ticks r
      simp only [request, if_neg early] at ends
      exact absurd rfl ends

theorem dueTick_cases (s : Setup) (st : State) :
    dueTick s st = .stop ∧ s.shutdownAt ≤ min st.http.next (min st.app.next st.watch.next) ∨
      ∃ t : Timer, (dueTick s st = .httpTick ∧ t = st.http ∨ dueTick s st = .appTick ∧ t = st.app ∨
          dueTick s st = .watchTick ∧ t = st.watch) ∧
        t.next = min st.http.next (min st.app.next st.watch.next) ∧ t.next < s.shutdownAt := by
  unfold dueTick
  split
  · next ended => exact .inl ⟨rfl, ended⟩
  · split
    · exact .inr ⟨st.http, .inl ⟨rfl, rfl⟩, by omega, by omega⟩
    · split
      · exact .inr ⟨st.app, .inr (.inl ⟨rfl, rfl⟩), by omega, by omega⟩
      · exact .inr ⟨st.watch, .inr (.inr ⟨rfl, rfl⟩), by omega, by omega⟩

theorem next_of_step {st : State} {out : List Moment × State} (taken : step? s st = some out) :
    Next s st out := by
  by_cases ends : ∃ r, due s st = .requestEnd r
  · obtain ⟨r, ends⟩ := ends
    simp only [step?, ends, Option.some.injEq] at taken
    rw [← taken]
    exact .requestEnd (due_requestEnd ends) (due_requestEnd_time ends)
  · obtain ⟨same, idle⟩ := idle_of_tick (not_exists.mp ends)
    rcases dueTick_cases s st with ⟨stops, -⟩ | ⟨t, ticks, first, early⟩
    · simp only [step?, same, stops, reduceCtorEq] at taken
    · have turn : Turn s st t :=
        { app := by omega
          http := by omega
          watch := by omega
          early
          idle := fun r active => first ▸ idle r active }
      rcases ticks with ⟨ticks, rfl⟩ | ⟨ticks, rfl⟩ | ⟨ticks, rfl⟩ <;>
        simp only [step?, same, ticks, Option.some.injEq] at taken <;> rw [← taken]
      · exact .httpTick turn
      · exact .appTick turn
      · exact .watchTick turn

/-- A run that has come to its end waits for no request, and no tick begins before the shutdown. -/
theorem over_of_step {st : State} (ended : step? s st = none) :
    st.request = none ∧ s.shutdownAt ≤ min st.http.next (min st.app.next st.watch.next) := by
  have ends : ∀ r, due s st ≠ .requestEnd r := by
    intro r ends
    simp only [step?, ends, reduceCtorEq] at ended
  obtain ⟨same, idle⟩ := idle_of_tick ends
  rcases dueTick_cases s st with ⟨-, past⟩ | ⟨t, ticks, -⟩
  · refine ⟨?_, past⟩
    cases request : st.request with
    | none => rfl
    | some r =>
      unfold due at same ends
      simp only [request] at same ends
      rw [if_neg (by omega)] at ends
      exact absurd rfl (ends r)
  · rcases ticks with ⟨ticks, -⟩ | ⟨ticks, -⟩ | ⟨ticks, -⟩ <;>
      simp only [step?, same, ticks, reduceCtorEq] at ended

end Run
end Monitor
end DeliveryProbe
