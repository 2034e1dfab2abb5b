import DeliveryProbe.Proofs.Custody
import DeliveryProbe.Proofs.Passes
import DeliveryProbe.Proofs.TickSpacing

/-! The timetable of a run. Each of its three tasks begins its ticks as it would by itself: its timer moves
only in its own ticks, which last what its own calls take, and no other task delays it. So the emitters keep
their times whatever the search and the metric store do. -/
namespace DeliveryProbe

namespace Shutdown

theorem stopsAt_once {time u : Nat} : (once time).stopsAt u = true ↔ time ≤ u := by
  simp [stopsAt, valueAt, closing, once, sent]

theorem valueAt_once {time u : Nat} : (once time).valueAt u = false ↔ u < time := by
  simp [valueAt, once, sent]

theorem stopFrom_once (time free : Nat) : (once time).stopFrom free = max free time := by
  have told := stopsAt_once.mp ((once time).stopsAt_stopFrom free)
  have waits := (once time).le_stopFrom free
  have bound : (once time).stopFrom free ≤ max free time := (once time).stopFrom_le free
  omega

end Shutdown

namespace Timer
variable {t : Timer} {takes takes' : Nat → Nat}

theorem before_congr {n : Nat} (same : ∀ k < n, takes k = takes' k) : t.before takes n = t.before takes' n := by
  induction n with
  | zero => rfl
  | succ n ih =>
    rw [before, before, ih fun k earlier => same k (Nat.lt_succ_of_lt earlier), same n (Nat.lt_succ_self n)]

end Timer

namespace Course
variable {time : Nat} {timers : Nat → Timer} {r : TaskRun}

/-- A task that is told to stop once begins the ticks that it would begin before then, and no others. -/
theorem starts_once (course : Course (.once time) timers r) {n : Nat} (early : ∀ k < n, (timers k).next < time)
    (late : time ≤ (timers n).next) : r.starts = (List.range n).map fun k => (timers k).next := by
  have inTime : ∀ k < r.starts.length, (timers k).next < time := by
    intro k within
    have free := (timers k).free_le_next
    rcases course.begins k within with before | ⟨overdue, lowered⟩
    · rw [Shutdown.stopFrom_once] at before
      omega
    · have earlier := Shutdown.valueAt_once.mp lowered
      rw [Timer.next, Nat.max_eq_right overdue]
      exact earlier
  have ends := course.ends
  rw [course.stopped, Shutdown.stopFrom_once] at ends
  have count : r.starts.length = n := by
    rcases Nat.lt_trichotomy r.starts.length n with fewer | same | more
    · have := early _ fewer
      omega
    · exact same
    · have := inTime n more
      omega
  rw [course.starts, count]

end Course

inductive Role where
  | emitter (c : Channel)
  | watcher
  deriving DecidableEq, Repr

def Role.first : Role → FirstTick
  | .emitter _ => .immediate
  | .watcher => .afterPeriod

def Configuration.interval (c : Configuration) : Role → Nat
  | .emitter .app => c.appIntervalMillis
  | .emitter .http => c.httpIntervalMillis
  | .watcher => c.watchIntervalMillis

theorem Configuration.Periodic.interval_pos {c : Configuration} (periodic : c.Periodic) :
    ∀ role, 0 < c.interval role
  | .emitter .app => periodic.app
  | .emitter .http => periodic.http
  | .watcher => periodic.watch

namespace Monitor

def State.timer (st : State) : Role → Timer
  | .emitter .app => st.app
  | .emitter .http => st.http
  | .watcher => st.watch

def Moment.begins? : Role → Moment → Option Nat
  | .emitter c => emission? c
  | .watcher => search?

def starts (role : Role) (ms : List Moment) : List Nat := ms.filterMap (Moment.begins? role)

/-- How long the ticks of a task last. An application line is written at once. -/
def Setup.lasts (s : Setup) (ms : List Moment) : Role → Nat → Nat
  | .emitter .app => fun _ => 0
  | .emitter .http => s.pipeline.getTakes
  | .watcher => s.passLasts ms

def Setup.firstTimer (s : Setup) (periodic : s.config.Periodic) (role : Role) : Timer :=
  .start (s.config.interval role) (periodic.interval_pos role) role.first

/-- A task of the monitor run by itself until the shutdown, with ticks that last as long as in a run. -/
def Setup.alone (s : Setup) (periodic : s.config.Periodic) (ms : List Moment) (role : Role) (name : String)
    (results : Nat → TickResult) : TaskRun :=
  Task.run name (s.config.interval role) (periodic.interval_pos role) role.first (.once s.shutdownAt) fun n =>
    { takes := s.lasts ms role n, result := results n }

theorem course_alone (s : Setup) (periodic : s.config.Periodic) (ms : List Moment) (role : Role) (name : String)
    (results : Nat → TickResult) :
    Course (.once s.shutdownAt) ((s.firstTimer periodic role).before (s.lasts ms role))
      (s.alone periodic ms role name results) :=
  Task.course_run name (s.config.interval role) (periodic.interval_pos role) role.first (.once s.shutdownAt) fun n =>
    { takes := s.lasts ms role n, result := results n }

section Steps
variable {s : Setup} {ms : List Moment} {st : State} {role : Role}

theorem starts_append (role : Role) (ms ms' : List Moment) :
    starts role (ms ++ ms') = starts role ms ++ starts role ms' := List.filterMap_append

theorem length_starts_emitter (c : Channel) (ms : List Moment) :
    (starts (.emitter c) ms).length = (emissions c ms).length := List.length_mapIdx.symm

theorem starts_watcher (ms : List Moment) : starts .watcher ms = (passes ms).map (·.begun) :=
  (passes_begun ms).symm

theorem starts_passMoments (t : Tracker) :
    (∀ c, starts (.emitter c) (passMoments s st t) = []) ∧
      starts .watcher (passMoments s st t) = [st.watch.next] := by
  constructor
  · intro c
    exact (views_passMoments s st c t).1
  · rw [starts_watcher, passes_passMoments]
    rfl

/-- What a step means for a task: nothing, or that its next tick begins, which lasts what is said of it. -/
inductive Advances (s : Setup) (ms : List Moment) (st : State) (out : List Moment × State) (role : Role) :
    Prop where
  | idle (starts : starts role out.1 = []) (timer : out.2.timer role = st.timer role)
      (lasts : s.lasts (ms ++ out.1) role = s.lasts ms role)
  | ticks (starts : starts role out.1 = [(st.timer role).next]) (early : (st.timer role).next < s.shutdownAt)
      (timer : out.2.timer role =
        (st.timer role).tick (s.lasts (ms ++ out.1) role (Monitor.starts role ms).length))
      (lasts : ∀ n < (Monitor.starts role ms).length, s.lasts (ms ++ out.1) role n = s.lasts ms role n)

theorem advances_watcher {out : List Moment × State} (next : Next s st out) (counted : Counted ms st) :
    Advances s ms st out .watcher := by
  rcases unwatched_or_passed next with idle | ⟨t, passed⟩
  · refine .idle ?_ idle.watch (funext (passLasts_unwatched idle))
    apply List.filterMap_eq_nil_iff.mpr
    intro m member
    exact (idle.others m member).1
  · have count : (starts .watcher ms).length = st.searches := by
      rw [starts_watcher, List.length_map, counted.searches]
    have lasts := passLasts_watchTick (s := s) counted t
    rw [passed.effect]
    refine .ticks (starts_passMoments t).2 passed.turn.early ?_ ?_
    · rw [count]
      exact congrArg st.watch.tick lasts.1.symm
    · rw [count]
      exact lasts.2

theorem starts_registrations (c d : Channel) (time : Nat) (e : Emission) :
    starts (.emitter c) (registrations time d e) = [] := by
  unfold registrations
  cases e.result <;> cases c <;> rfl

theorem advances_emitter {out : List Moment × State} (next : Next s st out) (consistent : Consistent s ms st)
    (c : Channel) : Advances s ms st out (.emitter c) := by
  cases next with
  | httpTick turn =>
    cases c with
    | app => exact .idle rfl rfl rfl
    | http =>
      refine .ticks rfl turn.early ?_ fun _ _ => rfl
      rw [length_starts_emitter, consistent.getCalls]
      rfl
  | appTick turn =>
    have silent := starts_registrations c .app
    cases c with
    | app => exact .ticks (congrArg (st.app.next :: ·) (silent _ _)) turn.early rfl fun _ _ => rfl
    | http => exact .idle (silent _ _) rfl rfl
  | watchTick =>
    obtain ⟨t, -, effect⟩ := watchTick_eq s st
    rw [effect]
    cases c <;> exact .idle ((starts_passMoments t).1 _) rfl rfl
  | requestEnd =>
    have silent := starts_registrations c .http
    cases c <;> exact .idle (silent _ _) rfl rfl

theorem advances_step (reached : Reached s ms st) {out : List Moment × State} (next : Next s st out)
    (role : Role) : Advances s ms st out role := by
  cases role with
  | emitter c => exact advances_emitter next (consistent_reached reached) c
  | watcher => exact advances_watcher next (counted_reached reached)

/-- A task has had its ticks when a timer of its own says so, and all of them before the shutdown. -/
structure Punctual (s : Setup) (first : Timer) (ms : List Moment) (st : State) (role : Role) : Prop where
  timer : st.timer role = first.before (s.lasts ms role) (starts role ms).length
  starts : starts role ms =
    (List.range (starts role ms).length).map fun n => (first.before (s.lasts ms role) n).next
  early : ∀ time ∈ Monitor.starts role ms, time < s.shutdownAt

theorem Punctual.start_of_lt {first : Timer} (punctual : Punctual s first ms st role) {n : Nat}
    (within : n < (Monitor.starts role ms).length) :
    (Monitor.starts role ms)[n]? = some (first.before (s.lasts ms role) n).next := by
  rw [punctual.starts, List.getElem?_map, List.getElem?_range within, Option.map_some]

theorem punctual_advances {first : Timer} (punctual : Punctual s first ms st role)
    {out : List Moment × State} (advances : Advances s ms st out role) :
    Punctual s first (ms ++ out.1) out.2 role := by
  cases advances with
  | idle starts timer lasts =>
    have same : Monitor.starts role (ms ++ out.1) = Monitor.starts role ms := by
      rw [starts_append, starts, List.append_nil]
    constructor
    case timer =>
      rw [timer, lasts, same]
      exact punctual.timer
    case starts =>
      rw [lasts, same]
      exact punctual.starts
    case early =>
      rw [same]
      exact punctual.early
  | ticks starts early timer lasts =>
    have grown : Monitor.starts role (ms ++ out.1) = Monitor.starts role ms ++ [(st.timer role).next] := by
      rw [starts_append, starts]
    -- The tick that begins now has no say in where the timer stood before it.
    have stands (n : Nat) (within : n ≤ (Monitor.starts role ms).length) :
        first.before (s.lasts (ms ++ out.1) role) n = first.before (s.lasts ms role) n :=
      Timer.before_congr fun k earlier => lasts k (Nat.lt_of_lt_of_le earlier within)
    have due : (first.before (s.lasts (ms ++ out.1) role) (Monitor.starts role ms).length) = st.timer role := by
      rw [stands _ (Nat.le_refl _), ← punctual.timer]
    constructor
    case timer => rw [grown, List.length_append, List.length_singleton, Timer.before, due, timer]
    case starts =>
      rw [grown, List.length_append, List.length_singleton, List.range_succ, List.map_append, List.map_singleton,
        due]
      refine congrArg (· ++ _) (punctual.starts.trans (List.map_congr_left fun n member => ?_))
      rw [stands n (Nat.le_of_lt (List.mem_range.mp member))]
    case early =>
      intro time member
      rw [grown, List.mem_append, List.mem_singleton] at member
      rcases member with old | rfl
      · exact punctual.early time old
      · exact early

theorem punctual_reached (periodic : s.config.Periodic) (reached : Reached s ms st) (role : Role) :
    Punctual s (s.firstTimer periodic role) ms st role := by
  induction reached with
  | @start st starts =>
    have first : st.timer role = s.firstTimer periodic role := by
      rw [start?, dif_pos periodic.app, dif_pos periodic.http, dif_pos periodic.watch] at starts
      obtain rfl := Option.some.inj starts
      cases role with
      | emitter c => cases c <;> rfl
      | watcher => rfl
    refine ⟨first, rfl, ?_⟩
    intro time member
    contradiction
  | step before taken ih => exact punctual_advances ih (advances_step before (next_of_step taken) role)

end Steps

section Runs
variable {s : Setup} {r : Run}

theorem shutdownAt_le_next (ran : run? s = some r) (role : Role) : s.shutdownAt ≤ (r.last.timer role).next := by
  obtain ⟨-, ended, -⟩ := reached_run ran
  obtain ⟨-, past⟩ := over_of_step ended
  cases role with
  | emitter c =>
    cases c with
    | app => exact Nat.le_trans past (Nat.le_trans (Nat.min_le_right _ _) (Nat.min_le_left _ _))
    | http => exact Nat.le_trans past (Nat.min_le_left _ _)
  | watcher => exact Nat.le_trans past (Nat.le_trans (Nat.min_le_right _ _) (Nat.min_le_right _ _))

/-- The ticks of each task are those of the task alone, whatever becomes of them. -/
theorem starts_alone (periodic : s.config.Periodic) (ran : run? s = some r) (role : Role) (name : String)
    (results : Nat → TickResult) :
    starts role r.moments = (s.alone periodic r.moments role name results).starts := by
  obtain ⟨reached, -, -⟩ := reached_run ran
  have punctual := punctual_reached periodic reached role
  have course := course_alone s periodic r.moments role name results
  have late := shutdownAt_le_next ran role
  rw [punctual.timer] at late
  have early : ∀ k < (starts role r.moments).length,
      ((s.firstTimer periodic role).before (s.lasts r.moments role) k).next < s.shutdownAt := by
    intro k within
    exact punctual.early _ (List.mem_of_getElem? (punctual.start_of_lt within))
  exact punctual.starts.trans (course.starts_once early late).symm

theorem next_appTimer (periodic : s.config.Periodic) (ms : List Moment) (k : Nat) :
    ((s.firstTimer periodic (.emitter .app)).before (s.lasts ms (.emitter .app)) k).next =
      k * s.config.appIntervalMillis := by
  have onTime : (s.firstTimer periodic (.emitter .app)).OnTime := Nat.zero_le _
  obtain ⟨still, deadline⟩ := Timer.onTime_before onTime (s.lasts ms (.emitter .app)) (n := k)
    fun _ _ => Nat.zero_le _
  rw [still.next_eq, deadline]
  exact Nat.zero_add _

theorem appStarts_grid (periodic : s.config.Periodic) (ran : run? s = some r) :
    ∃ count, starts (.emitter .app) r.moments = (List.range count).map (· * s.config.appIntervalMillis) ∧
      ∀ k, k < count ↔ k * s.config.appIntervalMillis < s.shutdownAt := by
  obtain ⟨reached, -, -⟩ := reached_run ran
  have punctual := punctual_reached periodic reached (.emitter .app)
  have late := shutdownAt_le_next ran (.emitter .app)
  have grid := next_appTimer periodic r.moments
  have begun := punctual.starts.trans (List.map_congr_left fun k _ => grid k)
  refine ⟨_, begun, ?_⟩
  intro k
  constructor
  · intro within
    have early := punctual.early _ (List.mem_of_getElem? (punctual.start_of_lt within))
    rwa [grid] at early
  · intro before
    by_contra beyond
    rw [punctual.timer] at late
    have last := Nat.le_trans late (Nat.le_of_eq (grid _))
    have := Nat.mul_le_mul_right s.config.appIntervalMillis (Nat.le_of_not_lt beyond)
    omega

/-- A pass whose search does not answer lasts as long as its search. -/
theorem passLasts_unanswered (ran : run? s = some r) {n : Nat}
    (unanswered : s.pipeline.searchFails n = true ∨ s.pipeline.searchPanics n = true) :
    s.passLasts r.moments n = s.pipeline.searchTakes n := by
  have silent : (passes r.moments)[n]?.elim 0 (·.writes) = 0 := by
    cases listed : (passes r.moments)[n]? with
    | none => rfl
    | some p =>
      obtain ⟨reached, -, -⟩ := reached_run ran
      obtain ⟨before, st, t, conducted⟩ := conducted_reached reached listed
      have none : answered s st = false := by
        rw [answered, conducted.number]
        rcases unanswered with fails | panics
        · rw [fails, Bool.not_true, Bool.and_false]
        · rw [panics, Bool.not_true, Bool.false_and]
      rw [Option.elim_some, conducted.record, writes_passRecord, samples_unanswered none]
      rfl
  rw [Setup.passLasts, silent]
  rfl

/-- The three tasks of a run begin their ticks independently of each other. The application lines are written
at the multiples of their interval that come before the shutdown; requests and passes begin as they would in
a task by itself whose ticks last what they take here, and a pass whose search fails or panics takes no more
than its search. So no change of the pipeline but one to the duration of requests moves an emission. -/
theorem tasks_keep_own_time (s : Setup) (periodic : s.config.Periodic) :
    ∃ r, run? s = some r ∧
      (∃ count,
        starts (.emitter .app) r.moments = (List.range count).map (· * s.config.appIntervalMillis) ∧
        ∀ k, k < count ↔ k * s.config.appIntervalMillis < s.shutdownAt) ∧
      (∀ (role : Role) (name : String) (results : Nat → TickResult),
        starts role r.moments = (s.alone periodic r.moments role name results).starts) ∧
      (∀ n, s.pipeline.searchFails n = true ∨ s.pipeline.searchPanics n = true →
        s.passLasts r.moments n = s.pipeline.searchTakes n) ∧
      ∀ p : Pipeline, p.getTakes = s.pipeline.getTakes →
        ∃ r', run? { s with pipeline := p } = some r' ∧
          ∀ c, starts (.emitter c) r'.moments = starts (.emitter c) r.moments := by
  obtain ⟨r, ran⟩ := run?_isSome periodic
  refine ⟨r, ran, appStarts_grid periodic ran, starts_alone periodic ran, fun n => passLasts_unanswered ran, ?_⟩
  intro p same
  have still : ({ s with pipeline := p } : Setup).config.Periodic := periodic
  obtain ⟨r', ran'⟩ := run?_isSome still
  refine ⟨r', ran', ?_⟩
  intro c
  have lasts : ({ s with pipeline := p } : Setup).lasts r'.moments (.emitter c) =
      s.lasts r.moments (.emitter c) := by
    cases c with
    | app => rfl
    | http => exact same
  rw [starts_alone still ran' (.emitter c) "" fun _ => .done, starts_alone periodic ran (.emitter c) "" fun _ => .done,
    Setup.alone, lasts]
  rfl

end Runs

namespace Trial

/-- A search that takes fifty intervals and then panics leaves the lines of the trial where they are. -/
theorem lines_written_through_outage :
    setup.config.Periodic ∧
      ∃ r, run? { setup with
          pipeline := { setup.pipeline with searchTakes := fun _ => 100, searchPanics := fun _ => true } } = some r ∧
        starts (.emitter .app) r.moments = [0, 2] := by
  have periodic : setup.config.Periodic := ⟨by decide, by decide, by decide⟩
  obtain ⟨r, -, ⟨count, grid, below⟩, -, -, unmoved⟩ := tasks_keep_own_time setup periodic
  obtain ⟨r', ran', same⟩ :=
    unmoved { setup.pipeline with searchTakes := fun _ => 100, searchPanics := fun _ => true } rfl
  have two : count = 2 := by
    have second : 1 < count := (below 1).mpr (by decide)
    have third : ¬ 2 < count := fun within => absurd ((below 2).mp within) (by decide)
    omega
  refine ⟨periodic, r', ran', ?_⟩
  rw [same .app, grid, two]
  rfl

end Trial
end Monitor
end DeliveryProbe
