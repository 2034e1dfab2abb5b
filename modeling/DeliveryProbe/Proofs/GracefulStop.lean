import DeliveryProbe.Proofs.Stopping
import DeliveryProbe.Proofs.Timetable
import Mathlib.Order.MinMax

/-! The end of a run. Once the shutdown has come no task begins anything; what has begun is brought to its
end, a pass to its last write and a request to its answer, and the run ends with the last of its tasks. -/
namespace DeliveryProbe.Monitor

def State.free (st : State) : Nat := max st.app.free (max st.http.free st.watch.free)

/-- A pass that begins in a state decides a marker at a time: its search answers, and gives a verdict. -/
def Decides (s : Setup) (st : State) (time : Nat) (m : Marker) : Prop :=
  answered s st = true ∧
    m.DecidedBy (Pipeline.eventsAt s.start st.watch.next st.lines) (s.clock time) s.watcher.limits

/-- A marker is written as a sample: the verdict on it is given at the time of reading, and the sample is handed
to the metric store between then and the end of the pass. -/
structure Settles (s : Setup) (st : State) (c : Channel) (read ends : Nat) (m : Marker) (w : Nat × Sample) :
    Prop where
  answers : answered s st = true
  verdict : ∃ res, w.2 = s.watcher.sample c res ∧
    m.Verdict (Pipeline.eventsAt s.start st.watch.next st.lines) (s.clock read) s.watcher.limits res
  after : read ≤ w.1
  before : w.1 ≤ ends

/-- A pass that began in a state of a run has come to its end, at which it left a tracker: of the markers that
were unresolved it has written those that it decides, each once, and left the others. -/
structure Completed (s : Setup) (ms : List Moment) (n : Nat) (p : PassRecord) (before : List Moment)
    (st : State) (left : Tracker) : Prop where
  reached : Reached s before st
  within : (before ++ { time := p.begun, action := .search } :: p.shown).IsPrefix ms
  number : st.searches = n
  ended : p.shown.getLast? =
    some { time := p.begun + s.passLasts ms n, action := .passEnded (answered s st) left }
  settled : ∀ c, ∃ (read : Nat) (decided : List Marker),
    p.begun + s.pipeline.searchTakes n ≤ read ∧
    (decided ++ left.outstanding c).Perm (st.tracker.outstanding c) ∧
    (∀ m ∈ left.outstanding c, ¬ Decides s st read m) ∧
    List.Forall₂ (Settles s st c read (p.begun + s.passLasts ms n)) decided (written c p.shown)

/-- What a request has come to when it is over: its line is on the way to the search, unless it failed or the
line is lost, and its marker is registered if the watcher is still there. -/
structure Answered (s : Setup) (ms : List Moment) (st : State) (o : Origin) : Prop where
  line : s.pipeline.getFails o.call = false → s.pipeline.getLost o.call = false → s.line .http o ∈ st.lines
  registered : s.pipeline.getFails o.call = false → s.ended o ≤ watcherEnd s st →
    { time := s.ended o, action := .registered .http (s.marker .http o) } ∈ ms

section Passes
variable {s : Setup} {ms before : List Moment} {n : Nat} {p : PassRecord} {st : State} {t : Tracker}

theorem decides_iff {time : Nat} {m : Marker} :
    (verdict? s st time m).isNone = true ↔ ¬ Decides s st time m := by
  rw [Option.isNone_iff_eq_none, verdict?, Decides]
  split
  · next answers => rw [Marker.judge_eq_none, answers, eq_self, true_and]
  · next unanswered =>
    simp only [unanswered, Bool.false_eq_true, false_and, not_false_eq_true]

theorem answered_of_verdict? {time : Nat} {m : Marker} {res : Resolution}
    (found : verdict? s st time m = some res) : answered s st = true := by
  unfold verdict? at found
  split at found
  · assumption
  · contradiction

theorem decided_and_left (conducted : Conducted s ms n p before st t) (c : Channel) :
    ((st.tracker.outstanding c).filter (fun m => (verdict? s st (reading s st c) m).isSome) ++
      t.outstanding c).Perm (st.tracker.outstanding c) := by
  have left : t.outstanding c =
      (st.tracker.outstanding c).filter fun m => !(verdict? s st (reading s st c) m).isSome := by
    rw [conducted.kept c]
    exact List.filter_congr fun m _ => (Option.not_isSome ..).symm
  rw [left]
  exact List.filter_append_perm _ _

theorem settles_decided (s : Setup) (st : State) (t : Tracker) (c : Channel) :
    List.Forall₂ (Settles s st c (reading s st c) (st.watch.next + passTakes s st))
      ((st.tracker.outstanding c).filter fun m => (verdict? s st (reading s st c) m).isSome)
      (written c (passRecord s st t).shown) := by
  have writes := written_passMoments s st c t
  rw [resolved, resolvedAt] at writes
  refine (forall₂_of_filterMap writes).imp ?_
  rintro m w ⟨-, res, found, same, after, early⟩
  exact ⟨answered_of_verdict? found, ⟨res, same, verdict_of_verdict? found⟩, after, early⟩

theorem completed_of_conducted (conducted : Conducted s ms n p before st t) :
    Completed s ms n p before st t := by
  have parts := decided_and_left conducted
  obtain ⟨reached, within, number, kept, rfl, lasts⟩ := conducted
  have ends : (passRecord s st t).begun + s.passLasts ms n = st.watch.next + passTakes s st := by
    rw [lasts]
    rfl
  refine ⟨reached, within, number, ?_, ?_⟩
  · rw [ends, passRecord, List.getLast?_concat]
  · intro c
    refine ⟨reading s st c, _, ?_, parts c, ?_, ?_⟩
    · rw [← number]
      cases c with
      | app => exact Nat.le_refl _
      | http => exact Nat.le_add_right _ _
    · intro m member
      rw [kept c] at member
      exact decides_iff.mp (List.mem_filter.mp member).2
    · rw [ends]
      exact settles_decided s st t c

end Passes

section Requests
variable {s : Setup} {ms moments : List Moment} {st st' : State} {o : Origin}

/-- What a request has come to stays, as long as no pass makes the watcher stay for it. -/
theorem Answered.mono (answered : Answered s ms st o) (lines : ∀ line ∈ st.lines, line ∈ st'.lines)
    (watched : s.ended o ≤ watcherEnd s st' → s.ended o ≤ watcherEnd s st) :
    Answered s (ms ++ moments) st' o where
  line works kept := lines _ (answered.line works kept)
  registered works tracked := List.mem_append_left _ (answered.registered works (watched tracked))

theorem answered_requestEnd (consistent : Consistent s ms st) {r : Request} (active : st.request = some r) :
    Answered s (ms ++ (requestEnd s st r (r.ends ≤ watcherEnd s st)).1)
      (requestEnd s st r (r.ends ≤ watcherEnd s st)).2 { call := r.call, begun := r.begun } := by
  have progress := consistent.request r active
  rw [requestEnd_eq s st r progress.number]
  constructor
  · intro works kept
    have ends : r.ends + s.pipeline.httpDelay r.call = r.begun + s.delay .http r.call := by
      rw [progress.ends]
      exact Nat.add_assoc _ _ _
    refine List.mem_append_right _ ?_
    rw [Pipeline.accessLines, works, kept, ends, progress.number]
    exact List.mem_singleton_self _
  · intro works tracked
    have inTime : r.ends ≤ watcherEnd s st := by rwa [progress.ends]
    refine List.mem_append_right _ ?_
    simp only [works, inTime, decide_true, Bool.not_false, Bool.true_and, if_true]
    rw [progress.ends]
    exact List.mem_singleton_self _

theorem answered_step (consistent : Consistent s ms st) {out : List Moment × State} (next : Next s st out)
    (answered : ∀ o ∈ settled .http ms st, Answered s ms st o) :
    ∀ o ∈ settled .http (ms ++ out.1) out.2, Answered s (ms ++ out.1) out.2 o := by
  intro o member
  cases next with
  | httpTick turn =>
    rw [settled_httpTick consistent turn] at member
    exact (answered o member).mono (fun _ => id) id
  | appTick turn =>
    rw [settled_appTick consistent, if_neg (by decide), List.append_nil] at member
    exact (answered o member).mono (fun _ => List.mem_append_left _) id
  | watchTick turn =>
    obtain ⟨t, -, effect⟩ := watchTick_eq s st
    rw [effect] at member ⊢
    have old : o ∈ settled .http ms st := by
      simpa only [settled, emissions_passMoments] using member
    refine (answered o old).mono (fun _ => id) ?_
    intro _
    -- The request was over before this pass began, so that it did not need the watcher any longer.
    have known := consistent.known .http o old
    have early := turn.early
    have stays := shutdownAt_le_watcherEnd (s := s) st
    change min (s.ended o) s.shutdownAt ≤ _ at known
    omega
  | requestEnd active =>
    rw [settled_requestEnd _ (consistent.request _ active) active, if_pos rfl, List.mem_append,
      List.mem_singleton] at member
    rcases member with old | rfl
    · exact (answered o old).mono (fun _ => List.mem_append_left _) id
    · exact answered_requestEnd consistent active

theorem answered_reached (reached : Reached s ms st) : ∀ o ∈ settled .http ms st, Answered s ms st o := by
  induction reached with
  | start starts =>
    intro o member
    simp only [settled, (fresh_of_start starts).request] at member
    contradiction
  | step before taken ih => exact answered_step (consistent_reached before) (next_of_step taken) ih

end Requests

section Times
variable {s : Setup} {ms : List Moment} {st : State}

theorem timer_free_le (st : State) (role : Role) : (st.timer role).free ≤ st.free := by
  cases role with
  | emitter c =>
    cases c with
    | app => exact Nat.le_max_left _ _
    | http => exact Nat.le_trans (Nat.le_max_left _ _) (Nat.le_max_right _ _)
  | watcher => exact Nat.le_trans (Nat.le_max_right _ _) (Nat.le_max_right _ _)

theorem exists_timer_free (st : State) : ∃ role, (st.timer role).free = st.free := by
  rcases max_choice st.app.free (max st.http.free st.watch.free) with app | others
  · exact ⟨.emitter .app, app.symm⟩
  · rcases max_choice st.http.free st.watch.free with http | watch
    · exact ⟨.emitter .http, (others.trans http).symm⟩
    · exact ⟨.watcher, (others.trans watch).symm⟩

theorem free_mono {out : List Moment × State} (advances : ∀ role, Advances s ms st out role) :
    st.free ≤ out.2.free := by
  obtain ⟨role, last⟩ := exists_timer_free st
  rw [← last]
  apply Nat.le_trans _ (timer_free_le out.2 role)
  cases advances role with
  | idle _ timer => exact Nat.le_of_eq (congrArg Timer.free timer.symm)
  | ticks _ _ timer =>
    rw [timer]
    exact Nat.le_trans (Timer.free_le_next _) (Nat.le_add_right _ _)

theorem times_step (consistent : Consistent s ms st) {out : List Moment × State} (next : Next s st out) :
    ∃ role, ∀ m ∈ out.1, m.time ≤ (out.2.timer role).free := by
  cases next with
  | httpTick =>
    refine ⟨.emitter .http, ?_⟩
    intro m member
    obtain rfl := List.mem_singleton.mp member
    exact Nat.le_add_right _ _
  | appTick =>
    refine ⟨.emitter .app, ?_⟩
    intro m member
    rcases List.mem_cons.mp member with rfl | registers
    · exact Nat.le_refl _
    · exact Nat.le_of_eq (mem_registrations registers).1
  | watchTick =>
    obtain ⟨t, -, effect⟩ := watchTick_eq s st
    refine ⟨.watcher, ?_⟩
    intro m member
    rw [effect] at member ⊢
    rcases List.mem_cons.mp member with rfl | shown
    · exact Nat.le_add_right _ _
    · exact (mem_shown s st shown).2.2.2
  | requestEnd active =>
    refine ⟨.emitter .http, ?_⟩
    intro m member
    have busy := (consistent.request _ active).busy
    exact Nat.le_of_eq ((mem_registrations member).1.trans busy.symm)

theorem times_reached (reached : Reached s ms st) : ∀ m ∈ ms, m.time ≤ st.free := by
  induction reached with
  | start =>
    intro m member
    contradiction
  | step before taken ih =>
    have next := next_of_step taken
    obtain ⟨role, shown⟩ := times_step (consistent_reached before) next
    intro m member
    rcases List.mem_append.mp member with old | new
    · exact Nat.le_trans (ih m old) (free_mono (advances_step before next))
    · exact Nat.le_trans (shown m new) (timer_free_le _ role)

end Times

section Runs
variable {s : Setup} {r : Run}

theorem finished_eq (ran : run? s = some r) : r.finished = max s.shutdownAt r.last.free := (reached_run ran).2.2

theorem stopped_alone (periodic : s.config.Periodic) (ran : run? s = some r) (role : Role) (name : String)
    (results : Nat → TickResult) :
    (s.alone periodic r.moments role name results).stopped = max (r.last.timer role).free s.shutdownAt := by
  obtain ⟨reached, -, -⟩ := reached_run ran
  have course := course_alone s periodic r.moments role name results
  rw [course.stopped, ← starts_alone periodic ran, ← (punctual_reached periodic reached role).timer]
  exact Shutdown.stopFrom_once _ _

theorem stopped_le_finished (periodic : s.config.Periodic) (ran : run? s = some r) (role : Role) (name : String)
    (results : Nat → TickResult) : (s.alone periodic r.moments role name results).stopped ≤ r.finished := by
  have least := timer_free_le r.last role
  rw [stopped_alone periodic ran, finished_eq ran]
  omega

theorem tick_ends (periodic : s.config.Periodic) (ran : run? s = some r) {role : Role} {n begun : Nat}
    (listed : (starts role r.moments)[n]? = some begun) : begun + s.lasts r.moments role n ≤ r.finished := by
  have course := course_alone s periodic r.moments role "" fun _ => .done
  rw [starts_alone periodic ran role "" fun _ => .done] at listed
  have driven : Driven ((s.firstTimer periodic role).before (s.lasts r.moments role))
      fun n => { takes := s.lasts r.moments role n, result := .done } := ⟨rfl, fun _ => rfl⟩
  have whole := course.whole driven listed
  exact Nat.le_trans whole (stopped_le_finished periodic ran role _ _)

theorem last_of_late (periodic : s.config.Periodic) (ran : run? s = some r) {role : Role} {n begun : Nat}
    (listed : (starts role r.moments)[n]? = some begun)
    (late : s.shutdownAt ≤ begun + s.lasts r.moments role n) : n + 1 = (starts role r.moments).length := by
  obtain ⟨reached, -, -⟩ := reached_run ran
  have punctual := punctual_reached periodic reached role
  have within : n < (starts role r.moments).length := (List.getElem?_eq_some_iff.mp listed).1
  by_contra more
  have next := punctual.start_of_lt (n := n + 1) (by omega)
  have early := punctual.early _ (List.mem_of_getElem? next)
  have free := Timer.free_le_next ((s.firstTimer periodic role).before (s.lasts r.moments role) (n + 1))
  obtain rfl := Option.some.inj (listed.symm.trans (punctual.start_of_lt within))
  exact absurd (Nat.le_trans late free) (Nat.not_le_of_lt early)

/-- Every run returns, whatever fails or panics on the way. Each tick begins before the shutdown and is over
when the run ends; one that is in progress at the shutdown is the last of its task. Every pass is brought to
its end, with a sample for each marker that it decides, and every request to its answer. The run ends with the
last of its tasks, not before the shutdown, and shows nothing after its end. -/
theorem run_stops_gracefully (s : Setup) (periodic : s.config.Periodic) :
    ∃ r, run? s = some r ∧
      (∀ role n begun, (starts role r.moments)[n]? = some begun →
        begun < s.shutdownAt ∧ begun + s.lasts r.moments role n ≤ r.finished ∧
          (s.shutdownAt ≤ begun + s.lasts r.moments role n → n + 1 = (starts role r.moments).length)) ∧
      (∀ n p, (passes r.moments)[n]? = some p →
        (starts .watcher r.moments)[n]? = some p.begun ∧
          ∃ before st left, Completed s r.moments n p before st left) ∧
      (∀ o, Emitted .http r.moments o → Answered s r.moments r.last o) ∧
      s.shutdownAt ≤ r.finished ∧
      (∀ m ∈ r.moments, m.time ≤ r.finished) ∧
      (∀ (role : Role) (name : String) (results : Nat → TickResult),
        (s.alone periodic r.moments role name results).stopped ≤ r.finished) ∧
      ∃ role : Role, ∀ (name : String) (results : Nat → TickResult),
        (s.alone periodic r.moments role name results).stopped = r.finished := by
  obtain ⟨r, ran⟩ := run?_isSome periodic
  obtain ⟨reached, ended, -⟩ := reached_run ran
  obtain ⟨idle, -⟩ := over_of_step ended
  have finishes := finished_eq ran
  refine ⟨r, ran, ?_, ?_, ?_, ?_, ?_, stopped_le_finished periodic ran, ?_⟩
  · intro role n begun listed
    have early := (punctual_reached periodic reached role).early begun (List.mem_of_getElem? listed)
    exact ⟨early, tick_ends periodic ran listed, last_of_late periodic ran listed⟩
  · intro n p listed
    obtain ⟨before, st, left, conducted⟩ := conducted_reached reached listed
    refine ⟨?_, before, st, left, completed_of_conducted conducted⟩
    rw [starts_watcher, List.getElem?_map, listed, Option.map_some]
  · intro o emitted
    apply answered_reached reached
    -- No request is in progress any more, so that all that were emitted are settled.
    rw [Emitted] at emitted
    simpa only [settled, idle, Option.isSome_none, Bool.false_eq_true, if_false] using emitted
  · rw [finishes]
    exact Nat.le_max_left _ _
  · intro m member
    rw [finishes]
    exact Nat.le_trans (times_reached reached m member) (Nat.le_max_right _ _)
  · obtain ⟨role, last⟩ := exists_timer_free r.last
    refine ⟨role, ?_⟩
    intro name results
    rw [stopped_alone periodic ran, last, finishes, max_comm]

end Runs

namespace Trial

def overrun : Setup :=
  { setup with pipeline := { setup.pipeline with getTakes := fun _ => 4, searchTakes := fun _ => 4 } }

/-- The pass that begins at two is in progress at the shutdown, at three. It writes its sample at six, which the
run does not end before, and is the last. -/
theorem pass_outlives_shutdown :
    overrun.config.Periodic ∧
      ∃ r, run? overrun = some r ∧ (written .app r.moments).map (·.1) = [6] ∧ 6 ≤ r.finished ∧
        (starts .watcher r.moments).length = 1 := by
  have periodic : overrun.config.Periodic := ⟨by decide, by decide, by decide⟩
  have evaluated : ((start? overrun).bind (runWithin overrun 8)).map
      (fun out => ((written .app out.1).map (·.1), (starts .watcher out.1)[0]?)) = some ([6], some 2) := by
    decide +kernel
  obtain ⟨out, within, seen⟩ := Option.map_eq_some_iff.mp evaluated
  obtain ⟨r', ran', moments, -⟩ := run?_of_runWithin within
  obtain ⟨r, ran, ticks, -⟩ := run_stops_gracefully overrun periodic
  obtain rfl := Option.some.inj (ran.symm.trans ran')
  rw [← moments] at seen
  obtain ⟨samples, first⟩ := Prod.mk.inj seen
  obtain ⟨-, whole, last⟩ := ticks .watcher 0 2 first
  have lasts : 4 ≤ overrun.lasts r.moments .watcher 0 := Nat.le_add_right 4 _
  have told : overrun.shutdownAt = 3 := rfl
  exact ⟨periodic, r, ran, samples, by omega, (last (by omega)).symm⟩

end Trial
end DeliveryProbe.Monitor
