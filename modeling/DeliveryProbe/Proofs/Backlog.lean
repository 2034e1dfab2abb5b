import DeliveryProbe.Proofs.Elapsed
import DeliveryProbe.Proofs.Rounding
import DeliveryProbe.Proofs.Timetable

/-! The backlog of a run. A pass whose search answers keeps no marker that is older than the search timeout,
and the emissions of a channel lie at least a gap apart, so that only so many of them can be younger. How many
passes have failed before it does not matter, nor does what the search has found. -/
namespace DeliveryProbe

theorem length_le_of_spaced {time : Nat → Nat} {gap window : Nat} (gap_pos : 0 < gap)
    (spaced : ∀ k, time k + gap ≤ time (k + 1)) {calls : List Nat} (nodup : calls.Nodup) (first : Nat)
    (within : ∀ k ∈ calls, first ≤ time k ∧ time k ≤ first + window) : calls.length ≤ window / gap + 1 := by
  have apart {j k : Nat} (earlier : j < k) : time j + gap ≤ time k := by
    induction k, earlier using Nat.le_induction with
    | base => exact spaced j
    | succ k _ ih => exact Nat.le_trans ih (Nat.le_trans (Nat.le_add_right _ _) (spaced k))
  -- Times of one place in the window would be less than a gap apart.
  let place (k : Nat) : Nat := (time k - first) / gap
  have later {j k : Nat} (listed : j ∈ calls) (earlier : j < k) : place j < place k := by
    have start := (within j listed).1
    have enough : time j - first + gap ≤ time k - first := by
      have := apart earlier
      omega
    calc place j < place j + 1 := Nat.lt_succ_self _
      _ = (time j - first + gap) / gap := (Nat.add_div_right _ gap_pos).symm
      _ ≤ place k := Nat.div_le_div_right enough
  have places : (calls.map place).Nodup := by
    refine nodup.map_on fun j here k there same => ?_
    rcases Nat.lt_trichotomy j k with earlier | equal | after
    · exact absurd same (Nat.ne_of_lt (later here earlier))
    · exact equal
    · exact absurd same.symm (Nat.ne_of_lt (later there after))
  have among : calls.map place ⊆ List.range (window / gap + 1) := by
    intro n member
    obtain ⟨k, listed, rfl⟩ := List.mem_map.mp member
    have bounds := within k listed
    exact List.mem_range.mpr (Nat.lt_succ_of_le (Nat.div_le_div_right (by omega)))
  have count := (List.subperm_of_subset places among).length_le
  rwa [List.length_map, List.length_range] at count

namespace Monitor

/-- The least time between the beginnings of two emissions of a channel. A request may begin a little late and
leave the next one on the grid. -/
def Setup.gap (s : Setup) : Channel → Nat
  | .app => s.config.appIntervalMillis
  | .http => s.config.httpIntervalMillis - Timer.tolerance

/-- How many markers of a channel can wait for their lines: those emitted within the search timeout. -/
def Setup.backlog (s : Setup) (c : Channel) : Nat := 1000 * s.config.searchTimeoutSeconds / s.gap c + 1

section Emissions
variable {s : Setup} {ms : List Moment} {st : State} {c : Channel}

theorem emitters_spaced (periodic : s.config.Periodic) (ms : List Moment) (c : Channel) (k : Nat) :
    ((s.firstTimer periodic (.emitter c)).before (s.lasts ms (.emitter c)) k).next + s.gap c ≤
      ((s.firstTimer periodic (.emitter c)).before (s.lasts ms (.emitter c)) (k + 1)).next := by
  cases c with
  | app =>
    rw [next_appTimer, next_appTimer, Nat.succ_mul]
    exact Nat.le_refl _
  | http =>
    have bounds := Timer.next_tick_bounds
      ((s.firstTimer periodic (.emitter .http)).before (s.lasts ms (.emitter .http)) k)
      (s.lasts ms (.emitter .http) k)
    rw [Timer.period_before] at bounds
    exact Nat.le_trans (Nat.add_le_add_left (Nat.le_max_right _ _) _) bounds.1

theorem begun_eq (periodic : s.config.Periodic) (reached : Reached s ms st) {o : Origin} (emitted : Emitted c ms o) :
    o.begun = ((s.firstTimer periodic (.emitter c)).before (s.lasts ms (.emitter c)) o.call).next := by
  have punctual := punctual_reached periodic reached (.emitter c)
  obtain ⟨n, within, rfl⟩ := List.mem_mapIdx.mp emitted
  have listed := punctual.start_of_lt (n := n) within
  exact Option.some.inj ((List.getElem?_eq_getElem within).symm.trans listed)

end Emissions

section Pass
variable {s : Setup} {ms : List Moment} {st : State} {c : Channel}

theorem expired_of_lt (ordinary : s.start.Ordinary) (limit : s.config.searchTimeoutSeconds ≤ 10 ^ 12) {o : Origin}
    {read : Nat} (begun : o.begun ≤ read) (old : 1000 * s.config.searchTimeoutSeconds < read - o.begun) :
    (s.marker c o).Expired (s.clock read) s.watcher.limits := by
  have emittedAt : (s.marker c o).emittedAt = s.clock o.begun := by cases c <;> rfl
  rw [Marker.Expired, emittedAt, Instant.secondsUntil, Setup.clock, Setup.clock,
    Instant.millisUntil_addMillis ordinary begun]
  exact Binary64.seconds_gt_of_lt limit old

theorem kept_young (ordinary : s.start.Ordinary) (limit : s.config.searchTimeoutSeconds ≤ 10 ^ 12)
    (answers : answered s st = true) {o : Origin} {read : Nat} (begun : o.begun ≤ read)
    (undecided : verdict? s st read (s.marker c o) = none) :
    read - o.begun ≤ 1000 * s.config.searchTimeoutSeconds := by
  by_contra old
  rw [verdict?_answered answers, Marker.judge_eq_none] at undecided
  exact undecided (.inl (expired_of_lt ordinary limit begun (Nat.lt_of_not_le old)))

theorem kept_bounded (periodic : s.config.Periodic) (ordinary : s.start.Ordinary)
    (limit : s.config.searchTimeoutSeconds ≤ 10 ^ 12) (gap_pos : 0 < s.gap c) (reached : Reached s ms st)
    (answers : answered s st = true) :
    ((st.tracker.outstanding c).filter fun m => (verdict? s st (reading s st c) m).isNone).length ≤
      s.backlog c := by
  obtain ⟨judged, held, custody⟩ := custody_reached (c := c) reached
  have emitted {o : Origin} (member : o ∈ held) : Emitted c ms o :=
    (booked_sublist s c ms st).subset (custody.all.subset (List.mem_append_right _ member))
  have calls : (held.map (·.call)).Nodup := by
    have all := (custody.all.map (·.call)).nodup_iff.mpr
      (((booked_sublist s c ms st).map _).nodup (emissions_calls_nodup c ms))
    rw [List.map_append] at all
    exact (List.nodup_append.mp all).2.1
  let undecided (o : Origin) : Bool := (verdict? s st (reading s st c) (s.marker c o)).isNone
  have kept : ((held.filter undecided).map (·.call)).Nodup := (List.filter_sublist.map _).nodup calls
  rw [custody.kept, List.filter_map, List.length_map]
  refine Nat.le_trans (Nat.le_of_eq (List.length_map (·.call)).symm)
    (length_le_of_spaced gap_pos (emitters_spaced periodic ms c) kept
      (reading s st c - 1000 * s.config.searchTimeoutSeconds) ?_)
  intro call member
  obtain ⟨o, listed, rfl⟩ := List.mem_map.mp member
  obtain ⟨old, unjudged⟩ := List.mem_filter.mp listed
  have past := (consistent_reached reached).past c o (emitted old)
  have begun := Nat.le_trans past (reads_after_search (s := s) c)
  have young := kept_young ordinary limit answers begun (Option.isNone_iff_eq_none.mp unjudged)
  rw [← begun_eq periodic reached (emitted old)]
  omega

end Pass

section Run
variable {s : Setup}

/-- After every pass so far whose search answered the pending sets were within their bounds. -/
def Bounded (s : Setup) (ms : List Moment) : Prop :=
  ∀ m ∈ ms, ∀ t, m.action = .passEnded true t → ∀ c, 0 < s.gap c → (t.pending c).length ≤ s.backlog c

theorem bounded_step (periodic : s.config.Periodic) (ordinary : s.start.Ordinary)
    (limit : s.config.searchTimeoutSeconds ≤ 10 ^ 12) {ms : List Moment} {st : State} (reached : Reached s ms st)
    {out : List Moment × State} (next : Next s st out) : Bounded s out.1 := by
  intro m member t ends c gap_pos
  rcases unwatched_or_passed next with idle | ⟨left, passed⟩
  · have other := (idle.others m member).2
    rw [Moment.ofPass, ends] at other
    contradiction
  · rw [passed.effect, passMoments] at member
    rcases List.mem_append.mp member with during | last
    · rcases List.mem_cons.mp during with rfl | write
      · contradiction
      · obtain ⟨⟨sample, action⟩, -⟩ := mem_writeMoments write
        rw [action] at ends
        contradiction
    · obtain rfl := List.mem_singleton.mp last
      obtain ⟨answers, rfl⟩ := Action.passEnded.inj ends
      have pending : (left.pending c).length ≤ (left.outstanding c).length := by
        rw [Tracker.outstanding, List.length_append]
        exact Nat.le_add_right _ _
      rw [passed.kept] at pending
      exact Nat.le_trans pending (kept_bounded periodic ordinary limit gap_pos reached answers)

theorem bounded_reached (periodic : s.config.Periodic) (ordinary : s.start.Ordinary)
    (limit : s.config.searchTimeoutSeconds ≤ 10 ^ 12) {ms : List Moment} {st : State} (reached : Reached s ms st) :
    Bounded s ms := by
  induction reached with
  | start => exact fun m member => absurd member List.not_mem_nil
  | step before taken ih =>
    intro m member
    rcases List.mem_append.mp member with old | new
    · exact ih m old
    · exact bounded_step periodic ordinary limit before (next_of_step taken) m new

/-- After every pass whose search answers, no more markers of a channel are pending than can have been emitted
within the search timeout, whatever was lost or has failed before. -/
theorem backlog_bounded (s : Setup) (periodic : s.config.Periodic)
    (slack : Timer.tolerance < s.config.httpIntervalMillis) (limit : s.config.searchTimeoutSeconds ≤ 10 ^ 12)
    (ordinary : s.start.Ordinary) :
    ∃ r, run? s = some r ∧ ∀ m ∈ r.moments, ∀ t, m.action = .passEnded true t →
      (t.pending .app).length ≤ 1000 * s.config.searchTimeoutSeconds / s.config.appIntervalMillis + 1 ∧
      (t.pending .http).length ≤
        1000 * s.config.searchTimeoutSeconds / (s.config.httpIntervalMillis - Timer.tolerance) + 1 := by
  obtain ⟨r, ran⟩ := run?_isSome periodic
  obtain ⟨reached, -, -⟩ := reached_run ran
  refine ⟨r, ran, fun m member t ends => ?_⟩
  have bounds := bounded_reached periodic ordinary limit reached m member t ends
  exact ⟨bounds .app periodic.app, bounds .http (Nat.sub_pos_of_lt slack)⟩

end Run

namespace Trial

/-- A run of which every line is lost and the first search fails. -/
def outage : Setup :=
  { setup with
    config :=
      { setup.config with
        searchTimeoutSeconds := 1
        appIntervalMillis := 400
        httpIntervalMillis := 405
        watchIntervalMillis := 900 }
    pipeline :=
      { setup.pipeline with
        appLost := fun _ => true
        getLost := fun _ => true
        searchFails := fun n => n = 0 }
    shutdownAt := 1801 }

def backlogs (ms : List Moment) : List (Nat × Nat) :=
  ms.filterMap fun m =>
    match m.action with
    | .passEnded true t => some ((t.pending .app).length, (t.pending .http).length)
    | _ => none

/-- Of the five markers of either channel the pass after the outage keeps as many as the bound allows. -/
theorem backlog_reached :
    outage.config.Periodic ∧ Timer.tolerance < outage.config.httpIntervalMillis ∧
      outage.config.searchTimeoutSeconds ≤ 10 ^ 12 ∧ outage.start.Ordinary ∧
      ∃ r, run? outage = some r ∧ backlogs r.moments = [(3, 3)] ∧ ∀ m ∈ r.moments, ∀ t,
        m.action = .passEnded true t → (t.pending .app).length ≤ 3 ∧ (t.pending .http).length ≤ 3 := by
  have periodic : outage.config.Periodic := ⟨by decide, by decide, by decide⟩
  have slack : Timer.tolerance < outage.config.httpIntervalMillis := by decide
  have limit : outage.config.searchTimeoutSeconds ≤ 10 ^ 12 := by decide
  have ordinary : outage.start.Ordinary := by decide
  have evaluated : ((start? outage).bind (runWithin outage 20)).map (fun out => backlogs out.1) = some [(3, 3)] := by
    decide +kernel
  obtain ⟨out, within, counted⟩ := Option.map_eq_some_iff.mp evaluated
  obtain ⟨r', ran', moments, -⟩ := run?_of_runWithin within
  obtain ⟨r, ran, bounded⟩ := backlog_bounded outage periodic slack limit ordinary
  obtain rfl := Option.some.inj (ran.symm.trans ran')
  rw [← moments] at counted
  exact ⟨periodic, slack, limit, ordinary, r, ran, counted, bounded⟩

end Trial
end Monitor
end DeliveryProbe
