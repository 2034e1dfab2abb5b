import DeliveryProbe.Proofs.Consistency
import DeliveryProbe.Proofs.Verdict
import Mathlib.Data.List.Perm.Basic

/-! The custody of the markers of a run. Every marker that a run registers is that of one emission; it is in
the tracker until a pass resolves it, and is then written once. A state is in custody of its channel when the
emissions that have registered are those with a sample and those whose markers the tracker holds, none being
both. Every step keeps this, and so does every run. -/
namespace DeliveryProbe.Monitor

/-- Whether an emission registers its marker: it does not fail, and is over before the watcher's task, whose
end is given. -/
def Setup.registers (s : Setup) (c : Channel) (watched : Nat) (o : Origin) : Bool :=
  !s.fails c o.call && s.registeredAt c o ≤ watched

/-- A sample tells of an emission. A search for the lines of emissions, begun once the marker of this one was
registered, has decided about the marker, and the sample was written after the clock was read for it. -/
inductive Tells (s : Setup) (c : Channel) (ms : List Moment) (o : Origin) : Nat × Sample → Prop where
  | intro {asked read time : Nat} {lines : List Pipeline.Line} {r : Resolution} (sent : Sent s c ms o)
      (registered : s.registeredAt c o ≤ asked) (reads : asked ≤ read) (writes : read ≤ time)
      (found : ∀ line ∈ lines, ∃ d o', Sent s d ms o' ∧ line = s.line d o')
      (verdict :
        (s.marker c o).Verdict (Pipeline.eventsAt s.start asked lines) (s.clock read) s.watcher.limits r) :
      Tells s c ms o (time, s.watcher.sample c r)

theorem Tells.mono {s : Setup} {c : Channel} {ms : List Moment} {o : Origin} {w : Nat × Sample}
    (tells : Tells s c ms o w) (ms' : List Moment) : Tells s c (ms ++ ms') o w := by
  obtain ⟨sent, registered, reads, writes, found, verdict⟩ := tells
  refine .intro (sent.mono ms') registered reads writes (fun line member => ?_) verdict
  obtain ⟨d, o', sent', same⟩ := found line member
  exact ⟨d, o', sent'.mono ms', same⟩

/-- The emissions of a channel whose markers have been registered. -/
def booked (s : Setup) (c : Channel) (ms : List Moment) (st : State) : List Origin :=
  (settled c ms st).filter (s.registers c (watcherEnd s st))

structure Custody (s : Setup) (c : Channel) (ms : List Moment) (st : State) (judged held : List Origin) :
    Prop where
  markers : registered c ms = (booked s c ms st).map (s.marker c)
  samples : List.Forall₂ (Tells s c ms) judged (written c ms)
  kept : st.tracker.outstanding c = held.map (s.marker c)
  all : (judged ++ held).Perm (booked s c ms st)

theorem settled_sublist (c : Channel) (ms : List Moment) (st : State) :
    (settled c ms st).Sublist (emissions c ms) := by
  unfold settled
  cases c with
  | app => exact List.Sublist.refl _
  | http =>
    dsimp only
    split
    · exact List.dropLast_sublist _
    · exact List.Sublist.refl _

theorem booked_sublist (s : Setup) (c : Channel) (ms : List Moment) (st : State) :
    (booked s c ms st).Sublist (emissions c ms) :=
  List.filter_sublist.trans (settled_sublist c ms st)

section Steps
variable {s : Setup} {c : Channel} {ms : List Moment} {st : State} {judged held : List Origin}

theorem shutdownAt_le_watcherEnd (st : State) : s.shutdownAt ≤ watcherEnd s st := Nat.le_max_left _ _

theorem custody_start (starts : start? s = some st) : Custody s c [] st [] [] := by
  have nothing : booked s c [] st = [] := List.sublist_nil.mp (booked_sublist s c [] st)
  constructor
  case markers =>
    rw [nothing]
    rfl
  case samples => exact .nil
  case kept =>
    rw [(fresh_of_start starts).tracker]
    cases c <;> rfl
  case all =>
    rw [nothing]
    exact List.Perm.nil

theorem Custody.grow (custody : Custody s c ms st judged held) {moments : List Moment} {st' : State}
    {news : List Origin} (settles : settled c (ms ++ moments) st' = settled c ms st ++ news)
    (watched : watcherEnd s st' = watcherEnd s st)
    (registers : registered c moments =
      (news.filter (s.registers c (watcherEnd s st))).map (s.marker c))
    (silent : written c moments = [])
    (keeps : st'.tracker.outstanding c = st.tracker.outstanding c ++ registered c moments) :
    Custody s c (ms ++ moments) st' judged (held ++ news.filter (s.registers c (watcherEnd s st))) := by
  have grown : booked s c (ms ++ moments) st' =
      booked s c ms st ++ news.filter (s.registers c (watcherEnd s st)) := by
    rw [booked, settles, watched, List.filter_append, booked]
  constructor
  case markers => rw [registered_append, grown, custody.markers, registers, List.map_append]
  case samples =>
    rw [written_append, silent, List.append_nil]
    exact custody.samples.imp fun _ _ tells => tells.mono moments
  case kept => rw [keeps, custody.kept, registers, List.map_append]
  case all =>
    rw [grown, ← List.append_assoc]
    exact custody.all.append_right _

theorem custody_httpTick (custody : Custody s c ms st judged held) (consistent : Consistent s ms st)
    (turn : Turn s st st.http) : Custody s c (ms ++ (httpTick s st).1) (httpTick s st).2 judged held := by
  have settles := (settled_httpTick consistent turn c).trans (List.append_nil _).symm
  have grown := custody.grow settles rfl rfl rfl (List.append_nil _).symm
  rwa [List.filter_nil, List.append_nil] at grown

theorem custody_appTick (custody : Custody s c ms st judged held) (consistent : Consistent s ms st)
    (turn : Turn s st st.app) :
    ∃ held', Custody s c (ms ++ (appTick s st).1) (appTick s st).2 judged held' := by
  have early : st.app.next ≤ watcherEnd s st :=
    Nat.le_trans (Nat.le_of_lt turn.early) (shutdownAt_le_watcherEnd st)
  have registers : s.registers .app (watcherEnd s st) { call := st.appCalls, begun := st.app.next } =
      !s.pipeline.appFails st.appCalls := by
    simp only [Setup.registers, Setup.fails, Setup.registeredAt, early, decide_true, Bool.and_true]
  refine ⟨_, custody.grow (settled_appTick consistent c) rfl ?_ (written_appTick c) ?_⟩
  · rw [appTick_eq]
    cases c with
    | app =>
      rw [if_pos rfl, List.filter_singleton, registers]
      cases s.pipeline.appFails st.appCalls <;> rfl
    | http =>
      rw [if_neg (by decide)]
      cases s.pipeline.appFails st.appCalls <;> rfl
  · rw [appTick_eq]
    cases fails : s.pipeline.appFails st.appCalls with
    | true => exact (List.append_nil _).symm
    | false =>
      refine (Tracker.outstanding_register _ _ _ _).trans ?_
      cases c <;> rfl

theorem custody_requestEnd (custody : Custody s c ms st judged held) (consistent : Consistent s ms st)
    {r : Request} (active : st.request = some r) :
    ∃ held', Custody s c (ms ++ (requestEnd s st r (r.ends ≤ watcherEnd s st)).1)
      (requestEnd s st r (r.ends ≤ watcherEnd s st)).2 judged held' := by
  have progress := consistent.request r active
  have registers : s.registers .http (watcherEnd s st) { call := r.call, begun := r.begun } =
      (!s.pipeline.getFails r.call && r.ends ≤ watcherEnd s st) := by
    rw [progress.ends]
    rfl
  refine ⟨_, custody.grow (settled_requestEnd _ progress active c) rfl ?_ (written_requestEnd _ progress c) ?_⟩
  · rw [requestEnd_eq s st r progress.number]
    cases c with
    | app =>
      rw [if_neg (by decide)]
      cases !s.pipeline.getFails r.call && decide (r.ends ≤ watcherEnd s st) <;> rfl
    | http =>
      rw [if_pos rfl, List.filter_singleton, registers]
      cases !s.pipeline.getFails r.call && decide (r.ends ≤ watcherEnd s st) <;> rfl
  · rw [requestEnd_eq s st r progress.number]
    cases !s.pipeline.getFails r.call && decide (r.ends ≤ watcherEnd s st) with
    | false => exact (List.append_nil _).symm
    | true =>
      refine (Tracker.outstanding_register _ _ _ _).trans ?_
      cases c <;> rfl

theorem forall₂_of_filterMap {α β γ : Type} {f : α → Option β} {R : β → γ → Prop} {xs : List α} {ys : List γ}
    (related : List.Forall₂ R (xs.filterMap f) ys) :
    List.Forall₂ (fun x y => x ∈ xs ∧ ∃ b, f x = some b ∧ R b y) (xs.filter fun x => (f x).isSome) ys := by
  induction xs generalizing ys with
  | nil => simpa using related
  | cons x xs ih =>
    cases gives : f x with
    | none =>
      rw [List.filterMap_cons_none gives] at related
      rw [List.filter_cons_of_neg (by simp [gives])]
      exact (ih related).imp fun _ _ ⟨member, holds⟩ => ⟨List.mem_cons_of_mem _ member, holds⟩
    | some b =>
      rw [List.filterMap_cons_some gives] at related
      rw [List.filter_cons_of_pos (by simp [gives])]
      cases related with
      | cons head tail =>
        refine .cons ⟨List.mem_cons_self, b, gives, head⟩ ?_
        exact (ih tail).imp fun _ _ ⟨member, holds⟩ => ⟨List.mem_cons_of_mem _ member, holds⟩

theorem verdict_of_verdict? {time : Nat} {m : Marker} {r : Resolution} (found : verdict? s st time m = some r) :
    m.Verdict (Pipeline.eventsAt s.start st.watch.next st.lines) (s.clock time) s.watcher.limits r := by
  unfold verdict? at found
  split at found
  · exact Marker.judge_correct.mp found
  · contradiction

/-- Before a pass every emission that is over was so before the watcher's task ends, however long it goes on. -/
theorem booked_early (consistent : Consistent s ms st) (early : st.watch.next < s.shutdownAt) {watched : Nat}
    (later : s.shutdownAt ≤ watched) :
    (settled c ms st).filter (s.registers c watched) = (settled c ms st).filter fun o => !s.fails c o.call := by
  refine List.filter_congr fun o member => ?_
  have bound := consistent.known c o member
  have known : s.registeredAt c o ≤ watched := by omega
  simp only [Setup.registers, known, decide_true, Bool.and_true]

theorem reads_after_search : ∀ c : Channel, st.watch.next ≤ reading s st c
  | .app => Nat.le_add_right _ _
  | .http => Nat.le_trans (Nat.le_add_right _ _) (Nat.le_add_right _ _)

theorem custody_watchTick (custody : Custody s c ms st judged held) (consistent : Consistent s ms st)
    (turn : Turn s st st.watch) :
    ∃ judged' held', Custody s c (ms ++ (watchTick s st).1) (watchTick s st).2 judged' held' := by
  obtain ⟨t, tracker, effect⟩ := watchTick_eq s st
  have same := emissions_passMoments s ms st t
  rw [effect]
  -- What the pass decides goes over from the held to the judged, in this order.
  let decides (o : Origin) : Bool := (verdict? s st (reading s st c) (s.marker c o)).isSome
  refine ⟨judged ++ held.filter decides, held.filter fun o => !decides o, ?_⟩
  generalize passed : ({ st with
      watch := st.watch.tick (passTakes s st)
      tracker := t
      searches := st.searches + 1
      writes := st.writes + (samples s st).length } : State) = st'
  have settles : settled c (ms ++ passMoments s st t) st' = settled c ms st := by
    rw [← passed]
    cases c <;> simp only [settled, same]
  have books : booked s c (ms ++ passMoments s st t) st' = booked s c ms st := by
    rw [booked, settles, booked, booked_early consistent turn.early (shutdownAt_le_watcherEnd st'),
      booked_early consistent turn.early (shutdownAt_le_watcherEnd st)]
  have outstanding : st'.tracker.outstanding c = (held.filter fun o => !decides o).map (s.marker c) := by
    rw [← passed, tracker, custody.kept, List.filter_map]
    refine congrArg _ (List.filter_congr fun o _ => ?_)
    exact (Option.not_isSome ..).symm
  constructor
  case markers =>
    rw [registered_append, (views_passMoments s st c t).2, List.append_nil, books]
    exact custody.markers
  case samples =>
    rw [written_append]
    refine List.rel_append (custody.samples.imp fun _ _ tells => tells.mono _) ?_
    have resolutions : resolved s st c =
        held.filterMap fun o => verdict? s st (reading s st c) (s.marker c o) := by
      rw [resolved, resolvedAt, custody.kept, List.filterMap_map]
      rfl
    have writes := written_passMoments s st c t
    rw [resolutions] at writes
    refine (forall₂_of_filterMap writes).imp ?_
    rintro o ⟨time, sample⟩ ⟨member, r, found, rfl, after, -⟩
    obtain ⟨listed, registers⟩ := List.mem_filter.mp (custody.all.subset (List.mem_append_right _ member))
    have emitted : Emitted c ms o := (settled_sublist c ms st).subset listed
    have works : s.fails c o.call = false := by
      rw [Setup.registers, Bool.and_eq_true, Bool.not_eq_true'] at registers
      exact registers.1
    have known := consistent.known c o listed
    have early := turn.early
    exact .intro ⟨emitted.mono _, works⟩ (by omega) (reads_after_search c) after
      (consistent.lines_mono _) (verdict_of_verdict? found)
  case kept => exact outstanding
  case all =>
    rw [books, List.append_assoc]
    exact ((List.filter_append_perm decides held).append_left judged).trans custody.all

theorem custody_step (consistent : Consistent s ms st) (custody : Custody s c ms st judged held)
    {out : List Moment × State} (next : Next s st out) :
    ∃ judged' held', Custody s c (ms ++ out.1) out.2 judged' held' := by
  cases next with
  | httpTick turn => exact ⟨judged, held, custody_httpTick custody consistent turn⟩
  | appTick turn => exact ⟨judged, custody_appTick custody consistent turn⟩
  | watchTick turn => exact custody_watchTick custody consistent turn
  | requestEnd active => exact ⟨judged, custody_requestEnd custody consistent active⟩

theorem custody_reached (reached : Reached s ms st) : ∃ judged held, Custody s c ms st judged held := by
  induction reached with
  | start starts => exact ⟨[], [], custody_start starts⟩
  | step before taken ih =>
    obtain ⟨judged, held, custody⟩ := ih
    exact custody_step (consistent_reached before) custody (next_of_step taken)

end Steps

/-- In every run the markers registered on a channel are those of the emissions that did not fail and were
over before the watcher's task. There are as many as samples handed to the store and markers left in the
tracker together: each sample tells of one of the emissions, no two of the same, and the tracker holds the
markers of the others. -/
theorem run_conserves_markers (s : Setup) (periodic : s.config.Periodic) :
    ∃ r, run? s = some r ∧ ∀ c,
      let registering := (emissions c r.moments).filter (s.registers c (watcherEnd s r.last))
      registered c r.moments = registering.map (s.marker c) ∧
      (registered c r.moments).length =
        (written c r.moments).length + (r.last.tracker.outstanding c).length ∧
      ∃ judged held : List Origin,
        (judged ++ held).Perm registering ∧ (judged ++ held).Nodup ∧
        List.Forall₂ (Tells s c r.moments) judged (written c r.moments) ∧
        r.last.tracker.outstanding c = held.map (s.marker c) := by
  obtain ⟨r, ran⟩ := run?_isSome periodic
  obtain ⟨reached, ended, -⟩ := reached_run ran
  obtain ⟨idle, -⟩ := over_of_step ended
  refine ⟨r, ran, fun c => ?_⟩
  intro registering
  obtain ⟨judged, held, custody⟩ := custody_reached (c := c) reached
  have settles : settled c r.moments r.last = emissions c r.moments := by
    cases c with
    | app => rfl
    | http => simp only [settled, idle, Option.isSome_none, Bool.false_eq_true, if_false]
  have books : booked s c r.moments r.last = registering := by
    rw [booked, settles]
  have all := custody.all
  have markers := custody.markers
  rw [books] at all markers
  refine ⟨markers, ?_, judged, held, all, ?_, custody.samples, custody.kept⟩
  · rw [markers, custody.kept, List.length_map, List.length_map, ← all.length_eq, List.length_append,
      custody.samples.length_eq]
  · exact all.nodup_iff.mpr (List.filter_sublist.nodup (emissions_nodup c r.moments))

namespace Trial

def setup : Setup :=
  { config :=
      { systemName := "shop"
        monitoredUrl := "http://localhost:8080"
        searchToken := "token"
        searchUrl := "https://papertrailapp.com"
        storeUrl := some "http://localhost:8086"
        port := 9000
        searchTimeoutSeconds := 3600
        timeToFailureSeconds := 60
        dryRun := false
        appIntervalMillis := 2
        httpIntervalMillis := 2
        watchIntervalMillis := 2
        requestTimeoutSeconds := 30
        metricsAddress := none }
    pipeline :=
      { appDelay := fun _ => 1
        appFails := fun _ => false
        appLost := fun _ => false
        getTakes := fun _ => 1
        httpDelay := fun _ => 1
        getFails := fun _ => false
        getLost := fun _ => false
        getErrs := fun _ => false
        searchTakes := fun _ => 0
        searchFails := fun _ => false
        searchPanics := fun _ => false
        writeTakes := fun _ => 0
        writeFails := fun _ => false }
    start := { second := 1709294400, nano := 0 }
    shutdownAt := 3
    number := fun c call =>
      match c with
      | .app => "1000000" ++ toString call
      | .http => "2000000" ++ toString call }

def counts (c : Channel) (ms : List Moment) : Nat × Nat := ((registered c ms).length, (written c ms).length)

/-- On either channel two markers are registered and one sample is written; the other marker is left. -/
theorem second_marker_held :
    setup.config.Periodic ∧
      ∃ r, run? setup = some r ∧ ∀ c, counts c r.moments = (2, 1) ∧ (r.last.tracker.outstanding c).length = 1 := by
  have periodic : setup.config.Periodic := ⟨by decide, by decide, by decide⟩
  have evaluated : ((start? setup).bind (runWithin setup 8)).map
      (fun out => (counts .app out.1, counts .http out.1)) = some ((2, 1), (2, 1)) := by
    decide +kernel
  obtain ⟨out, within, counted⟩ := Option.map_eq_some_iff.mp evaluated
  obtain ⟨r', ran', moments, -⟩ := run?_of_runWithin within
  obtain ⟨r, ran, conserves⟩ := run_conserves_markers setup periodic
  obtain rfl := Option.some.inj (ran.symm.trans ran')
  refine ⟨periodic, r, ran, fun c => ?_⟩
  have counted : counts c r.moments = (2, 1) := by
    rw [← moments] at counted
    cases c
    · exact congrArg Prod.fst counted
    · exact congrArg Prod.snd counted
  obtain ⟨registered, written⟩ := Prod.mk.inj counted
  have balance := (conserves c).2.1
  exact ⟨counted, by omega⟩

end Trial
end DeliveryProbe.Monitor
