import DeliveryProbe.Proofs.Recording
import DeliveryProbe.Proofs.RunHistory

/-! What each step of a run does to its history and its state. A watch pass, whether its search answers,
fails or panics, gives a verdict on some of the unresolved markers of each channel, writes one sample for
each of these, and keeps the others. -/
namespace DeliveryProbe.Monitor
open Watcher (sample)

section Emissions
variable (s : Setup) (st : State)

/-- The writing of an application line registers its marker unless the writing fails. -/
theorem appTick_eq :
    appTick s st =
      let o : Origin := { call := st.appCalls, begun := st.app.next }
      let fails := s.pipeline.appFails st.appCalls
      ({ time := st.app.next, action := .appWrite (s.number .app st.appCalls) } ::
          (if fails then [] else [{ time := st.app.next, action := .registered .app (s.marker .app o) }]),
        { st with
          app := st.app.tick 0
          tracker := if fails then st.tracker else st.tracker.register .app (s.marker .app o)
          lines := st.lines ++ s.pipeline.appLines st.appCalls st.app.next (s.number .app st.appCalls)
          appCalls := st.appCalls + 1 }) := by
  unfold appTick
  cases fails : s.pipeline.appFails st.appCalls <;> rfl

/-- The end of a request registers its marker unless the request has failed or the tracker is gone. -/
theorem requestEnd_eq (r : Request) (numbered : r.number = s.number .http r.call) (tracking : Bool) :
    requestEnd s st r tracking =
      let o : Origin := { call := r.call, begun := r.begun }
      let registers := !s.pipeline.getFails r.call && tracking
      (if registers then [{ time := r.ends, action := .registered .http (s.marker .http o) }] else [],
        { st with
          request := none
          tracker := if registers then st.tracker.register .http (s.marker .http o) else st.tracker
          lines :=
            st.lines ++
              s.pipeline.accessLines r.call r.ends (Endpoint.sample s.config.monitoredUrl r.number) }) := by
  have marker : s.marker .http { call := r.call, begun := r.begun } = .ofHttp r.number (s.clock r.begun) := by
    rw [numbered]
    rfl
  unfold requestEnd
  simp only [marker]
  cases fails : s.pipeline.getFails r.call <;> cases tracking <;>
    simp [replyTo, fails, Emission.httpAnswered, Emission.complete, Emission.after, Tracker.registerWith,
      registrations]

end Emissions

section Pass
variable (s : Setup) (st : State)

def answered : Bool := !s.pipeline.searchPanics st.searches && !s.pipeline.searchFails st.searches

def searched : Nat := st.watch.next + s.pipeline.searchTakes st.searches

/-- The verdict of the next pass on a marker, for which the clock is read at the given time. -/
def verdict? (time : Nat) (m : Marker) : Option Resolution :=
  if answered s st then
    m.judge (Pipeline.eventsAt s.start st.watch.next st.lines) (s.clock time) s.watcher.limits
  else none

def resolvedAt (time : Nat) (c : Channel) : List Resolution :=
  (st.tracker.outstanding c).filterMap (verdict? s st time)

/-- When the next pass reads the clock for a channel: once the samples before it are written. -/
def reading : Channel → Nat
  | .app => searched s st
  | .http =>
    searched s st + s.pipeline.writing st.writes (resolvedAt s st (searched s st) .app).length

def resolved (c : Channel) : List Resolution := resolvedAt s st (reading s st c) c

def samples : List Sample :=
  (resolved s st .app).map (s.watcher.sample .app) ++ (resolved s st .http).map (s.watcher.sample .http)

def passTakes : Nat :=
  s.pipeline.searchTakes st.searches + s.pipeline.writing st.writes (samples s st).length

/-- What the next pass shows, from its question to its end, at which it leaves the given tracker. -/
def passMoments (t : Tracker) : List Moment :=
  { time := st.watch.next, action := .search } ::
      writeMoments s.pipeline st.writes (searched s st) (samples s st) ++
    [{ time := st.watch.next + passTakes s st, action := .passEnded (answered s st) t }]

section Answered
variable {s : Setup} {st : State}

theorem resolvedAt_unanswered (unanswered : answered s st = false) (time : Nat) (c : Channel) :
    resolvedAt s st time c = [] := by
  refine List.filterMap_eq_nil_iff.mpr fun m _ => ?_
  simp only [verdict?, unanswered, Bool.false_eq_true, if_false]

theorem samples_unanswered (unanswered : answered s st = false) : samples s st = [] := by
  simp only [samples, resolved, resolvedAt_unanswered unanswered, List.map_nil, List.append_nil]

theorem kept_unanswered (unanswered : answered s st = false) (time : Nat) (ms : List Marker) :
    (ms.filter fun m => (verdict? s st time m).isNone) = ms := by
  refine List.filter_eq_self.mpr fun m _ => ?_
  simp only [verdict?, unanswered, Bool.false_eq_true, if_false, Option.isNone_none]

theorem verdict?_answered (answers : answered s st = true) (time : Nat) :
    verdict? s st time =
      fun m => m.judge (Pipeline.eventsAt s.start st.watch.next st.lines) (s.clock time) s.watcher.limits := by
  funext m
  simp only [verdict?, answers, if_true]

end Answered

def nextPass : Pass :=
  s.watcher.pass st.tracker
    (if s.pipeline.searchFails st.searches then .failed .http
      else .found (Pipeline.eventsAt s.start st.watch.next st.lines))
    (fun _ n => s.clock (searched s st + s.pipeline.writing st.writes n)) s.sink st.writes

theorem watchTick_calm (calm : s.pipeline.searchPanics st.searches = false) :
    watchTick s st =
      let p := nextPass s st
      let takes := s.pipeline.searchTakes st.searches + s.pipeline.writing st.writes (Trace.writes p.trace).length
      ({ time := st.watch.next, action := .search } ::
          writeMoments s.pipeline st.writes (searched s st) (Trace.writes p.trace) ++
        [{ time := st.watch.next + takes, action := .passEnded p.result.isOk p.tracker }],
        { st with
          watch := st.watch.tick takes
          tracker := p.tracker
          searches := st.searches + 1
          writes := st.writes + (Trace.writes p.trace).length }) := by
  unfold watchTick
  rw [if_neg (by rw [calm]; decide)]
  rfl

theorem reading_eq (answers : answered s st = true) (c : Channel) :
    s.watcher.reading st.tracker (Pipeline.eventsAt s.start st.watch.next st.lines)
        (fun _ n => s.clock (searched s st + s.pipeline.writing st.writes n)) c =
      s.clock (reading s st c) := by
  cases c with
  | app => rfl
  | http =>
    simp only [Watcher.reading, reading, Tracker.resolutions_reconcile, Tracker.pending_drain, resolvedAt,
      verdict?_answered answers]
    rfl

section NextPass
variable {s : Setup} {st : State}

theorem nextPass_answered (answers : answered s st = true) :
    (∀ c, (nextPass s st).resolutions c = resolved s st c) ∧
      (∀ c, (nextPass s st).tracker.outstanding c =
        (st.tracker.outstanding c).filter fun m => (verdict? s st (reading s st c) m).isNone) ∧
      Trace.writes (nextPass s st).trace = samples s st ∧ (nextPass s st).result.isOk = true := by
  obtain ⟨-, works⟩ : s.pipeline.searchPanics st.searches = false ∧
      s.pipeline.searchFails st.searches = false := by
    simpa [answered] using answers
  have found : (Search.Reply.found (Pipeline.eventsAt s.start st.watch.next st.lines)).result =
      .ok (Pipeline.eventsAt s.start st.watch.next st.lines) := rfl
  have resolutions (c : Channel) : (nextPass s st).resolutions c = resolved s st c := by
    simp only [nextPass, works, Bool.false_eq_true, if_false]
    rw [Watcher.resolutions_found _ _ _ _ _ found, reading_eq s st answers, resolved, resolvedAt,
      verdict?_answered answers]
  refine ⟨resolutions, fun c => ?_, ?_, ?_⟩
  · simp only [nextPass, works, Bool.false_eq_true, if_false]
    rw [Watcher.outstanding_found _ _ _ _ _ found, reading_eq s st answers, verdict?_answered answers]
  · have returned : (nextPass s st).returned =
        (resolved s st .app).map (Prod.mk .app) ++ (resolved s st .http).map (Prod.mk .http) := by
      rw [← resolutions, ← resolutions]
      exact Watcher.returned_eq _ _ _ _ _
    have listed : Trace.writes (nextPass s st).trace = (nextPass s st).returned.map _ :=
      Watcher.writes_pass _ _ _ _ _ _
    rw [listed, returned, List.map_append, List.map_map, List.map_map]
    rfl
  · simp only [nextPass, works, Bool.false_eq_true, if_false, Watcher.pass, found]
    rfl

theorem nextPass_failed (fails : s.pipeline.searchFails st.searches = true) :
    (nextPass s st).tracker = st.tracker.drain ∧ Trace.writes (nextPass s st).trace = [] ∧
      (nextPass s st).result.isOk = false := by
  have failed : (Search.Reply.failed .http).result = .error .http := rfl
  have silent := (Watcher.unrecorded_failed s.watcher st.tracker (.failed .http)
    (fun _ n => s.clock (searched s st + s.pipeline.writing st.writes n)) s.sink st.writes failed).writes
  simp only [nextPass, fails, if_true]
  refine ⟨?_, silent, ?_⟩
  · rw [Watcher.pass_failed _ _ _ _ _ failed]
  · rw [Watcher.pass_failed _ _ _ _ _ failed]
    rfl

end NextPass

/-- Everything that a pass does; of the tracker that it leaves, no more is said than what is unresolved. -/
theorem watchTick_eq :
    ∃ t : Tracker,
      (∀ c, t.outstanding c =
        (st.tracker.outstanding c).filter fun m => (verdict? s st (reading s st c) m).isNone) ∧
      watchTick s st =
        (passMoments s st t,
          { st with
            watch := st.watch.tick (passTakes s st)
            tracker := t
            searches := st.searches + 1
            writes := st.writes + (samples s st).length }) := by
  cases answers : answered s st with
  | false =>
    -- A search that panics and one that fails differ in the trace, and leave the same tracker.
    have none := samples_unanswered answers
    have takes : passTakes s st = s.pipeline.searchTakes st.searches := by
      rw [passTakes, none]
      rfl
    refine ⟨st.tracker.drain, fun c => ?_, ?_⟩
    · rw [kept_unanswered answers, Tracker.outstanding_drain]
    · cases calm : s.pipeline.searchPanics st.searches with
      | true =>
        rw [passMoments, takes, none, answers]
        unfold watchTick
        rw [if_pos calm]
        rfl
      | false =>
        have fails : s.pipeline.searchFails st.searches = true := by
          simpa [answered, calm] using answers
        obtain ⟨tracker, silent, refused⟩ := nextPass_failed fails
        rw [watchTick_calm s st calm, passMoments, takes, none, answers]
        simp only [tracker, silent, refused]
        rfl
  | true =>
    obtain ⟨calm, -⟩ : s.pipeline.searchPanics st.searches = false ∧
        s.pipeline.searchFails st.searches = false := by
      simpa [answered] using answers
    obtain ⟨-, kept, writes, succeeds⟩ := nextPass_answered answers
    refine ⟨(nextPass s st).tracker, kept, ?_⟩
    rw [watchTick_calm s st calm, passMoments, answers]
    simp only [writes, succeeds]
    rfl

end Pass

section WriteMoments
variable (p : Pipeline) (w : Watcher) (c : Channel)

theorem writing_add (call m n : Nat) : p.writing call (m + n) = p.writing call m + p.writing (call + m) n := by
  induction m generalizing call with
  | zero => simp [Pipeline.writing]
  | succ m ih =>
    rw [Nat.add_right_comm, Pipeline.writing, Pipeline.writing, ih, Nat.add_assoc call 1 m, Nat.add_comm 1 m,
      Nat.add_assoc (p.writeTakes call)]

theorem writeMoments_append (call time : Nat) (first second : List Sample) :
    writeMoments p call time (first ++ second) =
      writeMoments p call time first ++
        writeMoments p (call + first.length) (time + p.writing call first.length) second := by
  induction first generalizing call time with
  | nil => rfl
  | cons sample first ih =>
    rw [List.cons_append, writeMoments, ih, writeMoments, List.length_cons, Pipeline.writing, List.cons_append,
      Nat.add_assoc time, Nat.add_assoc call, Nat.add_comm 1]

theorem views_writeMoments (call time : Nat) (samples : List Sample) :
    (writeMoments p call time samples).filterMap (Moment.emission? c) = [] ∧
      registered c (writeMoments p call time samples) = [] := by
  induction samples generalizing call time with
  | nil => exact ⟨rfl, rfl⟩
  | cons sample samples ih =>
    obtain ⟨emissions, markers⟩ := ih (call + 1) (time + p.writeTakes call)
    refine ⟨?_, markers⟩
    rw [writeMoments, List.filterMap_cons_none, emissions]
    cases c <;> rfl

theorem written_of_ne {d : Channel} (other : d ≠ c) (call time : Nat) (rs : List Resolution) :
    written c (writeMoments p call time (rs.map (w.sample d))) = [] := by
  induction rs generalizing call time with
  | nil => rfl
  | cons r rs ih =>
    rw [List.map_cons, writeMoments, written, List.filterMap_cons_none, ← written, ih]
    exact if_neg other

theorem written_writeMoments (call time : Nat) (rs : List Resolution) :
    List.Forall₂ (fun r (sample : Nat × Sample) => sample.2 = w.sample c r ∧ time ≤ sample.1 ∧
        sample.1 ≤ time + p.writing call rs.length)
      rs (written c (writeMoments p call time (rs.map (w.sample c)))) := by
  induction rs generalizing call time with
  | nil => exact .nil
  | cons r rs ih =>
    have own : Moment.sample? c { time, action := .write (w.sample c r) } = some (time, w.sample c r) :=
      if_pos rfl
    rw [List.map_cons, writeMoments, written, List.filterMap_cons_some own, ← written]
    refine .cons ⟨rfl, Nat.le_refl _, Nat.le_add_right _ _⟩ ?_
    refine (ih (call + 1) (time + p.writeTakes call)).imp fun r' sample ⟨same, after, before⟩ => ?_
    rw [List.length_cons, Pipeline.writing]
    exact ⟨same, by omega, by omega⟩

end WriteMoments

section PassMoments
variable (s : Setup) (st : State) (c : Channel)

theorem views_passMoments (t : Tracker) :
    (passMoments s st t).filterMap (Moment.emission? c) = [] ∧ registered c (passMoments s st t) = [] := by
  obtain ⟨emissions, markers⟩ := views_writeMoments s.pipeline c st.writes (searched s st) (samples s st)
  constructor
  · rw [passMoments, List.filterMap_append, List.filterMap_cons_none (by cases c <;> rfl), emissions]
    cases c <;> rfl
  · rw [passMoments, registered_append]
    exact congrArg (· ++ []) markers

/-- Every resolution of the next pass is written once, after the clock was read for its channel and before
the pass ends. -/
theorem written_passMoments (t : Tracker) :
    List.Forall₂ (fun r (sample : Nat × Sample) => sample.2 = s.watcher.sample c r ∧
        reading s st c ≤ sample.1 ∧ sample.1 ≤ st.watch.next + passTakes s st)
      (resolved s st c) (written c (passMoments s st t)) := by
  have ends : written c [{ time := st.watch.next + passTakes s st, action := .passEnded (answered s st) t }] = [] :=
    rfl
  have asks : written c (passMoments s st t) =
      written c (writeMoments s.pipeline st.writes (searched s st) (samples s st)) := by
    rw [passMoments, written_append, ends, List.append_nil]
    rfl
  have lengths : (samples s st).length = (resolved s st .app).length + (resolved s st .http).length := by
    simp [samples]
  have total : st.watch.next + passTakes s st = searched s st +
      (s.pipeline.writing st.writes (resolved s st .app).length +
        s.pipeline.writing (st.writes + (resolved s st .app).length) (resolved s st .http).length) := by
    rw [passTakes, lengths, writing_add, searched, Nat.add_assoc]
  rw [asks, total, samples, writeMoments_append, written_append, List.length_map]
  cases c with
  | app =>
    rw [written_of_ne (d := .http) _ _ _ (by decide), List.append_nil]
    refine (written_writeMoments s.pipeline s.watcher .app st.writes (searched s st) _).imp ?_
    intro r sample ⟨same, after, before⟩
    exact ⟨same, after, by omega⟩
  | http =>
    rw [written_of_ne (d := .app) _ _ _ (by decide), List.nil_append]
    refine (written_writeMoments s.pipeline s.watcher .http _ _ _).imp ?_
    intro r sample ⟨same, after, before⟩
    exact ⟨same, after, by omega⟩

end PassMoments
end DeliveryProbe.Monitor
