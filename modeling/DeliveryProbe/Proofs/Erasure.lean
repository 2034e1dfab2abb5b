import DeliveryProbe.Proofs.Recording
import DeliveryProbe.Session

/-! A pass with a failed search can be left out of a session. It only moves waiting markers into the
pending sets, where the next pass would have put them, so two sessions that differ in no more than that give
the same answers ever after. -/
namespace DeliveryProbe

/-- Two trackers with the same unresolved markers on either channel, however many of them still wait; or
none on either side. -/
inductive Tracker.Alike : Option Tracker → Option Tracker → Prop where
  | gone : Alike none none
  | held {t t' : Tracker} (outstanding : ∀ c, t.outstanding c = t'.outstanding c) :
      Alike (some t) (some t')

namespace Tracker

theorem Alike.refl (t? : Option Tracker) : Alike t? t? := by
  cases t? with
  | none => exact .gone
  | some t => exact .held fun _ => rfl

theorem Alike.register {t t' : Tracker} (outstanding : ∀ c, t.outstanding c = t'.outstanding c)
    (c : Channel) (m : Marker) : Alike (some (t.register c m)) (some (t'.register c m)) := by
  refine .held fun d => ?_
  rw [outstanding_register, outstanding_register, outstanding d]

theorem drain_congr {t t' : Tracker} (outstanding : ∀ c, t.outstanding c = t'.outstanding c) :
    t.drain = t'.drain := by
  rw [drain_eq, drain_eq, outstanding .app, outstanding .http]

end Tracker

theorem Watcher.pass_congr (w : Watcher) {t t' : Tracker} (drained : t.drain = t'.drain)
    (search : Search.Reply) (clock : Channel → Nat → Instant) (sink : Sink) (firstWrite : Nat) :
    w.pass t search clock sink firstWrite = w.pass t' search clock sink firstWrite := by
  simp only [pass, drained]

namespace Session

/-- Two sessions that differ only in how many of their unresolved markers still wait. -/
structure Alike (s s' : Session) : Prop where
  tracker : Tracker.Alike s.tracker s'.tracker
  now : s.now = s'.now
  taken : s.taken = s'.taken

theorem Alike.refl (s : Session) : Alike s s := ⟨.refl _, rfl, rfl⟩

variable (setup : Setup) {s s' : Session}

theorem watch_congr (alike : Alike s s') (search : Search.Reply) (writes : List (Except Failure Unit)) :
    s.step setup (.watch search writes) = s'.step setup (.watch search writes) := by
  obtain ⟨t?, now, taken⟩ := s
  obtain ⟨t'?, now', taken'⟩ := s'
  obtain ⟨same, rfl, rfl⟩ := alike
  cases same with
  | gone => rfl
  | held outstanding =>
    have passes := setup.watcher.pass_congr (Tracker.drain_congr outstanding) search (fun _ _ => now)
      (sinkOf setup writes) 0
    simp only [step, passes]

/-- Alike sessions answer a step in the same way, and stay alike. -/
theorem step_alike (alike : Alike s s') (next : Step) :
    (s.step setup next).1 = (s'.step setup next).1 ∧
      Alike (s.step setup next).2 (s'.step setup next).2 := by
  obtain ⟨t?, now, taken⟩ := s
  obtain ⟨t'?, now', taken'⟩ := s'
  obtain ⟨same, rfl, rfl⟩ := alike
  cases next with
  | register c id emittedAt =>
    cases same with
    | gone => exact ⟨rfl, .gone, rfl, rfl⟩
    | held outstanding => exact ⟨rfl, .register outstanding _ _, rfl, rfl⟩
  | emitApp written =>
    cases same with
    | gone => cases written <;> exact ⟨rfl, .gone, rfl, rfl⟩
    | held outstanding =>
      cases written with
      | error f => exact ⟨rfl, .held outstanding, rfl, rfl⟩
      | ok => exact ⟨rfl, .register outstanding _ _, rfl, rfl⟩
  | emitHttp reply =>
    cases same with
    | gone => cases reply <;> exact ⟨rfl, .gone, rfl, rfl⟩
    | held outstanding =>
      cases reply with
      | error f => exact ⟨rfl, .held outstanding, rfl, rfl⟩
      | ok status => exact ⟨rfl, .register outstanding _ _, rfl, rfl⟩
  | advance nanos =>
    cases shifted : now.shift? nanos with
    | none =>
      simp only [step, shifted, true_and]
      exact ⟨same, rfl, rfl⟩
    | some later =>
      simp only [step, shifted, true_and]
      exact ⟨same, rfl, rfl⟩
  | set instant => exact ⟨rfl, same, rfl, rfl⟩
  | record c successful drift writes => exact ⟨rfl, same, rfl, rfl⟩
  | watch search writes =>
    -- Here the sessions become equal: the pass drains both trackers to the same one.
    rw [watch_congr setup ⟨same, rfl, rfl⟩ search writes]
    exact ⟨rfl, .refl _⟩
  | dropWatcher => exact ⟨rfl, .gone, rfl, rfl⟩

theorem run_alike (alike : Alike s s') (steps : List Step) :
    (run setup s steps).map Prod.fst = (run setup s' steps).map Prod.fst ∧
      List.Forall₂ Alike ((run setup s steps).map Prod.snd) ((run setup s' steps).map Prod.snd) := by
  induction steps generalizing s s' with
  | nil => exact ⟨rfl, .nil⟩
  | cons next steps ih =>
    have stepped := step_alike setup alike next
    have rest := ih stepped.2
    rw [run, run, List.map_cons, List.map_cons, List.map_cons, List.map_cons, stepped.1, rest.1]
    exact ⟨rfl, .cons stepped.2 rest.2⟩

theorem after_alike (alike : Alike s s') (steps : List Step) :
    Alike (after setup s steps) (after setup s' steps) := by
  induction steps generalizing s s' with
  | nil => exact alike
  | cons next steps ih => exact ih (step_alike setup alike next).2

theorem run_watch (alike : Alike s s') {steps : List Step} {k : Nat} {search : Search.Reply}
    {writes : List (Except Failure Unit)} (passes : steps[k]? = some (.watch search writes)) :
    (run setup s steps)[k]? = (run setup s' steps)[k]? := by
  rw [getElem?_run, getElem?_run, passes, Option.map_some, Option.map_some,
    watch_congr setup (after_alike setup alike (steps.take k)) search writes]

theorem step_tracker (kept : ∃ t, s.tracker = some t) {next : Step} (keeps : next ≠ .dropWatcher) :
    ∃ t, (s.step setup next).2.tracker = some t := by
  obtain ⟨t?, now, taken⟩ := s
  obtain ⟨t, rfl⟩ := kept
  cases next with
  | register c id emittedAt => exact ⟨_, rfl⟩
  | emitApp written => cases written <;> exact ⟨_, rfl⟩
  | emitHttp reply => cases reply <;> exact ⟨_, rfl⟩
  | advance nanos =>
    cases shifted : now.shift? nanos with
    | none => exact ⟨t, by simp only [step, shifted]⟩
    | some later => exact ⟨t, by simp only [step, shifted]⟩
  | set instant => exact ⟨t, rfl⟩
  | record c successful drift writes => exact ⟨t, rfl⟩
  | watch search writes => exact ⟨_, rfl⟩
  | dropWatcher => contradiction

theorem after_tracker (kept : ∃ t, s.tracker = some t) {steps : List Step}
    (keeps : Step.dropWatcher ∉ steps) : ∃ t, (after setup s steps).tracker = some t := by
  induction steps generalizing s with
  | nil => exact kept
  | cons next steps ih =>
    rw [List.mem_cons, not_or] at keeps
    exact ih (step_tracker setup kept (Ne.symm keeps.1)) keeps.2

/-- A pass with a failed search only empties the intake. -/
theorem watch_failed {t : Tracker} (held : s.tracker = some t) {search : Search.Reply} {f : Failure}
    (failed : search.result = .error f) (writes : List (Except Failure Unit)) :
    s.step setup (.watch search writes) =
      ({ reply := .refused f
         trace := (setup.watcher.pass t search (fun _ _ => s.now) (sinkOf setup writes) 0).trace },
        { s with tracker := some t.drain }) := by
  simp only [step, held, Watcher.pass_failed setup.watcher t _ _ 0 failed]

theorem alike_drain {t : Tracker} (held : s.tracker = some t) :
    Alike { s with tracker := some t.drain } s where
  tracker := by
    rw [held]
    exact .held fun c => Tracker.outstanding_drain t c
  now := rfl
  taken := rfl

def writes (answers : List (Answer × Session)) : List Sample :=
  (answers.map Prod.fst).flatMap fun answer => Trace.writes answer.trace

theorem writes_append (first second : List (Answer × Session)) :
    writes (first ++ second) = writes first ++ writes second := by
  rw [writes, List.map_append, List.flatMap_append, writes, writes]

/-- Leaving a pass with a failed search out of a session changes no answer to another step and no sample;
at every point afterwards the same markers are unresolved, and after every later pass the sessions are the
same. The pass itself is refused with the error of the search, counts it once, records nothing of any
resolution, and keeps all that is unresolved. -/
theorem failed_pass_erased (now : Instant) {before : List Step} (kept : Step.dropWatcher ∉ before)
    {search : Search.Reply} {f : Failure} (failed : search.result = .error f)
    (sinkAnswers : List (Except Failure Unit)) (later : List Step) :
    let s := after setup (start now) before
    let refused := s.step setup (.watch search sinkAnswers)
    let whole := run setup (start now) (before ++ .watch search sinkAnswers :: later)
    let erased := run setup (start now) (before ++ later)
    whole = run setup (start now) before ++ refused :: run setup refused.2 later ∧
      erased = run setup (start now) before ++ run setup s later ∧
      refused.1.reply = .refused f ∧
      Trace.writes refused.1.trace = [] ∧
      (Trace.metrics refused.1.trace).filter Metric.ofResolution = [] ∧
      (Trace.metrics refused.1.trace).count .searchFailed = 1 ∧
      Alike refused.2 s ∧
      (run setup refused.2 later).map Prod.fst = (run setup s later).map Prod.fst ∧
      writes whole = writes erased ∧
      List.Forall₂ Alike ((run setup refused.2 later).map Prod.snd) ((run setup s later).map Prod.snd) ∧
      ∀ (k : Nat) search' sinkAnswers', later[k]? = some (.watch search' sinkAnswers') →
        (run setup refused.2 later)[k]? = (run setup s later)[k]? := by
  intro s refused whole erased
  obtain ⟨t, held⟩ := after_tracker setup (s := start now) ⟨.empty, rfl⟩ kept
  have pass : refused = _ := watch_failed setup held failed sinkAnswers
  have alike : Alike refused.2 s := by
    rw [pass]
    exact alike_drain held
  have unrecorded : Trace.Unrecorded refused.1.trace := by
    rw [pass]
    exact Watcher.unrecorded_failed setup.watcher t search _ _ 0 failed
  have counted : (Trace.metrics refused.1.trace).count .searchFailed = 1 := by
    rw [pass]
    exact Watcher.count_searchFailed setup.watcher t search _ _ 0 failed
  have split : whole = run setup (start now) before ++ refused :: run setup refused.2 later :=
    run_append setup (start now) before _
  have joined : erased = run setup (start now) before ++ run setup s later :=
    run_append setup (start now) before later
  -- What comes later is compared in two runs, whose sessions only have to be alike.
  have tails := run_alike setup alike later
  have samples : writes whole = writes erased := by
    rw [split, joined, writes_append, writes_append, writes, writes, List.map_cons, List.flatMap_cons,
      unrecorded.writes, List.nil_append, tails.1, writes]
  have replied : refused.1.reply = .refused f := by rw [pass]
  exact ⟨split, joined, replied, unrecorded.writes, unrecorded.metrics, counted, alike, tails.1, samples,
    tails.2, fun k _ _ passes => run_watch setup alike passes⟩

namespace Outage

def shop : Setup :=
  { watcher :=
      { system := "shop", limits := { searchTimeout := 3600, timeToFailure := 60 }, dryRun := false }
    monitoredUrl := "http://localhost:8080"
    announces := false
    number := fun _ taken => toString taken }

def noon : Instant := { second := 1709294400, nano := 0 }

/-- A marker is emitted in the application's log, and its hour passes. -/
def before : List Step := [.emitApp (.ok ()), .advance 3601000000000]

def errorPage : Search.Reply := .unreadable "<html>Bad Gateway</html>"

/-- What the search finds when it is back: the next marker, two seconds after it was emitted. -/
def recovered : Search.Reply := .found [{ message := "id 1", receivedAt := some "2024-03-01T13:00:03Z" }]

def later : List Step := [.emitApp (.ok ()), .advance 4000000000, .watch recovered []]

def measurements : List Sample :=
  [{ system := "shop", channel := .app, successful := false, drift := .ofNat 3605 },
    { system := "shop", channel := .app, successful := true, drift := .ofNat 2 }]

/-- The first marker expires while the search answers with an error page. It still waits in the session that was not
asked, and no longer does in the other; the next pass gives it up in both, and both find the second one. -/
theorem error_page_erased :
    let s := after shop (start noon) before
    let refused := s.step shop (.watch errorPage [])
    let whole := run shop (start noon) (before ++ .watch errorPage [] :: later)
    Step.dropWatcher ∉ before ∧
      errorPage.result = .error (.malformedSearch "<html>Bad Gateway</html>") ∧
      refused.1.reply = .refused (.malformedSearch "<html>Bad Gateway</html>") ∧
      Trace.writes refused.1.trace = [] ∧
      Alike refused.2 s ∧
      refused.2.tracker ≠ s.tracker ∧
      (run shop refused.2 later)[2]? = (run shop s later)[2]? ∧
      writes whole = writes (run shop (start noon) (before ++ later)) ∧
      writes whole = measurements := by
  intro s refused whole
  have kept : Step.dropWatcher ∉ before := by simp [before]
  have failed : errorPage.result = .error (.malformedSearch "<html>Bad Gateway</html>") := by decide
  obtain ⟨_, _, replied, unwritten, _, _, alike, _, samples, _, passes⟩ :=
    failed_pass_erased shop noon kept failed [] later
  have moved : refused.2.tracker ≠ s.tracker := by decide
  have found : writes (run shop (start noon) (before ++ later)) = measurements := by decide +kernel
  exact ⟨kept, failed, replied, unwritten, alike, moved, passes 2 recovered [] rfl, samples, samples.trans found⟩

end Outage
end Session
end DeliveryProbe
