import DeliveryProbe.Proofs.Custody
import DeliveryProbe.Proofs.Elapsed
import DeliveryProbe.Proofs.Mention
import DeliveryProbe.Proofs.Rounding
import DeliveryProbe.Proofs.Timestamp

/-! The accuracy of the samples of a run. A line that mentions a marker is its own, the receipt in an event is
the moment at which the line became searchable, and the difference of two readings of the clock is the time
between them; so what a sample reports is the delay of the pipeline, or how long was waited in vain. -/
namespace DeliveryProbe
open Binary64 (Nearest)

/-- The pipeline makes every line of a channel searchable after one and the same time. -/
structure FixedDelays (p : Pipeline) (appDelay getTakes httpDelay : Nat) : Prop where
  app : ∀ call, p.appDelay call = appDelay
  get : ∀ call, p.getTakes call = getTakes
  http : ∀ call, p.httpDelay call = httpDelay

namespace Monitor

/-- The numbers of the emissions that do not fail have eight digits, are all different, and do not occur in
the monitored address. -/
structure Traceable (s : Setup) (ms : List Moment) : Prop where
  digits : ∀ c o, Sent s c ms o → EightDigits (s.number c o.call)
  distinct : ∀ c o d o', Sent s c ms o → Sent s d ms o' → s.number c o.call = s.number d o'.call →
    c = d ∧ o.call = o'.call
  absent : ∀ c o, Sent s c ms o → Text.contains s.config.monitoredUrl (s.number c o.call) = false

/-- A run that begins in no leap second and stays in the years of four digits. -/
structure FourDigitYears (s : Setup) (finished : Nat) : Prop where
  ordinary : s.start.Ordinary
  first : 0 ≤ s.start.date.year
  last : (s.clock finished).date.year ≤ 9999

section Clock
variable {s : Setup} {finished : Nat} (calendar : FourDigitYears s finished)
include calendar

theorem clock_readable {time : Nat} (within : time ≤ finished) :
    Instant.ofRfc3339? (s.clock time).rfc3339 = some (s.clock time) := by
  obtain ⟨ordinary, first, last⟩ := calendar
  obtain ⟨later, earlier⟩ := Instant.year_addMillis ordinary within
  have plain : (s.clock time).Ordinary := (Instant.addMillis_ordinary ordinary time).1
  refine Instant.ofRfc3339?_rfc3339 (by unfold Instant.Ordinary at plain; omega) ?_ ?_ ?_
  · exact fun leaps => absurd plain (Nat.not_lt_of_le leaps)
  · exact Int.le_trans first later
  · exact Int.le_trans earlier last

theorem ofMillis_clock {i j : Nat} (order : i ≤ j) (within : j ≤ finished) :
    ((s.clock i).secondsUntil (s.clock j)).OfMillis (j - i) := by
  have bounded := Instant.millis_lt_of_years calendar.ordinary calendar.first calendar.last
  rw [Instant.secondsUntil, Setup.clock, Setup.clock, Instant.millisUntil_addMillis calendar.ordinary order]
  exact Binary64.ofMillis_seconds (by omega)

end Clock

section Receipt
variable {s : Setup} {c : Channel} {ms : List Moment} {o : Origin}

theorem emittedAt_marker (s : Setup) (c : Channel) (o : Origin) : (s.marker c o).emittedAt = s.clock o.begun := by
  cases c <;> rfl

theorem visibleAt_line (s : Setup) (c : Channel) (o : Origin) :
    (s.line c o).visibleAt = o.begun + s.delay c o.call := rfl

theorem receipt_of_first {finished asked : Nat} {lines : List Pipeline.Line} {receipt : Instant}
    (calendar : FourDigitYears s finished) (traceable : Traceable s ms) (sent : Sent s c ms o)
    (found : ∀ line ∈ lines, ∃ d o', Sent s d ms o' ∧ line = s.line d o') (within : asked ≤ finished)
    (first : FirstReceipt (Pipeline.eventsAt s.start asked lines) (s.marker c o).id receipt) :
    o.begun + s.delay c o.call ≤ asked ∧ receipt = s.clock (o.begun + s.delay c o.call) := by
  obtain ⟨before, e, after, split, -, mentions, received⟩ := first
  have listed : e ∈ Pipeline.eventsAt s.start asked lines := by
    rw [split]
    exact List.mem_append_right _ List.mem_cons_self
  obtain ⟨line, member, rfl⟩ := List.mem_map.mp listed
  obtain ⟨member, visible⟩ := List.mem_filter.mp member
  obtain ⟨d, o', sent', rfl⟩ := found line member
  have number := number_eq_of_mentions (traceable.digits c o sent) (traceable.digits d o' sent')
    (traceable.absent c o sent) mentions
  obtain ⟨rfl, call⟩ := traceable.distinct c o d o' sent sent' number.symm
  obtain rfl := origin_eq_of_call sent.emitted sent'.emitted call
  have visible : o.begun + s.delay c o.call ≤ asked := of_decide_eq_true visible
  have readable := clock_readable calendar (Nat.le_trans visible within)
  rw [Event.receipt?_received, visibleAt_line] at received
  exact ⟨visible, Option.some.inj (received.symm.trans readable)⟩

theorem delay_of_first {finished asked : Nat} {lines : List Pipeline.Line} {receipt : Instant}
    (calendar : FourDigitYears s finished) (traceable : Traceable s ms) (sent : Sent s c ms o)
    (found : ∀ line ∈ lines, ∃ d o', Sent s d ms o' ∧ line = s.line d o') (within : asked ≤ finished)
    (first : FirstReceipt (Pipeline.eventsAt s.start asked lines) (s.marker c o).id receipt) :
    o.begun + s.delay c o.call ≤ asked ∧
      ((s.marker c o).emittedAt.secondsUntil receipt).OfMillis (s.delay c o.call) := by
  obtain ⟨visible, rfl⟩ := receipt_of_first calendar traceable sent found within first
  have delay := ofMillis_clock calendar (Nat.le_add_right o.begun (s.delay c o.call)) (Nat.le_trans visible within)
  rw [← emittedAt_marker s c o, Nat.add_sub_cancel_left] at delay
  exact ⟨visible, delay⟩

end Receipt

/-- What the sample of a channel reports. Of a marker that was delivered it is the delay with which lines of
the channel become searchable, and no more than the limit. Of any other it is the time from the emission to
the reading of the clock: the search has taken too long, or the line has come too late. -/
structure Accurate (s : Setup) (c : Channel) (ms : List Moment) (delay : Nat) (w : Nat × Sample) : Prop where
  system : w.2.system = s.config.systemName
  delivered : w.2.successful = true →
    Nearest w.2.drift delay 1000 ∧ delay ≤ 1000 * s.config.timeToFailureSeconds ∧
      w.2.drift.gt (.ofNat s.config.timeToFailureSeconds) = false
  undelivered : w.2.successful = false →
    ∃ o read, Sent s c ms o ∧ o.begun ≤ read ∧ read ≤ w.1 ∧ Nearest w.2.drift (read - o.begun) 1000 ∧
      (1000 * s.config.searchTimeoutSeconds < read - o.begun ∧
          w.2.drift.gt (.ofNat s.config.searchTimeoutSeconds) = true ∨
        1000 * s.config.timeToFailureSeconds < delay ∧ delay ≤ read - o.begun ∧
          read - o.begun ≤ 1000 * s.config.searchTimeoutSeconds ∧
          w.2.drift.gt (.ofNat s.config.timeToFailureSeconds) = true ∧
          w.2.drift.gt (.ofNat s.config.searchTimeoutSeconds) = false)

section Verdict
variable {s : Setup} {c : Channel} {ms : List Moment} {o : Origin} {finished asked read : Nat}
  {lines : List Pipeline.Line} {r : Resolution}

/-- What a verdict says in milliseconds. -/
structure Timed (s : Setup) (c : Channel) (o : Origin) (read : Nat) (r : Resolution) : Prop where
  delivered : r.outcome = .delivered →
    r.drift.OfMillis (s.delay c o.call) ∧ s.delay c o.call ≤ 1000 * s.config.timeToFailureSeconds
  undelivered : r.outcome ≠ .delivered →
    r.drift.OfMillis (read - o.begun) ∧
      (1000 * s.config.searchTimeoutSeconds < read - o.begun ∨
        1000 * s.config.timeToFailureSeconds < s.delay c o.call ∧ s.delay c o.call ≤ read - o.begun ∧
          read - o.begun ≤ 1000 * s.config.searchTimeoutSeconds)

theorem timed_of_verdict (calendar : FourDigitYears s finished) (traceable : Traceable s ms) (sent : Sent s c ms o)
    (begun : o.begun ≤ asked) (reads : asked ≤ read) (within : read ≤ finished)
    (found : ∀ line ∈ lines, ∃ d o', Sent s d ms o' ∧ line = s.line d o')
    (verdict :
      (s.marker c o).Verdict (Pipeline.eventsAt s.start asked lines) (s.clock read) s.watcher.limits r) :
    Timed s c o read r := by
  have age := ofMillis_clock calendar (Nat.le_trans begun reads) within
  rw [← emittedAt_marker s c o] at age
  have young_iff (young : ¬ (s.marker c o).Expired (s.clock read) s.watcher.limits) :
      read - o.begun ≤ 1000 * s.config.searchTimeoutSeconds :=
    Nat.le_of_not_lt fun old => young ((age.gt_iff _).mpr old)
  cases verdict with
  | timedOut expired =>
    exact ⟨(fun impossible => nomatch impossible), fun _ => ⟨age, .inl ((age.gt_iff _).mp expired)⟩⟩
  | slow young first late =>
    obtain ⟨visible, delay⟩ := delay_of_first calendar traceable sent found (Nat.le_trans reads within) first
    have waited : s.delay c o.call ≤ read - o.begun := by omega
    refine ⟨(fun impossible => nomatch impossible), fun _ => ⟨age, .inr ⟨?_, waited, young_iff young⟩⟩⟩
    exact (delay.gt_iff _).mp late
  | delivered young first inTime =>
    obtain ⟨-, delay⟩ := delay_of_first calendar traceable sent found (Nat.le_trans reads within) first
    refine ⟨fun _ => ⟨delay, ?_⟩, fun other => absurd rfl other⟩
    exact Nat.le_of_not_lt fun late => inTime ((delay.gt_iff _).mpr late)

end Verdict

theorem accurate_of_tells {s : Setup} {c : Channel} {ms : List Moment} {o : Origin} {w : Nat × Sample} {finished : Nat}
    (calendar : FourDigitYears s finished) (traceable : Traceable s ms) (tells : Tells s c ms o w)
    (within : w.1 ≤ finished) : Accurate s c ms (s.delay c o.call) w := by
  obtain @⟨asked, read, time, lines, r, sent, registered, reads, writes, found, verdict⟩ := tells
  have begun := Nat.le_trans (begun_le_registeredAt s c o) registered
  have timed := timed_of_verdict calendar traceable sent begun reads (Nat.le_trans writes within) found verdict
  constructor
  case system => rfl
  case delivered =>
    intro successful
    obtain ⟨drift, inTime⟩ := timed.delivered (of_decide_eq_true successful)
    have same : (s.watcher.sample c r).drift = r.drift := drift.clamped
    rw [same]
    refine ⟨drift.nearest, inTime, Bool.eq_false_iff.mpr fun late => ?_⟩
    exact Nat.not_lt_of_le inTime ((drift.gt_iff _).mp late)
  case undelivered =>
    intro unsuccessful
    obtain ⟨drift, cause⟩ := timed.undelivered (of_decide_eq_false unsuccessful)
    have same : (s.watcher.sample c r).drift = r.drift := drift.clamped
    rw [same, drift.gt_iff, drift.gt_iff, Bool.eq_false_iff, Ne, drift.gt_iff]
    exact ⟨o, read, sent, Nat.le_trans begun reads, writes, drift.nearest, by omega⟩

theorem delay_eq {s : Setup} {appDelay getTakes httpDelay : Nat}
    (fixed : FixedDelays s.pipeline appDelay getTakes httpDelay) (c : Channel) (call : Nat) :
    s.delay c call = match c with | .app => appDelay | .http => getTakes + httpDelay := by
  cases c with
  | app => exact fixed.app call
  | http => rw [Setup.delay, fixed.get, fixed.http]

/-- In every run of a validated configuration against a pipeline with fixed delays all samples are accurate. -/
theorem run_accurate {settings : Settings} {s : Setup} (validated : settings.finish = .ok s.config)
    {appDelay getTakes httpDelay : Nat} (fixed : FixedDelays s.pipeline appDelay getTakes httpDelay) :
    ∃ r, run? s = some r ∧
      (Traceable s r.moments → FourDigitYears s r.finished → ∀ c, ∀ w ∈ written c r.moments,
        Accurate s c r.moments (match c with | .app => appDelay | .http => getTakes + httpDelay) w) := by
  obtain ⟨r, ran⟩ := run?_isSome (periodic_of_finish validated)
  refine ⟨r, ran, fun traceable calendar c w member => ?_⟩
  obtain ⟨reached, -, finished⟩ := reached_run ran
  obtain ⟨judged, held, custody⟩ := custody_reached (c := c) reached
  obtain ⟨o, -, tells⟩ := forall₂_mem_right custody.samples member
  have early := (consistent_reached reached).writes c w member
  have accurate := accurate_of_tells calendar traceable tells (by omega)
  rwa [delay_eq fixed] at accurate

namespace Trial

def settings : Settings :=
  { text := fun
      | .systemName => some "shop"
      | .monitoredUrl => some "http://localhost:8080/"
      | .searchToken => some "token"
      | .storeUrl => some "http://localhost:8086/"
      | _ => none
    number := fun
      | .appInterval => some 2
      | .httpInterval => some 2
      | .watchInterval => some 2
      | _ => none
    dryRun := none }

def outcome (c : Channel) (out : List Moment × State) : List Origin × List Bool × Nat :=
  (emissions c out.1, (written c out.1).map (·.2.successful),
    max setup.shutdownAt (max out.2.app.free (max out.2.http.free out.2.watch.free)))

theorem outcome_run :
    ∃ r, run? setup = some r ∧ r.finished = 3 ∧
      ∀ c, emissions c r.moments = [⟨0, 0⟩, ⟨1, 2⟩] ∧ (written c r.moments).map (·.2.successful) = [true] := by
  have evaluated : ((start? setup).bind (runWithin setup 8)).map (fun out => (outcome .app out, outcome .http out)) =
      some (([⟨0, 0⟩, ⟨1, 2⟩], [true], 3), ([⟨0, 0⟩, ⟨1, 2⟩], [true], 3)) := by
    decide +kernel
  obtain ⟨out, within, shows⟩ := Option.map_eq_some_iff.mp evaluated
  obtain ⟨r, ran, moments, last⟩ := run?_of_runWithin within
  obtain ⟨-, -, finished⟩ := reached_run ran
  obtain ⟨app, http⟩ := Prod.mk.inj shows
  obtain ⟨appEmissions, rest⟩ := Prod.mk.inj app
  obtain ⟨appSamples, ends⟩ := Prod.mk.inj rest
  obtain ⟨httpEmissions, rest'⟩ := Prod.mk.inj http
  obtain ⟨httpSamples, -⟩ := Prod.mk.inj rest'
  refine ⟨r, ran, ?_, fun c => ?_⟩
  · rw [finished, last, ends]
  · rw [moments]
    cases c with
    | app => exact ⟨appEmissions, appSamples⟩
    | http => exact ⟨httpEmissions, httpSamples⟩

theorem traceable {ms : List Moment} (all : ∀ c, emissions c ms = [⟨0, 0⟩, ⟨1, 2⟩]) : Traceable setup ms := by
  have calls {c : Channel} {o : Origin} (sent : Sent setup c ms o) : o.call = 0 ∨ o.call = 1 := by
    have member := sent.emitted
    rw [Emitted, all] at member
    rcases List.mem_pair.mp member with rfl | rfl
    · exact .inl rfl
    · exact .inr rfl
  constructor
  case digits =>
    intro c o sent
    rcases calls sent with call | call <;> rw [call] <;> cases c <;> decide
  case distinct =>
    intro c o d o' sent sent' same
    have same := congrArg String.toList same
    rcases calls sent with call | call <;> rcases calls sent' with call' | call' <;> rw [call, call'] at same ⊢ <;>
      revert same <;> cases c <;> cases d <;> decide
  case absent =>
    intro c o sent
    rcases calls sent with call | call <;> rw [call] <;> cases c <;> decide

/-- In the trial one line of either channel is found, and its sample reports the one millisecond, or two, for
which the line was on its way. -/
theorem samples_accurate :
    settings.finish = .ok setup.config ∧ FixedDelays setup.pipeline 1 1 1 ∧
      ∃ r, run? setup = some r ∧ Traceable setup r.moments ∧ FourDigitYears setup r.finished ∧
        ∀ c, ∃ w ∈ written c r.moments, Nearest w.2.drift (match c with | .app => 1 | .http => 2) 1000 := by
  have validated : settings.finish = .ok setup.config := rfl
  have fixed : FixedDelays setup.pipeline 1 1 1 := ⟨fun _ => rfl, fun _ => rfl, fun _ => rfl⟩
  obtain ⟨r, ran, accurate⟩ := run_accurate validated fixed
  obtain ⟨r', ran', finished, shows⟩ := outcome_run
  obtain rfl := Option.some.inj (ran.symm.trans ran')
  have traced := traceable fun c => (shows c).1
  have calendar : FourDigitYears setup r.finished := by
    rw [finished]
    exact ⟨by decide, by decide, by decide⟩
  refine ⟨validated, fixed, r, ran, traced, calendar, fun c => ?_⟩
  obtain ⟨w, listed⟩ := List.map_eq_singleton_iff.mp (shows c).2
  have member : w ∈ written c r.moments := by
    rw [listed.1]
    exact List.mem_singleton_self w
  exact ⟨w, member, ((accurate traced calendar c w member).delivered listed.2).1⟩

end Trial
end Monitor
end DeliveryProbe
