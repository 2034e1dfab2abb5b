import DeliveryProbe.Proofs.Range
import DeliveryProbe.Proofs.Recording
import DeliveryProbe.Proofs.Seconds
import DeliveryProbe.Proofs.Timestamp

/-! The bands in which drifts lie. A marker that is delivered was received in time, one that is given up has been
looked for too long, and one that is slow has been out for longer than its receipt was late, as long as the clock of
the watcher is not behind the receipts. So an alert on successful or failed samples may rely on the limits. -/
namespace DeliveryProbe

namespace Binary64
variable {x : Binary64} {n : Nat}

theorem zero_gt_iff : zero.gt x = true ↔ ∃ i, x.rank? = some i ∧ i < 0 := by
  rw [gt_iff_rank]
  constructor
  · rintro ⟨i, j, origin, own, below⟩
    obtain rfl := Option.some.inj origin
    exact ⟨j, own, below⟩
  · rintro ⟨j, own, below⟩
    exact ⟨_, j, rfl, own, below⟩

theorem notNegative_zero : zero.NotNegative := ⟨_, rfl, Int.natCast_nonneg _⟩

theorem atMost_zero (n : Nat) : zero.AtMost n := by
  refine ⟨_, rfl, ?_⟩
  rw [units_small binade_pos]
  exact Int.natCast_nonneg _

theorem Above.clampNegative_eq (above : x.Above n) : x.clampNegative = x := by
  refine if_neg fun below => ?_
  obtain ⟨i, rank, negative⟩ := zero_gt_iff.mp below
  obtain ⟨v, value, greater⟩ := above
  cases x with
  | nan | infinite _ => contradiction
  | finite sign step =>
    obtain rfl := Option.some.inj rank
    obtain rfl := Option.some.inj value
    cases sign <;> simp only [if_true, Bool.false_eq_true, if_false] at negative greater <;> omega

theorem AtMost.clampNegative (most : x.AtMost n) : x.clampNegative.AtMost n := by
  unfold Binary64.clampNegative
  split
  · exact atMost_zero n
  · exact most

theorem Moderate.clampNegative (moderate : x.Moderate) : x.clampNegative.NotNegative := by
  unfold Binary64.clampNegative
  split
  · exact notNegative_zero
  · next above =>
    obtain ⟨sign, step, rfl, -⟩ := moderate
    cases sign with
    | false => exact ⟨_, rfl, Int.natCast_nonneg _⟩
    | true =>
      have origin : (step : Nat) = 0 := by
        by_contra away
        exact above (zero_gt_iff.mpr ⟨_, rfl, by simp only [if_true]; omega⟩)
      exact ⟨_, rfl, by simp [origin, units_small binade_pos]⟩

end Binary64

/-- The instant up to which the drift of a resolution is measured: the receipt of a marker that was delivered, and
for any other the reading of the clock. -/
inductive Resolution.MeasuredTo (r : Resolution) (events : List Event) (now : Instant) : Instant → Prop where
  | receipt {receipt : Instant} (delivered : r.outcome = .delivered)
      (first : FirstReceipt events r.marker.id receipt) : MeasuredTo r events now receipt
  | now (failed : r.outcome ≠ .delivered) : MeasuredTo r events now now

/-- The drift lies where its outcome says. -/
structure Resolution.InBand (r : Resolution) (now : Instant) (limits : Thresholds) : Prop where
  delivered : r.outcome = .delivered → r.drift.AtMost limits.timeToFailure
  timedOut : r.outcome = .timedOut → r.drift.Above limits.searchTimeout
  slow : r.outcome = .slow → r.drift = r.marker.emittedAt.secondsUntil now ∧ r.drift.AtMost limits.searchTimeout

/-- The drift of a slow marker is beyond the limit, and no less than the time it took to be received. -/
structure Resolution.Overdue (r : Resolution) (events : List Event) (limits : Thresholds) : Prop where
  beyond : r.drift.Above limits.timeToFailure
  delay : ∀ receipt, FirstReceipt events r.marker.id receipt →
    (r.marker.emittedAt.secondsUntil receipt).NoMore r.drift

/-- The drift of a sample lies where its success says. -/
structure Sample.InBand (s : Sample) (limits : Thresholds) : Prop where
  successful : s.successful = true → s.drift.NotNegative ∧ s.drift.AtMost limits.timeToFailure
  failed : s.successful = false → s.drift.Above (min limits.timeToFailure limits.searchTimeout)

theorem FirstReceipt.representable {events : List Event} {text : String} {receipt : Instant}
    (first : FirstReceipt events text receipt) : receipt.Representable := by
  obtain ⟨before, e, after, -, -, -, parsed⟩ := first
  exact Instant.representable_receipt parsed

namespace Marker
variable {m : Marker} {events : List Event} {now : Instant} {limits : Thresholds} {r : Resolution}

/-- No event that can be used for the marker was received after an instant, or in a leap second. -/
def ReceivedBy (m : Marker) (events : List Event) (now : Instant) : Prop :=
  ∀ e ∈ events, e.mentions m.id = true → ∀ receipt, e.receipt? = some receipt →
    receipt.Ordinary ∧ receipt.NoLater now

theorem ReceivedBy.first {receipt : Instant} (received : m.ReceivedBy events now)
    (first : FirstReceipt events m.id receipt) : receipt.Ordinary ∧ receipt.NoLater now := by
  obtain ⟨before, e, after, rfl, -, mentions, parsed⟩ := first
  exact received e (List.mem_append_right _ List.mem_cons_self) mentions receipt parsed

theorem Verdict.measuredTo (verdict : Verdict m events now limits r) (clock : now.Representable) :
    ∃ t, r.MeasuredTo events now t ∧ t.Representable ∧ r.drift = m.emittedAt.secondsUntil t := by
  cases verdict with
  | timedOut _ | slow _ _ _ =>
    refine ⟨now, .now nofun, clock, ?_⟩
    dsimp only
  | delivered young first inTime =>
    refine ⟨_, .receipt rfl first, first.representable, ?_⟩
    dsimp only

section
variable (emitted : m.emittedAt.Representable) (clock : now.Representable)
include emitted clock

theorem Verdict.moderate (verdict : Verdict m events now limits r) : r.drift.Moderate := by
  obtain ⟨t, -, last, drift⟩ := verdict.measuredTo clock
  rw [drift]
  exact Instant.moderate_secondsUntil emitted last

theorem Verdict.inBand (verdict : Verdict m events now limits r) : r.InBand now limits := by
  have moderate := verdict.moderate emitted clock
  cases verdict with
  | timedOut expired =>
    dsimp only at moderate
    refine ⟨nofun, fun _ => ?_, nofun⟩
    dsimp only
    exact moderate.gt_iff_above.mp expired
  | slow young first late =>
    dsimp only at moderate
    have most := moderate.not_above_iff.mp (mt moderate.gt_iff_above.mpr young)
    refine ⟨nofun, nofun, fun _ => ?_⟩
    dsimp only
    exact ⟨rfl, most⟩
  | delivered young first inTime =>
    dsimp only at moderate
    have most := moderate.not_above_iff.mp (mt moderate.gt_iff_above.mpr inTime)
    refine ⟨fun _ => ?_, nofun, nofun⟩
    dsimp only
    exact most

variable (ordinary : m.emittedAt.Ordinary) (ordinary' : now.Ordinary)
include ordinary ordinary'

theorem Verdict.overdue (verdict : Verdict m events now limits r) (received : m.ReceivedBy events now)
    (slow : r.outcome = .slow) : r.Overdue events limits := by
  cases verdict with
  | timedOut _ | delivered _ _ _ => nomatch slow
  | @slow receipt young first late =>
    obtain ⟨plain, order⟩ := received.first first
    have delay := Instant.moderate_secondsUntil emitted first.representable
    have ahead : 0 ≤ m.emittedAt.millisUntil receipt := by
      by_contra past
      exact Binary64.not_seconds_gt_of_neg (Int.not_le.mp past) _ late
    have more := Instant.secondsUntil_noMore ordinary plain ordinary' emitted clock ahead order
    constructor
    · dsimp only
      exact (delay.gt_iff_above.mp late).mono more
    intro other first'
    dsimp only
    obtain rfl := Option.some.inj ((firstReceipt_correct.mpr first').symm.trans (firstReceipt_correct.mpr first))
    exact more

theorem Verdict.sample_inBand (verdict : Verdict m events now limits r) (received : m.ReceivedBy events now)
    (w : Watcher) (c : Channel) : (w.sample c r).InBand limits := by
  have moderate := verdict.moderate emitted clock
  have band := verdict.inBand emitted clock
  have overdue := verdict.overdue emitted clock ordinary ordinary' received
  constructor
  case successful =>
    intro successful
    exact ⟨moderate.clampNegative, (band.delivered (of_decide_eq_true successful)).clampNegative⟩
  case failed =>
    intro failed
    cases outcome : r.outcome with
    | delivered => exact absurd outcome (of_decide_eq_false failed)
    | timedOut =>
      have beyond := band.timedOut outcome
      rw [Watcher.sample, Sample.measured, beyond.clampNegative_eq]
      exact beyond.of_le (Nat.min_le_right _ _)
    | slow =>
      have beyond := (overdue outcome).beyond
      rw [Watcher.sample, Sample.measured, beyond.clampNegative_eq]
      exact beyond.of_le (Nat.min_le_left _ _)

theorem Verdict.not_slow (verdict : Verdict m events now limits r) (received : m.ReceivedBy events now)
    (patient : limits.searchTimeout ≤ limits.timeToFailure) : r.outcome ≠ .slow := by
  intro slow
  have most := (verdict.inBand emitted clock).slow slow
  exact most.2.not_above patient (verdict.overdue emitted clock ordinary ordinary' received slow).beyond

end
end Marker

namespace Watcher

/-- The instants of a step can be represented and lie in no leap second, and no event was received later than the
clock shows. -/
def Step.Orderly : Step → Prop
  | .register _ m => m.emittedAt.Representable ∧ m.emittedAt.Ordinary
  | .pass search now _ _ =>
    ∀ c, (now c).Representable ∧ (now c).Ordinary ∧ ∀ events, search.result = .ok events → ∀ e ∈ events,
      ∀ receipt, e.receipt? = some receipt → receipt.Ordinary ∧ receipt.NoLater (now c)

theorem emitted_orderly {steps : List Step} (orderly : ∀ s ∈ steps, s.Orderly) {c : Channel} {m : Marker}
    (listed : m ∈ registered c steps) : m.emittedAt.Representable ∧ m.emittedAt.Ordinary := by
  obtain ⟨s, taken, registers⟩ := List.mem_flatMap.mp listed
  cases s with
  | pass _ _ _ _ => contradiction
  | register d other =>
    rw [Step.registered] at registers
    split at registers
    · obtain rfl := List.mem_singleton.mp registers
      exact orderly _ taken
    · contradiction

end Watcher

/-- The bands of drifts, of one reconciliation and of all passes of a run. What is said of markers that are slow, and
with it of failed samples, needs a clock that is not behind the receipts. -/
theorem drifts_lie_in_bands :
    (∀ (pending : List Marker) (events : List Event) (now : Instant) (limits : Thresholds), now.Representable →
      (∀ m ∈ pending, m.emittedAt.Representable) → ∀ r ∈ (reconcile pending events now limits).resolved,
        r.InBand now limits ∧
          (now.Ordinary → r.marker.emittedAt.Ordinary → r.marker.ReceivedBy events now → r.outcome = .slow →
            r.Overdue events limits)) ∧
      ∀ (w : Watcher) (before : List Watcher.Step) (search : Search.Reply) (now : Channel → Instant) (sink : Sink)
        (firstWrite : Nat),
        (∀ s ∈ before, s.Orderly) → (Watcher.Step.pass search now sink firstWrite).Orderly →
          let p := w.pass (w.after before) search (fun c _ => now c) sink firstWrite
          (∀ s ∈ p.trace.writes, s.InBand w.limits) ∧
            (w.limits.searchTimeout ≤ w.limits.timeToFailure → ∀ c, ∀ r ∈ p.resolutions c, r.outcome ≠ .slow) := by
  constructor
  · intro pending events now limits clock emitted r resolved
    obtain ⟨m, waits, judged⟩ := List.mem_filterMap.mp resolved
    have verdict := Marker.judge_correct.mp judged
    have first := emitted m waits
    refine ⟨verdict.inBand first clock, ?_⟩
    rw [verdict.marker_eq]
    intro ordinary ordinary' received
    exact verdict.overdue first clock ordinary' ordinary received
  · intro w before search now sink firstWrite earlier pass p
    have verdict {c : Channel} {r : Resolution} (returned : (c, r) ∈ p.returned) :
        (w.sample c r).InBand w.limits ∧ (w.limits.searchTimeout ≤ w.limits.timeToFailure → r.outcome ≠ .slow) := by
      obtain ⟨events, found, m, listed, verdict⟩ := Watcher.verdict_of_returned returned
      obtain ⟨emitted, ordinary⟩ := Watcher.emitted_orderly earlier listed
      obtain ⟨clock, ordinary', receipts⟩ := pass c
      have received : m.ReceivedBy events (now c) := fun e taken _ => receipts events found e taken
      exact ⟨verdict.sample_inBand emitted clock ordinary ordinary' received w c,
        verdict.not_slow emitted clock ordinary ordinary' received⟩
    constructor
    · intro s written
      rw [Watcher.writes_pass] at written
      obtain ⟨⟨c, r⟩, returned, rfl⟩ := List.mem_map.mp written
      exact (verdict returned).1
    · intro patient c r resolved
      exact (verdict (Pass.mem_resolutions.mp resolved)).2 patient

/-- A marker that is found seventy seconds after its emission, received after sixty-one, is slow by a limit of a
minute, and its drift of seventy seconds is beyond it. If it may wait no longer than that minute, it is given up. -/
theorem slow_and_given_up :
    let noon : Instant := { second := 1709294400, nano := 0 }
    let now : Instant := { second := 1709294470, nano := 0 }
    let m : Marker := .ofApp "7" noon
    let events : List Event := [.received "id 7" { second := 1709294461, nano := 0 }]
    let limits : Thresholds := { searchTimeout := 3600, timeToFailure := 60 }
    let w : Watcher := { system := "s", limits := { searchTimeout := 60, timeToFailure := 60 }, dryRun := false }
    let p := w.pass (w.after [.register .app m]) (.found events) (fun _ _ => now) .accepting 0
    (∃ r ∈ (reconcile [m] events now limits).resolved,
        r.outcome = .slow ∧ r.InBand now limits ∧ r.Overdue events limits) ∧
      (∀ s ∈ p.trace.writes, s.InBand w.limits) ∧ ∀ c, ∀ r ∈ p.resolutions c, r.outcome ≠ .slow := by
  intro noon now m events limits w p
  have times : noon.Representable ∧ noon.Ordinary ∧ now.Representable ∧ now.Ordinary := by decide
  obtain ⟨emitted, ordinary, clock, ordinary'⟩ := times
  have receipts : ∀ e ∈ events, ∀ receipt, e.receipt? = some receipt → receipt.Ordinary ∧ receipt.NoLater now := by
    intro e listed receipt parsed
    obtain rfl := List.mem_singleton.mp listed
    rw [Event.receipt?_received, Instant.ofRfc3339?_rfc3339 (by decide) (by decide) (by decide) (by decide)] at parsed
    obtain rfl := Option.some.inj parsed
    decide
  have young : ¬ m.Expired now limits := by decide +kernel
  have late : m.Late { second := 1709294461, nano := 0 } limits := by decide +kernel
  have first : FirstReceipt events m.id { second := 1709294461, nano := 0 } :=
    firstReceipt_correct.mp (by decide +kernel)
  have judged := Marker.judge_correct.mpr (.slow young first late)
  have resolved : _ ∈ [m].filterMap fun m => m.judge events now limits :=
    List.mem_filterMap.mpr ⟨m, List.mem_singleton_self m, judged⟩
  have waits : ∀ other ∈ [m], other.emittedAt.Representable := List.forall_mem_singleton.mpr emitted
  obtain ⟨band, overdue⟩ := drifts_lie_in_bands.1 [m] events now limits clock waits _ resolved
  have received : m.ReceivedBy events now := fun e listed _ => receipts e listed
  have registered : ∀ s ∈ [Watcher.Step.register .app m], s.Orderly :=
    List.forall_mem_singleton.mpr ⟨emitted, ordinary⟩
  have pass : (Watcher.Step.pass (.found events) (fun _ => now) .accepting 0).Orderly := fun _ =>
    ⟨clock, ordinary', fun _ found => Except.ok.inj found ▸ receipts⟩
  obtain ⟨written, patient⟩ := drifts_lie_in_bands.2 w _ _ _ _ 0 registered pass
  exact ⟨⟨_, resolved, rfl, band, overdue ordinary' ordinary received rfl⟩, written, patient (by decide)⟩

end DeliveryProbe
