import DeliveryProbe.Reconcile

/-! The rule by which a marker is judged, stated without the search for a receipt, and the agreement of
the judgement with it. A pass resolves a marker exactly when the marker has expired or some usable event
holds its id. -/
namespace DeliveryProbe

/-- An event that can resolve a marker: it holds the text and says when it was received. -/
def Event.Usable (e : Event) (text : String) : Prop := e.mentions text = true ∧ e.receipt?.isSome = true

/-- The receipt of the first usable event, in the order of the search. -/
def FirstReceipt (events : List Event) (text : String) (receipt : Instant) : Prop :=
  ∃ before e after, events = before ++ e :: after ∧ (∀ skipped ∈ before, ¬ skipped.Usable text) ∧
    e.mentions text = true ∧ e.receipt? = some receipt

theorem receipt_iff {e : Event} {text : String} {receipt : Instant} :
    (if e.mentions text then e.receipt? else none) = some receipt ↔
      e.mentions text = true ∧ e.receipt? = some receipt := by
  by_cases holds : e.mentions text <;> simp [holds]

theorem usable_iff {e : Event} {text : String} :
    e.Usable text ↔ (if e.mentions text then e.receipt? else none).isSome = true := by
  by_cases holds : e.mentions text <;> simp [Event.Usable, holds]

theorem unusable_iff {e : Event} {text : String} :
    ¬ e.Usable text ↔ (if e.mentions text then e.receipt? else none) = none := by
  rw [usable_iff, Option.not_isSome_iff_eq_none]

theorem firstReceipt_correct {events : List Event} {text : String} {receipt : Instant} :
    firstReceipt? events text = some receipt ↔ FirstReceipt events text receipt := by
  rw [firstReceipt?, List.findSome?_eq_some_iff]
  constructor
  · rintro ⟨before, e, after, split, found, skipped⟩
    obtain ⟨holds, received⟩ := receipt_iff.mp found
    exact ⟨before, e, after, split, fun other member => unusable_iff.mpr (skipped other member), holds,
      received⟩
  · rintro ⟨before, e, after, split, skipped, holds, received⟩
    exact ⟨before, e, after, split, receipt_iff.mpr ⟨holds, received⟩,
      fun other member => unusable_iff.mp (skipped other member)⟩

theorem firstReceipt?_isSome {events : List Event} {text : String} :
    (firstReceipt? events text).isSome = true ↔ ∃ e ∈ events, e.Usable text := by
  rw [firstReceipt?, List.findSome?_isSome_iff]
  simp only [usable_iff]

namespace Marker

abbrev Expired (m : Marker) (now : Instant) (limits : Thresholds) : Prop :=
  (m.emittedAt.secondsUntil now).gt (.ofNat limits.searchTimeout) = true

abbrev Late (m : Marker) (receipt : Instant) (limits : Thresholds) : Prop :=
  (m.emittedAt.secondsUntil receipt).gt (.ofNat limits.timeToFailure) = true

/-- What can be said of a marker in the light of a search. An expired marker is given up even where an
event holds its id; else the first receipt decides between delivered and slow. -/
inductive Verdict (m : Marker) (events : List Event) (now : Instant) (limits : Thresholds) :
    Resolution → Prop where
  | timedOut (expired : m.Expired now limits) :
      Verdict m events now limits
        { marker := m, outcome := .timedOut, drift := m.emittedAt.secondsUntil now }
  | slow {receipt : Instant} (young : ¬ m.Expired now limits) (first : FirstReceipt events m.id receipt)
      (late : m.Late receipt limits) :
      Verdict m events now limits
        { marker := m, outcome := .slow, drift := m.emittedAt.secondsUntil now }
  | delivered {receipt : Instant} (young : ¬ m.Expired now limits)
      (first : FirstReceipt events m.id receipt) (inTime : ¬ m.Late receipt limits) :
      Verdict m events now limits
        { marker := m, outcome := .delivered, drift := m.emittedAt.secondsUntil receipt }

/-- A search decides a marker: it has expired, or a usable event holds its id. -/
def DecidedBy (m : Marker) (events : List Event) (now : Instant) (limits : Thresholds) : Prop :=
  m.Expired now limits ∨ ∃ e ∈ events, e.Usable m.id

variable {m : Marker} {events : List Event} {now : Instant} {limits : Thresholds}

theorem judge_expired (expired : m.Expired now limits) :
    m.judge events now limits =
      some { marker := m, outcome := .timedOut, drift := m.emittedAt.secondsUntil now } := by
  unfold judge
  exact if_pos expired

theorem judge_young (young : ¬ m.Expired now limits) :
    m.judge events now limits =
      (firstReceipt? events m.id).map fun receipt =>
        if m.Late receipt limits then
          { marker := m, outcome := .slow, drift := m.emittedAt.secondsUntil now }
        else { marker := m, outcome := .delivered, drift := m.emittedAt.secondsUntil receipt } := by
  unfold judge
  exact if_neg young

theorem judge_correct {r : Resolution} :
    m.judge events now limits = some r ↔ Verdict m events now limits r := by
  constructor
  · intro judged
    by_cases expired : m.Expired now limits
    · rw [judge_expired expired] at judged
      obtain rfl := Option.some.inj judged
      exact .timedOut expired
    · rw [judge_young expired] at judged
      obtain ⟨receipt, found, rfl⟩ := Option.map_eq_some_iff.mp judged
      have first := firstReceipt_correct.mp found
      split
      · next late => exact .slow expired first late
      · next inTime => exact .delivered expired first inTime
  · intro verdict
    cases verdict with
    | timedOut expired => exact judge_expired expired
    | slow young first late =>
      rw [judge_young young, firstReceipt_correct.mpr first, Option.map_some, if_pos late]
    | delivered young first inTime =>
      rw [judge_young young, firstReceipt_correct.mpr first, Option.map_some, if_neg inTime]

theorem judge_isSome : (m.judge events now limits).isSome = true ↔ m.DecidedBy events now limits := by
  by_cases expired : m.Expired now limits
  · rw [judge_expired expired]
    exact ⟨fun _ => .inl expired, fun _ => rfl⟩
  · rw [judge_young expired, Option.isSome_map, firstReceipt?_isSome]
    exact ⟨.inr, fun decided => decided.resolve_left expired⟩

theorem judge_eq_none : m.judge events now limits = none ↔ ¬ m.DecidedBy events now limits := by
  rw [← judge_isSome, Option.not_isSome_iff_eq_none]

theorem Verdict.marker_eq {r : Resolution} (verdict : Verdict m events now limits r) : r.marker = m := by
  cases verdict <;> rfl

theorem judge_marker {r : Resolution} (judged : m.judge events now limits = some r) : r.marker = m :=
  (judge_correct.mp judged).marker_eq

theorem judge_congr {events' : List Event} (same : firstReceipt? events m.id = firstReceipt? events' m.id) :
    m.judge events now limits = m.judge events' now limits := by
  unfold judge
  rw [same]

end Marker

/-- A pass takes from a search no more than the first receipt for each text. -/
theorem reconcile_congr {events events' : List Event}
    (same : ∀ text, firstReceipt? events text = firstReceipt? events' text) (pending : List Marker)
    (now : Instant) (limits : Thresholds) :
    reconcile pending events now limits = reconcile pending events' now limits := by
  have judged (m : Marker) : m.judge events now limits = m.judge events' now limits :=
    Marker.judge_congr (same m.id)
  simp only [reconcile, judged]

end DeliveryProbe
