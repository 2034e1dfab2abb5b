import DeliveryProbe.Proofs.Rounding
import DeliveryProbe.Proofs.Verdict

/-! Limits in seconds, decided to the millisecond. The time between two instants is cut to whole milliseconds
and compared as a double of seconds; neither the division nor the rounding of the limit moves it across the
limit, so that a marker has expired, or a receipt is late, from one whole millisecond beyond the limit on. -/
namespace DeliveryProbe

namespace Binary64

theorem rank?_ofUnits_negative (num den : Nat) :
    (ofUnits true num den).rank? = some (-((min (roundStep num den) finiteSteps : Nat) : Int)) := by
  unfold ofUnits
  generalize roundStep num den = step
  by_cases bounded : step < finiteSteps
  · rw [dif_pos bounded, Nat.min_eq_left (Nat.le_of_lt bounded), rank?]
    simp only [if_true]
  · rw [dif_neg bounded, Nat.min_eq_right (Nat.le_of_not_lt bounded), rank?]
    simp only [if_true]

theorem rank?_seconds_negative {millis : Int} (past : millis < 0) :
    ∃ i ≤ 0, ((ofInt millis).divNat 1000).rank? = some i := by
  rw [ofInt, decide_eq_true past, ofUnits]
  generalize roundStep (millis.natAbs * unitsPerOne) 1 = whole
  by_cases finite : whole < finiteSteps
  · rw [dif_pos finite, divNat, rank?_ofUnits_negative]
    exact ⟨_, by omega, rfl⟩
  · rw [dif_neg finite]
    exact ⟨-(finiteSteps : Int), by omega, by simp only [divNat, rank?, if_true]⟩

theorem not_seconds_gt_of_neg {millis : Int} (past : millis < 0) (limit : Nat) :
    ¬ ((ofInt millis).divNat 1000).gt (.ofNat limit) = true := by
  intro greater
  obtain ⟨i, j, seconds, bound, below⟩ := gt_iff_rank.mp greater
  obtain ⟨i', nonpos, negative⟩ := rank?_seconds_negative past
  obtain rfl := Option.some.inj (seconds.symm.trans negative)
  rw [ofNat, rank?_ofUnits] at bound
  obtain rfl := Option.some.inj bound
  omega

theorem seconds_gt_iff_of_int {millis : Int} (small : millis.natAbs ≤ 2 ^ 53) (limit : Nat) :
    ((ofInt millis).divNat 1000).gt (.ofNat limit) = true ↔ 1000 * (limit : Int) < millis := by
  rcases Int.lt_or_le millis 0 with past | coming
  · constructor
    · intro greater
      exact absurd greater (not_seconds_gt_of_neg past limit)
    · intro beyond
      omega
  · obtain ⟨n, rfl⟩ := Int.eq_ofNat_of_zero_le coming
    rw [Int.natAbs_natCast] at small
    exact (seconds_gt_iff small limit).trans (by omega)

end Binary64

namespace Instant
variable {a b : Instant}

/-- From `a` to `b` it is a number of seconds and a whole millisecond, or more. -/
def Beyond (a b : Instant) (limit : Nat) : Prop := (limit : Int) * nanosPerSecond + 1000000 ≤ a.nanosUntil b

instance (a b : Instant) (limit : Nat) : Decidable (a.Beyond b limit) := inferInstanceAs (Decidable (_ ≤ _))

theorem leapCorrection_bounds (a b : Instant) : -1 ≤ leapCorrection a b ∧ leapCorrection a b ≤ 1 := by
  unfold leapCorrection
  split
  · split <;> decide
  · split
    · split <;> decide
    · decide

theorem natAbs_millisUntil (first : a.Representable) (last : b.Representable) :
    (a.millisUntil b).natAbs < 2 ^ 54 := by
  obtain ⟨low, high, nano, -⟩ := first
  obtain ⟨low', high', nano', -⟩ := last
  have leap := leapCorrection_bounds a b
  have nanos : (a.nanosUntil b).natAbs < 2 ^ 54 * 1000000 := by
    unfold firstSecond lastSecond nanosPerSecond at *
    unfold nanosUntil nanosPerSecond
    omega
  rw [millisUntil, Int.natAbs_tdiv]
  exact (Nat.div_lt_iff_lt_mul (by decide)).mpr nanos

theorem millisUntil_bounds (first : a.Representable) (last : b.Representable) :
    -(2 ^ 63) ≤ a.millisUntil b ∧ a.millisUntil b < 2 ^ 63 := by
  have far := natAbs_millisUntil first last
  omega

/-- Cutting a time to whole milliseconds does not bring it back within a limit. -/
theorem millisUntil_gt_iff (a b : Instant) (limit : Nat) :
    1000 * (limit : Int) < a.millisUntil b ↔ a.Beyond b limit := by
  unfold millisUntil Beyond nanosPerSecond
  rcases Int.le_total 0 (a.nanosUntil b) with forth | back
  · rw [Int.tdiv_eq_ediv_of_nonneg forth]
    omega
  · have mirrored : 0 ≤ (-a.nanosUntil b).tdiv 1000000 :=
      Int.tdiv_nonneg (Int.neg_nonneg_of_nonpos back) (by decide)
    rw [Int.neg_tdiv] at mirrored
    omega

end Instant

namespace Marker
variable {m : Marker} {pending : List Marker} {events : List Event} {now : Instant} {limits : Thresholds}

theorem timedOut_iff (waits : m ∈ pending) :
    (∃ r ∈ (reconcile pending events now limits).resolved, r.marker = m ∧ r.outcome = .timedOut) ↔
      m.Expired now limits := by
  constructor
  · rintro ⟨r, resolved, rfl, outcome⟩
    obtain ⟨m, -, judged⟩ := List.mem_filterMap.mp resolved
    cases judge_correct.mp judged with
    | timedOut expired => exact expired
    | slow young found late => nomatch outcome
    | delivered young found inTime => nomatch outcome
  · intro expired
    exact ⟨_, List.mem_filterMap.mpr ⟨m, waits, judge_expired expired⟩, rfl, rfl⟩

theorem slow_iff {receipt : Instant} (waits : m ∈ pending) (young : ¬ m.Expired now limits)
    (found : FirstReceipt events m.id receipt) :
    (∃ r ∈ (reconcile pending events now limits).resolved, r.marker = m ∧ r.outcome = .slow) ↔
      m.Late receipt limits := by
  constructor
  · rintro ⟨r, resolved, rfl, outcome⟩
    obtain ⟨m, -, judged⟩ := List.mem_filterMap.mp resolved
    cases judge_correct.mp judged with
    | timedOut expired => nomatch outcome
    | slow young found' late =>
      have same := (firstReceipt_correct.mpr found).symm.trans (firstReceipt_correct.mpr found')
      obtain rfl := Option.some.inj same
      exact late
    | delivered young found' inTime => nomatch outcome
  · intro late
    exact ⟨_, List.mem_filterMap.mpr ⟨m, waits, judge_correct.mpr (.slow young found late)⟩, rfl, rfl⟩

end Marker

namespace Instant
variable {a b : Instant}

/-- As long as the milliseconds between two instants are counted exactly, it is decided on them whether a
limit is exceeded. A marker of the one instant has expired at the other, or is slow if it is received then,
if at least a whole millisecond beyond the limit has passed, and not if it is less. -/
theorem limits_exact (first : a.Representable) (last : b.Representable) :
    let millis := (a.nanosUntil b).tdiv 1000000
    (-(2 ^ 63) ≤ millis ∧ millis < 2 ^ 63) ∧
      (millis.natAbs ≤ 2 ^ 53 →
        (∀ limit : Nat, (a.secondsUntil b).gt (.ofNat limit) = true ↔ 1000 * (limit : Int) < millis) ∧
          ∀ (pending : List Marker) (events : List Event) (limits : Thresholds), ∀ m ∈ pending, m.emittedAt = a →
            ((∃ r ∈ (reconcile pending events b limits).resolved, r.marker = m ∧ r.outcome = .timedOut) ↔
                a.Beyond b limits.searchTimeout) ∧
              ∀ now, ¬ m.Expired now limits → FirstReceipt events m.id b →
                ((∃ r ∈ (reconcile pending events now limits).resolved, r.marker = m ∧ r.outcome = .slow) ↔
                  a.Beyond b limits.timeToFailure)) := by
  intro millis
  refine ⟨millisUntil_bounds first last, fun exact_ => ?_⟩
  have compared (limit : Nat) : (a.secondsUntil b).gt (.ofNat limit) = true ↔ 1000 * (limit : Int) < millis :=
    Binary64.seconds_gt_iff_of_int exact_ limit
  refine ⟨compared, ?_⟩
  rintro pending events limits m waits rfl
  constructor
  · rw [Marker.timedOut_iff waits]
    exact (compared limits.searchTimeout).trans (millisUntil_gt_iff _ _ _)
  · intro now young found
    rw [Marker.slow_iff waits young found]
    exact (compared limits.timeToFailure).trans (millisUntil_gt_iff _ _ _)

/-- Nine million million seconds after its emission a marker is given up a millisecond past its time and not
a nanosecond sooner, though doubles of seconds lie two milliseconds apart there. One that is received a
nanosecond short of a minute and a millisecond is not slow yet. -/
theorem decided_on_the_millisecond :
    let emitted : Instant := { second := -1000000000000, nano := 0 }
    let early : Instant := { second := 8007199254740, nano := 999999 }
    let due : Instant := { second := 8007199254740, nano := 1000000 }
    let m : Marker := .ofApp "7" emitted
    let patient : Thresholds := { searchTimeout := 9007199254740, timeToFailure := 60 }
    let noon : Instant := { second := 1709294400, nano := 0 }
    let receipt : Instant := { second := 1709294460, nano := 999999 }
    let now : Instant := { second := 1709294470, nano := 0 }
    let m' : Marker := .ofApp "7" noon
    let found : List Event := [.received "id 7" receipt]
    let limits : Thresholds := { searchTimeout := 3600, timeToFailure := 60 }
    (emitted.Representable ∧ early.Representable ∧ due.Representable ∧ noon.Representable ∧
        receipt.Representable) ∧
      (¬ m'.Expired now limits ∧ FirstReceipt found m'.id receipt) ∧
      (¬ ∃ r ∈ (reconcile [m] [] early patient).resolved, r.marker = m ∧ r.outcome = .timedOut) ∧
      (∃ r ∈ (reconcile [m] [] due patient).resolved, r.marker = m ∧ r.outcome = .timedOut) ∧
      ¬ ∃ r ∈ (reconcile [m'] found now limits).resolved, r.marker = m' ∧ r.outcome = .slow := by
  intro emitted early due m patient noon receipt now m' found limits
  have representable : emitted.Representable ∧ early.Representable ∧ due.Representable ∧ noon.Representable ∧
      receipt.Representable := by decide
  obtain ⟨begun, within, past, begun', received⟩ := representable
  have young : ¬ m'.Expired now limits := by decide +kernel
  have first : FirstReceipt found m'.id receipt :=
    firstReceipt_correct.mp (by decide +kernel)
  refine ⟨⟨begun, within, past, begun', received⟩, ⟨young, first⟩, ?_, ?_, ?_⟩
  · obtain ⟨given, -⟩ :=
      ((limits_exact begun within).2 (by decide)).2 [m] [] patient m (List.mem_singleton_self m) rfl
    rw [given]
    decide
  · obtain ⟨given, -⟩ :=
      ((limits_exact begun past).2 (by decide)).2 [m] [] patient m (List.mem_singleton_self m) rfl
    rw [given]
    decide
  · obtain ⟨-, slow⟩ :=
      ((limits_exact begun' received).2 (by decide)).2 [m'] found limits m' (List.mem_singleton_self m') rfl
    rw [slow now young first]
    decide

end Instant
end DeliveryProbe
