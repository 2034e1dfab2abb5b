import DeliveryProbe.Proofs.Calendar
import DeliveryProbe.Time.Text

/-! Ordinary instants, which lie in no leap second, as counts of nanoseconds. Moving one by milliseconds adds
to the count, and the milliseconds between two such instants are those by which they were moved. -/
namespace DeliveryProbe.Instant

abbrev Ordinary (t : Instant) : Prop := t.nano < nanosPerSecond

/-- The nanoseconds since the beginning of 1970, leap seconds left out. -/
def count (t : Instant) : Int := t.second * nanosPerSecond + t.nano

theorem second_le_of_count_le {t u : Instant} (ordinary : u.Ordinary) (order : t.count ≤ u.count) :
    t.second ≤ u.second := by
  unfold count at order
  unfold Ordinary at ordinary
  unfold nanosPerSecond at *
  omega

theorem carried {unit nano : Nat} (small : nano < unit) (second added : Int) :
    ((nano + added % unit) % unit).toNat < unit ∧
      (second + added / unit + (nano + added % unit) / unit) * unit + ((nano + added % unit) % unit).toNat =
        second * unit + nano + added := by
  have positive : (0 : Int) < unit := by omega
  have rest := Int.emod_nonneg (nano + added % unit) (Int.ne_of_gt positive)
  have below := Int.emod_lt_of_pos (nano + added % unit) positive
  have inner := Int.mul_ediv_add_emod added unit
  have outer := Int.mul_ediv_add_emod (nano + added % unit) unit
  refine ⟨by omega, ?_⟩
  rw [Int.toNat_of_nonneg rest, Int.add_mul, Int.add_mul, Int.mul_comm (added / unit), Int.mul_comm (_ / (unit : Int))]
  omega

section Move
variable {t : Instant} (ordinary : t.Ordinary)
include ordinary

theorem inLeapSecond_ordinary : t.inLeapSecond = false := decide_eq_false (Nat.not_le_of_lt ordinary)

theorem addMillis_ordinary (millis : Nat) :
    (t.addMillis millis).Ordinary ∧ (t.addMillis millis).count = t.count + millis * 1000000 := by
  have whole : ((millis : Int) * 1000000).tdiv nanosPerSecond = (millis * 1000000 : Int) / nanosPerSecond :=
    Int.tdiv_eq_ediv_of_nonneg (by omega)
  have part : ((millis : Int) * 1000000).tmod nanosPerSecond = (millis * 1000000 : Int) % nanosPerSecond :=
    Int.tmod_eq_emod_of_nonneg (by omega)
  simp only [addMillis, shift, inLeapSecond_ordinary ordinary, Bool.false_eq_true, if_false, whole, part, count, Ordinary]
  exact carried ordinary _ _

theorem nanosUntil_ordinary {u : Instant} (ordinary' : u.Ordinary) : t.nanosUntil u = u.count - t.count := by
  have none : t.leapCorrection u = 0 := by
    simp only [leapCorrection, inLeapSecond_ordinary ordinary, inLeapSecond_ordinary ordinary', Bool.false_eq_true,
      if_false]
    split
    · rfl
    · split <;> rfl
  simp only [nanosUntil, none, count]
  unfold nanosPerSecond
  omega

/-- The milliseconds between two instants of a clock that began with an ordinary one. -/
theorem millisUntil_addMillis {i j : Nat} (order : i ≤ j) :
    (t.addMillis i).millisUntil (t.addMillis j) = (j - i : Nat) := by
  obtain ⟨plain, first⟩ := addMillis_ordinary ordinary i
  obtain ⟨plain', second⟩ := addMillis_ordinary ordinary j
  have between : (t.addMillis i).nanosUntil (t.addMillis j) = ((j - i : Nat) : Int) * 1000000 := by
    rw [nanosUntil_ordinary plain plain', first, second]
    omega
  rw [millisUntil, between, Int.mul_tdiv_cancel _ (by decide)]

theorem second_mono {i j : Nat} (order : i ≤ j) :
    t.second ≤ (t.addMillis i).second ∧ (t.addMillis i).second ≤ (t.addMillis j).second := by
  obtain ⟨plain, first⟩ := addMillis_ordinary ordinary i
  obtain ⟨plain', second⟩ := addMillis_ordinary ordinary j
  exact ⟨second_le_of_count_le plain (by omega), second_le_of_count_le plain' (by omega)⟩

theorem year_addMillis {i j : Nat} (order : i ≤ j) :
    t.date.year ≤ (t.addMillis i).date.year ∧ (t.addMillis i).date.year ≤ (t.addMillis j).date.year := by
  obtain ⟨first, second⟩ := second_mono ordinary order
  unfold date dayNumber secondsPerDay
  exact ⟨Date.year_mono (by omega), Date.year_mono (by omega)⟩

/-- A clock that stays in the years of four digits has less than 2 ^ 49 milliseconds for it. -/
theorem millis_lt_of_years {millis : Nat} (first : 0 ≤ t.date.year) (last : (t.addMillis millis).date.year ≤ 9999) :
    millis < 2 ^ 49 := by
  have low := (Date.year_bounds t.dayNumber).1
  have high := (Date.year_bounds (t.addMillis millis).dayNumber).2
  have early : Date.daysBefore (-1) ≤ Date.daysBefore (t.date.year - 1) := Date.daysBefore_mono (by omega)
  have late := Date.daysBefore_mono last
  obtain ⟨plain, moved⟩ := addMillis_ordinary ordinary millis
  unfold date at early late
  have origin : Date.daysBefore (-1) = -366 := by decide
  have horizon : Date.daysBefore 9999 = 3652059 := by decide
  unfold count at moved
  unfold Ordinary at plain ordinary
  unfold dayNumber secondsPerDay at *
  unfold nanosPerSecond at *
  omega

end Move
end DeliveryProbe.Instant
