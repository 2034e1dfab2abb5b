import DeliveryProbe.Proofs.Elapsed
import DeliveryProbe.Proofs.Limits

/-! The exact values of seconds. Between any two instants that can be represented there are fewer seconds than a
double counts exactly, so that the seconds from the one to the other are a finite double, the comparison of it with a
limit is one of exact values, and of two ordinary receipts the later one is at least as many seconds away. -/
namespace DeliveryProbe
namespace Binary64

/-- The value of a finite number in units of `2 ^ -1074`. -/
def value? : Binary64 → Option Int
  | .finite negative step => some (if negative then -(units step : Int) else units step)
  | _ => none

def AtMost (x : Binary64) (n : Nat) : Prop := ∃ v ∈ x.value?, v ≤ (n * unitsPerOne : Nat)

def Above (x : Binary64) (n : Nat) : Prop := ∃ v ∈ x.value?, ((n * unitsPerOne : Nat) : Int) < v

def NoMore (x y : Binary64) : Prop := ∃ v ∈ x.value?, ∃ w ∈ y.value?, v ≤ w

def NotNegative (x : Binary64) : Prop := ∃ v ∈ x.value?, 0 ≤ v

/-- A finite number up to `2 ^ 53`, where doubles still count all whole numbers. -/
def Moderate (x : Binary64) : Prop :=
  ∃ negative step, x = .finite negative step ∧ units step ≤ 2 ^ 53 * unitsPerOne

section Values
variable {x y : Binary64} {n limit : Nat}

theorem ofUnits_finite {negative : Bool} {num den : Nat} (finite : roundStep num den < finiteSteps) :
    ofUnits negative num den = .finite negative ⟨roundStep num den, finite⟩ := dif_pos finite

theorem roundStep_le {num den step : Nat} (den_pos : 0 < den) (most : num ≤ units step * den) :
    roundStep num den ≤ step := by
  have own := roundStep_units step den_pos
  rw [← own]
  exact roundStep_mono den_pos den_pos (Nat.mul_le_mul_right den most)

theorem le_roundStep {num den step : Nat} (den_pos : 0 < den) (least : units step * den ≤ num) :
    step ≤ roundStep num den := by
  have own := roundStep_units step den_pos
  rw [← own]
  exact roundStep_mono den_pos den_pos (Nat.mul_le_mul_right den least)

theorem Above.mono (above : x.Above n) (order : x.NoMore y) : y.Above n := by
  obtain ⟨v, value, greater⟩ := above
  obtain ⟨v', value', w, other, most⟩ := order
  obtain rfl := Option.some.inj (value.symm.trans value')
  exact ⟨w, other, Int.lt_of_lt_of_le greater most⟩

theorem Above.of_le (above : x.Above n) (order : limit ≤ n) : x.Above limit := by
  obtain ⟨v, value, greater⟩ := above
  have less := Nat.mul_le_mul_right unitsPerOne order
  exact ⟨v, value, by omega⟩

theorem AtMost.not_above (most : x.AtMost n) (order : n ≤ limit) : ¬ x.Above limit := by
  rintro ⟨v, value, greater⟩
  obtain ⟨v', value', less⟩ := most
  obtain rfl := Option.some.inj (value.symm.trans value')
  have more := Nat.mul_le_mul_right unitsPerOne order
  omega

theorem Moderate.not_above_iff (moderate : x.Moderate) : ¬ x.Above n ↔ x.AtMost n := by
  obtain ⟨negative, step, rfl, -⟩ := moderate
  constructor
  · intro below
    exact ⟨_, rfl, Int.not_lt.mp fun greater => below ⟨_, rfl, greater⟩⟩
  · exact fun most => most.not_above (Nat.le_refl n)

/-- The comparison with a limit is exact. Limits that doubles cannot name exactly are greater than any moderate
number, and so are the doubles next to them. -/
theorem Moderate.gt_iff_above (moderate : x.Moderate) : x.gt (.ofNat limit) = true ↔ x.Above limit := by
  obtain ⟨negative, step, rfl, small⟩ := moderate
  cases negative with
  | true =>
    constructor
    · intro greater
      obtain ⟨i, j, own, bound, below⟩ := gt_iff_rank.mp greater
      rw [ofNat, rank?_ofUnits] at bound
      obtain rfl := Option.some.inj own
      obtain rfl := Option.some.inj bound
      simp only [if_true] at below
      omega
    · rintro ⟨v, value, greater⟩
      obtain rfl := Option.some.inj value
      simp only [if_true] at greater
      omega
  | false =>
    have exact_ : (finite false step).Above limit ↔ limit * unitsPerOne < units step := by
      constructor
      · rintro ⟨v, value, greater⟩
        obtain rfl := Option.some.inj value
        exact Int.ofNat_lt.mp greater
      · intro greater
        exact ⟨_, rfl, Int.ofNat_lt.mpr greater⟩
    rw [exact_]
    -- A limit beyond `2 ^ 53` may be rounded, but not below a moderate number.
    rcases Nat.lt_or_ge (2 ^ 53) limit with large | least
    · have more : units step ≤ limit * unitsPerOne :=
        Nat.le_trans small (Nat.mul_le_mul_right _ (Nat.le_of_lt large))
      have beyond := le_roundStep Nat.one_pos (Nat.le_trans (Nat.le_of_eq (Nat.mul_one _)) more)
      exact iff_of_false (not_gt_ofNat step.isLt beyond) (Nat.not_lt_of_le more)
    · obtain ⟨whole, value, bounded, -⟩ := exists_step least
      rw [ofNat_exact value bounded, gt_finite, ← value]
      exact units_strictMono.lt_iff_lt.symm

end Values

theorem exists_step_large : ∃ step, units step = 2 ^ 54 * unitsPerOne ∧ step < finiteSteps := by
  have placed : Placed (2 + 1074) binade := ⟨by omega, fun _ => Nat.le_refl _⟩
  have width (k : Nat) : binade * 2 ^ (2 + k) = 2 ^ 54 * 2 ^ k := by
    rw [Nat.pow_add, ← Nat.mul_assoc]
    rfl
  exact ⟨(2 + 1074) * binade + binade, by rw [placed.units_eq, width, unitsPerOne_eq], by decide⟩

section Seconds
variable {millis : Int}

/-- Seconds keep the sign of the milliseconds, and up to `2 ^ 54` of these neither the count nor its thousandth
grows beyond the doubles or is lost among them. -/
theorem exists_seconds (bounded : millis.natAbs ≤ 2 ^ 54) :
    ∃ step, (ofInt millis).divNat 1000 = .finite (decide (millis < 0)) step ∧
      units step ≤ 2 ^ 53 * unitsPerOne ∧ (millis ≠ 0 → 0 < (step : Nat)) := by
  obtain ⟨largest, value, finite, -⟩ := exists_step (Nat.le_refl (2 ^ 53))
  obtain ⟨large, value', finite'⟩ := exists_step_large
  have whole : roundStep (millis.natAbs * unitsPerOne) 1 ≤ large := by
    refine roundStep_le Nat.one_pos ?_
    rw [value', Nat.mul_one]
    exact Nat.mul_le_mul_right _ bounded
  have second : roundStep (units (roundStep (millis.natAbs * unitsPerOne) 1)) 1000 ≤ largest := by
    refine roundStep_le (by decide) (Nat.le_trans (units_strictMono.monotone whole) ?_)
    rw [value, value', Nat.mul_right_comm]
    exact Nat.mul_le_mul_right _ (by decide)
  have counted := Nat.lt_of_le_of_lt whole finite'
  have divided := Nat.lt_of_le_of_lt second finite
  refine ⟨⟨_, divided⟩, ?_, ?_, fun some => ?_⟩
  · rw [ofInt, ofUnits_finite counted, divNat, ofUnits_finite divided]
  · rw [← value]
    exact units_strictMono.monotone second
  · obtain ⟨one, value'', -⟩ := exists_step (show 1 ≤ 2 ^ 53 by decide)
    have width : 2 ^ 10 ≤ unitsPerOne := two_pow_le_unitsPerOne (by decide)
    have counts : one ≤ roundStep (millis.natAbs * unitsPerOne) 1 := by
      refine le_roundStep Nat.one_pos ?_
      rw [value'', Nat.mul_one]
      exact Nat.mul_le_mul_right _ (Int.natAbs_pos.mpr some)
    have least := units_strictMono.monotone counts
    rw [value'', Nat.one_mul] at least
    refine le_roundStep (by decide) ?_
    rw [units_small (by decide)]
    exact Nat.le_trans (by decide) (Nat.le_trans width least)

theorem moderate_seconds (bounded : millis.natAbs ≤ 2 ^ 54) : ((ofInt millis).divNat 1000).Moderate := by
  obtain ⟨step, same, small, -⟩ := exists_seconds bounded
  exact ⟨_, step, same, small⟩

theorem seconds_noMore {less more : Nat} (order : less ≤ more) (bounded : more ≤ 2 ^ 54) :
    ((ofInt less).divNat 1000).NoMore ((ofInt more).divNat 1000) := by
  have natural (n : Nat) (bounded : n ≤ 2 ^ 54) :
      ∃ step : Nat, ((ofInt n).divNat 1000).value? = some (units step : Int) ∧ step = secondsRank n := by
    obtain ⟨step, same, -⟩ := @exists_seconds n (by rwa [Int.natAbs_natCast])
    have unsigned : decide ((n : Int) < 0) = false := decide_eq_false (Int.not_lt.mpr (Int.natCast_nonneg n))
    have rank := rank?_seconds n
    rw [same, unsigned] at rank ⊢
    exact ⟨step, rfl, Int.ofNat_inj.mp (Option.some.inj rank)⟩
  obtain ⟨step, value, rank⟩ := natural less (Nat.le_trans order bounded)
  obtain ⟨step', value', rank'⟩ := natural more bounded
  refine ⟨_, value, _, value', Int.ofNat_le.mpr (units_strictMono.monotone ?_)⟩
  rw [rank, rank']
  exact secondsRank_mono order

end Seconds
end Binary64

namespace Instant
variable {a b c : Instant}

/-- The order of instants, by their seconds and then by what they have of the next. -/
def NoLater (a b : Instant) : Prop := a.second < b.second ∨ a.second = b.second ∧ a.nano ≤ b.nano

instance (a b : Instant) : Decidable (a.NoLater b) := inferInstanceAs (Decidable (_ ∨ _))

theorem count_le (ordinary : a.Ordinary) (order : a.NoLater b) : a.count ≤ b.count := by
  unfold count
  unfold Ordinary at ordinary
  unfold nanosPerSecond at *
  rcases order with before | ⟨same, fraction⟩ <;> omega

theorem millisUntil_mono (ordinary : a.Ordinary) (ordinary' : b.Ordinary) (ordinary'' : c.Ordinary)
    (order : b.NoLater c) : a.millisUntil b ≤ a.millisUntil c := by
  have less := count_le ordinary' order
  rw [millisUntil, millisUntil, nanosUntil_ordinary ordinary ordinary', nanosUntil_ordinary ordinary ordinary'']
  exact Int.tdiv_le_tdiv (by decide) (by omega)

theorem moderate_secondsUntil (first : a.Representable) (last : b.Representable) : (a.secondsUntil b).Moderate :=
  Binary64.moderate_seconds (Nat.le_of_lt (natAbs_millisUntil first last))

/-- A later instant is at least as many seconds away, if the earlier one lies ahead. -/
theorem secondsUntil_noMore (ordinary : a.Ordinary) (ordinary' : b.Ordinary) (ordinary'' : c.Ordinary)
    (first : a.Representable) (last : c.Representable) (ahead : 0 ≤ a.millisUntil b) (order : b.NoLater c) :
    (a.secondsUntil b).NoMore (a.secondsUntil c) := by
  have more := millisUntil_mono ordinary ordinary' ordinary'' order
  have bounded := natAbs_millisUntil first last
  unfold secondsUntil
  obtain ⟨n, near⟩ := Int.eq_ofNat_of_zero_le ahead
  obtain ⟨n', far⟩ := Int.eq_ofNat_of_zero_le (Int.le_trans ahead more)
  rw [near, far] at more ⊢
  rw [far, Int.natAbs_natCast] at bounded
  exact Binary64.seconds_noMore (Int.ofNat_le.mp more) (Nat.le_of_lt bounded)

end Instant
end DeliveryProbe
