import DeliveryProbe.Number.Shortest
import Mathlib.Algebra.Order.Ring.Nat
import Mathlib.Order.Monotone.Basic
import Mathlib.Order.MinMax
import Mathlib.Tactic.Positivity
import Mathlib.Tactic.Ring

/-! Rounding to the grid of doubles. The quotients that round to a step form an interval between the points
halfway to its neighbours, which belong to it if the step is even. From this follow that rounding finds the
nearest double, keeps the order of quotients, and leaves the values of steps as they are. -/
namespace DeliveryProbe.Binary64

section Grid
variable {shift m : Nat}

theorem binade_pos : 0 < binade := by decide

/-- A step named by its binade and its place there. The first binade has the steps below it as well, and
the end of each binade is the beginning of the next. -/
structure Placed (shift m : Nat) : Prop where
  high : m ≤ 2 * binade
  low : 0 < shift → binade ≤ m

theorem units_small (small : m < binade) : units m = m := if_pos small

theorem units_within (shift : Nat) (low : binade ≤ m) (high : m < 2 * binade) :
    units (shift * binade + m) = m * 2 ^ shift := by
  have place : shift * binade + m = (m - binade) + (shift + 1) * binade := by
    rw [Nat.add_one_mul]
    omega
  have small : m - binade < binade := by omega
  have beyond : ¬ shift * binade + m < binade := by omega
  rw [units, if_neg beyond, place, Nat.add_mul_mod_self_right, Nat.add_mul_div_right _ _ binade_pos,
    Nat.mod_eq_of_lt small, Nat.div_eq_of_lt small, Nat.zero_add, Nat.add_sub_cancel, Nat.add_sub_cancel' low,
    Nat.pow_eq]

theorem Placed.units_eq (placed : Placed shift m) : units (shift * binade + m) = m * 2 ^ shift := by
  by_cases small : m < binade
  · cases shift with
    | zero => rw [Nat.zero_mul, Nat.zero_add, units_small small, Nat.pow_zero, Nat.mul_one]
    | succ shift => exact absurd (placed.low (Nat.succ_pos shift)) (Nat.not_le_of_lt small)
  · rcases Nat.lt_or_eq_of_le placed.high with within | rfl
    · exact units_within shift (Nat.le_of_not_lt small) within
    · have next : shift * binade + 2 * binade = (shift + 1) * binade + binade := by ring
      have positive := binade_pos
      rw [next, units_within (shift + 1) (Nat.le_refl _) (by omega), Nat.pow_succ]
      ring

theorem Placed.next (placed : Placed shift m) (within : m < 2 * binade) : Placed shift (m + 1) :=
  ⟨within, fun shifted => Nat.le_succ_of_le (placed.low shifted)⟩

/-- The end of a binade is followed by a step of double width. -/
theorem Placed.units_succ (placed : Placed shift m) : (m + 1) * 2 ^ shift ≤ units (shift * binade + m + 1) := by
  rcases Nat.lt_or_eq_of_le placed.high with within | rfl
  · rw [Nat.add_assoc, (placed.next within).units_eq]
  · have positive := binade_pos
    have beyond : Placed (shift + 1) (binade + 1) := ⟨by omega, fun _ => Nat.le_succ _⟩
    have place : shift * binade + 2 * binade + 1 = (shift + 1) * binade + (binade + 1) := by ring
    rw [place, beyond.units_eq, Nat.pow_succ', ← Nat.mul_assoc]
    exact Nat.mul_le_mul_right _ (by omega)

theorem exists_placed (step : Nat) : ∃ shift m, step = shift * binade + m ∧ Placed shift m ∧ m < 2 * binade := by
  by_cases small : step < binade
  · exact ⟨0, step, by omega, ⟨by omega, fun impossible => absurd impossible (Nat.lt_irrefl 0)⟩, by omega⟩
  · have rest := Nat.mod_lt step binade_pos
    have parts := Nat.div_add_mod' step binade
    have first : 0 < step / binade := Nat.div_pos (Nat.le_of_not_lt small) binade_pos
    obtain ⟨shift, scaled⟩ := Nat.exists_eq_add_of_lt first
    rw [scaled, Nat.zero_add, Nat.add_one_mul] at parts
    exact ⟨shift, binade + step % binade, by omega, ⟨by omega, fun _ => Nat.le_add_right _ _⟩, by omega⟩

theorem units_lt_succ (step : Nat) : units step < units (step + 1) := by
  obtain ⟨shift, m, rfl, placed, -⟩ := exists_placed step
  rw [placed.units_eq]
  exact Nat.lt_of_lt_of_le (Nat.mul_lt_mul_of_pos_right (Nat.lt_succ_self m) (Nat.two_pow_pos shift))
    placed.units_succ

theorem units_strictMono : StrictMono units := strictMono_nat_of_lt_succ units_lt_succ

theorem even_place (shift m : Nat) : (shift * binade + m) % 2 = m % 2 := by
  have even : binade = 2 * 2 ^ 51 := by decide
  rw [even, Nat.mul_left_comm, Nat.add_comm, Nat.add_mul_mod_self_left]

end Grid

/-- A quotient, in units, is among those that round to a step. -/
structure RoundsTo (step num den : Nat) : Prop where
  lower : lowerHalf step * den ≤ 2 * num
  upper : 2 * num ≤ upperHalf step * den
  lowerEnd : lowerHalf step * den = 2 * num → step % 2 = 0
  upperEnd : 2 * num = upperHalf step * den → step % 2 = 0

section Rounding
variable {num den shift m : Nat}

theorem divRoundEven_spec (num : Nat) (den_pos : 0 < den) :
    2 * (divRoundEven num den * den) ≤ 2 * num + den ∧ 2 * num ≤ 2 * (divRoundEven num den * den) + den ∧
      (2 * (divRoundEven num den * den) = 2 * num + den ∨ 2 * num = 2 * (divRoundEven num den * den) + den →
        divRoundEven num den % 2 = 0) := by
  have parts := Nat.div_add_mod' num den
  have rest := Nat.mod_lt num den_pos
  have next := Nat.add_one_mul (num / den) den
  unfold divRoundEven
  dsimp only
  split
  · exact ⟨by omega, by omega, fun tie => by omega⟩
  · split
    · exact ⟨by omega, by omega, fun tie => by omega⟩
    · rcases Nat.mod_two_eq_zero_or_one (num / den) with even | odd
      · rw [even, Nat.add_zero]
        exact ⟨by omega, by omega, fun _ => even⟩
      · rw [odd]
        exact ⟨by omega, by omega, fun _ => by omega⟩

/-- The binade is chosen so that the whole part of the quotient has its place there. -/
theorem quotient_place (num : Nat) (den_pos : 0 < den) :
    let shift := (num / den).log2 - 52
    num < 2 * binade * (den * 2 ^ shift) ∧ (0 < shift → binade * (den * 2 ^ shift) ≤ num) := by
  intro shift
  constructor
  · have width : (num / den).log2 + 1 ≤ 53 + shift := by omega
    have quotient : num / den < 2 * binade * 2 ^ shift :=
      calc num / den < 2 ^ ((num / den).log2 + 1) := Nat.lt_log2_self
        _ ≤ 2 ^ (53 + shift) := Nat.pow_le_pow_right (by decide) width
        _ = 2 * binade * 2 ^ shift := by rw [Nat.pow_add]; rfl
    have bound := (Nat.div_lt_iff_lt_mul den_pos).mp quotient
    rwa [Nat.mul_assoc, Nat.mul_comm (2 ^ shift)] at bound
  · intro shifted
    have width : (num / den).log2 = 52 + shift := by omega
    have some : num / den ≠ 0 := by
      intro none
      rw [none, Nat.log2_zero] at width
      omega
    have size : 2 ^ (num / den).log2 ≤ num / den := Nat.log2_self_le some
    rw [width, Nat.pow_add] at size
    have bound := (Nat.le_div_iff_mul_le den_pos).mp size
    rwa [Nat.mul_assoc, Nat.mul_comm (2 ^ shift)] at bound

theorem placed_divRoundEven (den_pos : 0 < den) (high : num < 2 * binade * den)
    (low : 0 < shift → binade * den ≤ num) : Placed shift (divRoundEven num den) := by
  obtain ⟨above, below, -⟩ := divRoundEven_spec num den_pos
  constructor
  · by_contra large
    have least := Nat.mul_le_mul_right den (Nat.succ_le_of_lt (Nat.lt_of_not_le large))
    rw [Nat.succ_mul] at least
    omega
  · intro shifted
    have low := low shifted
    by_contra small
    have most := Nat.mul_le_mul_right den (Nat.succ_le_of_lt (Nat.lt_of_not_le small))
    rw [Nat.succ_mul] at most
    omega

theorem Placed.upperHalf_ge (placed : Placed shift m) (den : Nat) :
    2 * (m * (den * 2 ^ shift)) + den * 2 ^ shift ≤ upperHalf (shift * binade + m) * den := by
  rw [upperHalf, placed.units_eq]
  calc 2 * (m * (den * 2 ^ shift)) + den * 2 ^ shift = (m * 2 ^ shift + (m + 1) * 2 ^ shift) * den := by ring
    _ ≤ _ := Nat.mul_le_mul_right den (Nat.add_le_add_left placed.units_succ _)

theorem Placed.lowerHalf_eq (placed : Placed shift m) (inner : 0 < shift → binade < m) (some : 0 < m) (den : Nat) :
    lowerHalf (shift * binade + m) * den + den * 2 ^ shift = 2 * (m * (den * 2 ^ shift)) := by
  obtain ⟨k, rfl⟩ : ∃ k, m = k + 1 := Nat.exists_eq_succ_of_ne_zero (Nat.ne_of_gt some)
  have before : Placed shift k := by
    have high := placed.high
    exact ⟨by omega, fun shifted => Nat.le_of_lt_succ (inner shifted)⟩
  rw [lowerHalf, placed.units_eq, ← Nat.add_assoc, Nat.add_sub_cancel, before.units_eq]
  ring

theorem Placed.lowerHalf_le (placed : Placed shift m) (den : Nat) :
    lowerHalf (shift * binade + m) * den ≤ 2 * (m * (den * 2 ^ shift)) := by
  have least : units (shift * binade + m - 1) ≤ units (shift * binade + m) :=
    units_strictMono.monotone (Nat.sub_le _ _)
  rw [lowerHalf]
  rw [placed.units_eq] at least ⊢
  calc _ ≤ (m * 2 ^ shift + m * 2 ^ shift) * den := Nat.mul_le_mul_right den (Nat.add_le_add_right least _)
    _ = _ := by ring

/-- The step that rounding finds is that of the interval in which the quotient lies. -/
theorem roundsTo_roundStep (num : Nat) (den_pos : 0 < den) : RoundsTo (roundStep num den) num den := by
  obtain ⟨high, low⟩ := quotient_place num den_pos
  unfold roundStep
  dsimp only at high low ⊢
  generalize (num / den).log2 - 52 = shift at high low ⊢
  have scale_pos : 0 < den * 2 ^ shift := Nat.mul_pos den_pos (Nat.two_pow_pos shift)
  have placed := placed_divRoundEven scale_pos high low
  obtain ⟨above, below, tie⟩ := divRoundEven_spec num scale_pos
  generalize divRoundEven num (den * 2 ^ shift) = m at placed above below tie
  have upper := placed.upperHalf_ge den
  -- The quotient is not below the beginning of its binade, so that only an inner step is rounded up to.
  have lower : lowerHalf (shift * binade + m) * den ≤ 2 * num ∧
      (lowerHalf (shift * binade + m) * den = 2 * num → m % 2 = 0) := by
    by_cases inner : 0 < m ∧ (0 < shift → binade < m)
    · have half := placed.lowerHalf_eq inner.2 inner.1 den
      exact ⟨by omega, fun same => tie (.inl (by omega))⟩
    · have most := placed.lowerHalf_le den
      by_cases none : m = 0
      · subst none
        exact ⟨by omega, fun _ => rfl⟩
      · have shifted : 0 < shift ∧ ¬ binade < m := by
          by_contra other
          exact inner ⟨Nat.pos_of_ne_zero none, fun shifted => by_contra fun small => other ⟨shifted, small⟩⟩
        obtain rfl : m = binade := Nat.le_antisymm (Nat.le_of_not_lt shifted.2) (placed.low shifted.1)
        have low := low shifted.1
        exact ⟨by omega, fun _ => by decide⟩
  constructor
  · exact lower.1
  · omega
  · rw [even_place]
    exact lower.2
  · rw [even_place]
    exact fun same => tie (.inr (by omega))

end Rounding

section Order
variable {a b num den num' den' : Nat}

theorem upperHalf_le_lowerHalf (below : a < b) : upperHalf a ≤ lowerHalf b := by
  unfold upperHalf lowerHalf
  have left : units a ≤ units (b - 1) := units_strictMono.monotone (by omega)
  have right : units (a + 1) ≤ units b := units_strictMono.monotone (by omega)
  omega

/-- Between the intervals of two steps that are not neighbours there is a gap. -/
theorem eq_succ_of_upperHalf_eq (below : a < b) (same : upperHalf a = lowerHalf b) : b = a + 1 := by
  unfold upperHalf lowerHalf at same
  by_contra apart
  have left : units a < units (b - 1) := units_strictMono (by omega)
  have right : units (a + 1) < units b := units_strictMono (by omega)
  omega

/-- Rounding keeps the order of quotients. -/
theorem RoundsTo.mono (left : RoundsTo a num den) (right : RoundsTo b num' den') (den_pos : 0 < den)
    (den'_pos : 0 < den') (order : num * den' ≤ num' * den) : a ≤ b := by
  by_contra below
  have below : b < a := Nat.lt_of_not_le below
  have halves := upperHalf_le_lowerHalf below
  -- The two quotients lie between the ends of two intervals, so that these and they are all the same.
  have first : upperHalf b * (den * den') ≤ lowerHalf a * (den * den') := Nat.mul_le_mul_right _ halves
  have second : lowerHalf a * (den * den') ≤ 2 * (num * den') := by
    calc lowerHalf a * (den * den') = lowerHalf a * den * den' := (Nat.mul_assoc _ _ _).symm
      _ ≤ 2 * num * den' := Nat.mul_le_mul_right den' left.lower
      _ = 2 * (num * den') := Nat.mul_assoc _ _ _
  have third : 2 * (num' * den) ≤ upperHalf b * (den * den') := by
    calc 2 * (num' * den) = 2 * num' * den := (Nat.mul_assoc _ _ _).symm
      _ ≤ upperHalf b * den' * den := Nat.mul_le_mul_right den right.upper
      _ = upperHalf b * (den * den') := by ring
  have joined : upperHalf b = lowerHalf a :=
    Nat.eq_of_mul_eq_mul_right (Nat.mul_pos den_pos den'_pos) (by omega)
  have evenLeft : a % 2 = 0 := by
    refine left.lowerEnd (Nat.eq_of_mul_eq_mul_right den'_pos ?_)
    rw [Nat.mul_assoc, Nat.mul_assoc]
    omega
  have evenRight : b % 2 = 0 := by
    refine right.upperEnd (Nat.eq_of_mul_eq_mul_right den_pos ?_)
    rw [Nat.mul_assoc, Nat.mul_assoc, Nat.mul_comm den' den]
    omega
  have neighbours := eq_succ_of_upperHalf_eq below joined
  omega

theorem RoundsTo.unique (left : RoundsTo a num den) (right : RoundsTo b num den) (den_pos : 0 < den) : a = b :=
  Nat.le_antisymm (left.mono right den_pos den_pos (Nat.le_refl _))
    (right.mono left den_pos den_pos (Nat.le_refl _))

theorem roundsTo_units (step : Nat) (den_pos : 0 < den) : RoundsTo step (units step * den) den := by
  have below : units (step - 1) ≤ units step := units_strictMono.monotone (Nat.sub_le _ _)
  have above : units step < units (step + 1) := units_lt_succ step
  have double : 2 * (units step * den) = (units step + units step) * den := by ring
  constructor
  · rw [double]
    exact Nat.mul_le_mul_right den (Nat.add_le_add_right below _)
  · rw [double]
    exact Nat.mul_le_mul_right den (Nat.add_le_add_left (Nat.le_of_lt above) _)
  · intro same
    rw [double] at same
    have joined := Nat.add_right_cancel (Nat.eq_of_mul_eq_mul_right den_pos same)
    have first : step - 1 = step := units_strictMono.injective joined
    omega
  · intro same
    rw [double] at same
    have joined := Nat.add_left_cancel (Nat.eq_of_mul_eq_mul_right den_pos same)
    omega

theorem roundStep_units (step : Nat) (den_pos : 0 < den) : roundStep (units step * den) den = step :=
  (roundsTo_roundStep _ den_pos).unique (roundsTo_units step den_pos) den_pos

end Order

/-- How far a quotient is from the value of a step, times the denominator. -/
def distance (num den step : Nat) : Nat := ((units step * den : Nat) - num : Int).natAbs

section Nearest
variable {num den step other : Nat}

theorem RoundsTo.nearer_above (rounds : RoundsTo step num den) (above : step < other) :
    distance num den step ≤ distance num den other ∧
      (distance num den other = distance num den step → 0 < den → step % 2 = 0) := by
  have next : units (step + 1) ≤ units other := units_strictMono.monotone above
  have ends : upperHalf step * den ≤ units step * den + units other * den := by
    rw [upperHalf, ← Nat.add_mul]
    exact Nat.mul_le_mul_right den (Nat.add_le_add_left next _)
  have upper := rounds.upper
  have order : units step * den ≤ units other * den :=
    Nat.mul_le_mul_right den (Nat.le_of_lt (units_strictMono above))
  unfold distance
  refine ⟨by omega, fun tie den_pos => rounds.upperEnd ?_⟩
  have apart : units step * den < units other * den := Nat.mul_lt_mul_of_pos_right (units_strictMono above) den_pos
  omega

theorem RoundsTo.nearer_below (rounds : RoundsTo step num den) (below : other < step) :
    distance num den step ≤ distance num den other ∧
      (distance num den other = distance num den step → 0 < den → step % 2 = 0) := by
  have previous : units other ≤ units (step - 1) := units_strictMono.monotone (by omega)
  have ends : units other * den + units step * den ≤ lowerHalf step * den := by
    rw [lowerHalf, ← Nat.add_mul]
    exact Nat.mul_le_mul_right den (Nat.add_le_add_right previous _)
  have lower := rounds.lower
  have order : units other * den ≤ units step * den :=
    Nat.mul_le_mul_right den (Nat.le_of_lt (units_strictMono below))
  unfold distance
  refine ⟨by omega, fun tie den_pos => rounds.lowerEnd ?_⟩
  have apart : units other * den < units step * den := Nat.mul_lt_mul_of_pos_right (units_strictMono below) den_pos
  omega

end Nearest

/-- A number is the double nearest to a quotient of naturals. Of the finite doubles that are not negative no
other is nearer, and of two that are as near it is the even one. -/
def Nearest (x : Binary64) (num den : Nat) : Prop :=
  ∃ step : Fin finiteSteps, x = .finite false step ∧
    ∀ other : Fin finiteSteps, other ≠ step →
      distance (num * unitsPerOne) den step ≤ distance (num * unitsPerOne) den other ∧
        (distance (num * unitsPerOne) den other = distance (num * unitsPerOne) den step → step.val % 2 = 0)

theorem nearest_of_roundsTo {step num den : Nat} (rounds : RoundsTo step (num * unitsPerOne) den) (den_pos : 0 < den)
    (bounded : step < finiteSteps) : Nearest (.finite false ⟨step, bounded⟩) num den := by
  refine ⟨⟨step, bounded⟩, rfl, fun other apart => ?_⟩
  have apart : other.val ≠ step := fun same => apart (Fin.ext same)
  rcases Nat.lt_or_gt_of_ne apart with below | above
  · obtain ⟨nearer, tie⟩ := rounds.nearer_below below
    exact ⟨nearer, fun same => tie same den_pos⟩
  · obtain ⟨nearer, tie⟩ := rounds.nearer_above above
    exact ⟨nearer, fun same => tie same den_pos⟩

section Whole
variable {n : Nat}

theorem unitsPerOne_eq : unitsPerOne = 2 ^ 1074 := by
  unfold unitsPerOne
  -- With its exponent in sight the power would be worked out.
  generalize 1074 = exponent
  exact Nat.pow_eq

theorem unitsPerOne_pos : 0 < unitsPerOne := by
  rw [unitsPerOne_eq]
  positivity

theorem two_pow_le_unitsPerOne {k : Nat} (few : k ≤ 1074) : 2 ^ k ≤ unitsPerOne := by
  rw [unitsPerOne_eq]
  apply Nat.pow_le_pow_right
  · decide
  · exact few

theorem exists_scale (some : 0 < n) (small : n ≤ 2 ^ 53) :
    ∃ k ≤ 52, binade ≤ n * 2 ^ k ∧ n * 2 ^ k ≤ 2 * binade ∧ (n < 2 ^ 44 → 9 ≤ k ∧ n * 2 ^ k < 2 * binade) := by
  have size : 2 ^ n.log2 ≤ n := Nat.log2_self_le (Nat.ne_of_gt some)
  have bound : n < 2 ^ (n.log2 + 1) := Nat.lt_log2_self
  refine ⟨52 - n.log2, Nat.sub_le _ _, ?_⟩
  by_cases inner : n.log2 ≤ 52
  · have low : binade ≤ n * 2 ^ (52 - n.log2) := by
      calc binade = 2 ^ n.log2 * 2 ^ (52 - n.log2) := by rw [← Nat.pow_add, Nat.add_sub_cancel' inner]; rfl
        _ ≤ _ := Nat.mul_le_mul_right _ size
    have high : n * 2 ^ (52 - n.log2) < 2 * binade := by
      calc _ < 2 ^ (n.log2 + 1) * 2 ^ (52 - n.log2) := Nat.mul_lt_mul_of_pos_right bound (Nat.two_pow_pos _)
        _ = 2 * binade := by rw [← Nat.pow_add, Nat.add_right_comm, Nat.add_sub_cancel' inner]; rfl
    refine ⟨low, Nat.le_of_lt high, fun few => ⟨?_, high⟩⟩
    have width : n.log2 < 44 := (Nat.log2_lt (Nat.ne_of_gt some)).mpr few
    omega
  · have large : 2 ^ 53 ≤ n := Nat.le_trans (Nat.pow_le_pow_right (by decide) (by omega)) size
    obtain rfl : n = 2 ^ 53 := Nat.le_antisymm small large
    exact ⟨by decide, by decide, fun few => absurd few (by decide)⟩

/-- A number of fewer than 54 bits is the value of a step, and after a number of fewer than 45 bits the next
step is less than two thousandths away. -/
theorem exists_step (small : n ≤ 2 ^ 53) :
    ∃ step, units step = n * unitsPerOne ∧ step < finiteSteps ∧
      (n < 2 ^ 44 → 512 * units (step + 1) ≤ 512 * (n * unitsPerOne) + unitsPerOne) := by
  rcases Nat.eq_zero_or_pos n with rfl | some
  · have width : 2 ^ 9 ≤ unitsPerOne := two_pow_le_unitsPerOne (by decide)
    have first : units (0 + 1) = 1 := units_small (by decide)
    refine ⟨0, ?_, finiteSteps_pos, fun _ => ?_⟩
    · rw [Nat.zero_mul, units_small binade_pos]
    · rw [first, Nat.zero_mul]
      omega
  obtain ⟨k, few, low, high, fine⟩ := exists_scale some small
  have placed : Placed (1074 - k) (n * 2 ^ k) := ⟨high, fun _ => low⟩
  have value : n * 2 ^ k * 2 ^ (1074 - k) = n * unitsPerOne := by
    rw [unitsPerOne_eq, Nat.mul_assoc, pow_mul_pow_sub 2 (by omega)]
  refine ⟨(1074 - k) * binade + n * 2 ^ k, placed.units_eq.trans value, ?_, fun short => ?_⟩
  · have places : (1074 - k) * binade ≤ 1074 * binade := Nat.mul_le_mul_right _ (Nat.sub_le _ _)
    have positive := binade_pos
    unfold finiteSteps
    omega
  · obtain ⟨nine, within⟩ := fine short
    have width : 512 * 2 ^ (1074 - k) ≤ unitsPerOne := by
      calc 512 * 2 ^ (1074 - k) = 2 ^ (9 + (1074 - k)) := by rw [Nat.pow_add]
        _ ≤ unitsPerOne := two_pow_le_unitsPerOne (by omega)
    rw [Nat.add_assoc, (placed.next within).units_eq, Nat.add_one_mul (n * 2 ^ k), value]
    omega

theorem ofNat_exact {step : Nat} (value : units step = n * unitsPerOne)
    (bounded : step < finiteSteps) : ofNat n = .finite false ⟨step, bounded⟩ := by
  have found : roundStep (n * unitsPerOne) 1 = step := by
    have own := roundStep_units step Nat.one_pos
    rwa [Nat.mul_one, value] at own
  simp only [ofNat, ofUnits, found, dif_pos bounded]

end Whole

section Seconds
variable {millis : Nat}

theorem ofInt_natCast (n : Nat) : ofInt n = ofNat n := by
  have whole : ¬ (n : Int) < 0 := by omega
  simp only [ofInt, ofNat, whole, decide_false, Int.natAbs_natCast]

theorem seconds_roundsTo (small : millis ≤ 2 ^ 53) :
    ∃ step, ∃ bounded : step < finiteSteps, (ofInt millis).divNat 1000 = .finite false ⟨step, bounded⟩ ∧
      RoundsTo step (millis * unitsPerOne) 1000 := by
  obtain ⟨whole, value, bounded, -⟩ := exists_step small
  have thousand : 0 < 1000 := by decide
  have rounds := roundsTo_roundStep (millis * unitsPerOne) thousand
  have below : roundStep (millis * unitsPerOne) 1000 ≤ whole := by
    have own := roundsTo_units whole Nat.one_pos
    rw [value, Nat.mul_one] at own
    exact rounds.mono own thousand Nat.one_pos (by omega)
  have bounded' := Nat.lt_of_le_of_lt below bounded
  refine ⟨_, bounded', ?_, rounds⟩
  rw [ofInt_natCast, ofNat_exact value bounded]
  simp only [divNat, ofUnits, value, dif_pos bounded']

theorem nearest_seconds (small : millis ≤ 2 ^ 53) : Nearest ((ofInt millis).divNat 1000) millis 1000 := by
  obtain ⟨step, bounded, same, rounds⟩ := seconds_roundsTo small
  rw [same]
  exact nearest_of_roundsTo rounds (by decide) bounded

theorem gt_finite (a b : Fin finiteSteps) : gt (.finite false a) (.finite false b) = true ↔ b < a := by
  simp only [gt, rank?, Bool.false_eq_true, if_false, decide_eq_true_iff, Nat.cast_lt]
  exact Iff.rfl

theorem not_gt_infinite (a : Fin finiteSteps) : ¬ gt (.finite false a) (.infinite false) = true := by
  have bounded := a.isLt
  simp only [gt, rank?, Bool.false_eq_true, if_false, decide_eq_true_iff]
  omega

theorem clampNegative_finite (step : Fin finiteSteps) :
    (finite false step).clampNegative = .finite false step := by
  have above : ¬ zero.gt (.finite false step) = true := by
    rw [zero, gt_finite]
    exact Nat.not_lt_zero _
  rw [clampNegative, if_neg above]

theorem not_gt_ofNat {step limit : Nat} (bounded : step < finiteSteps)
    (below : step ≤ roundStep (limit * unitsPerOne) 1) :
    ¬ gt (.finite false ⟨step, bounded⟩) (ofNat limit) = true := by
  by_cases finite : roundStep (limit * unitsPerOne) 1 < finiteSteps
  · simp only [ofNat, ofUnits, dif_pos finite, gt_finite]
    exact Nat.not_lt_of_le below
  · simp only [ofNat, ofUnits, dif_neg finite]
    exact not_gt_infinite _

/-- Where steps are less than two thousandths apart, a thousandth more than a whole number is more than half
way to the next step. -/
theorem RoundsTo.beyond_whole {step whole limit unit : Nat} (rounds : RoundsTo step (millis * unit) 1000)
    (unit_pos : 0 < unit) (value : units whole = limit * unit)
    (fine : 512 * units (whole + 1) ≤ 512 * (limit * unit) + unit) (beyond : 1000 * limit < millis) :
    whole < step := by
  by_contra below
  have left : units step ≤ units whole := units_strictMono.monotone (Nat.le_of_not_lt below)
  have right : units (step + 1) ≤ units (whole + 1) := units_strictMono.monotone (by omega)
  have upper := rounds.upper
  have more := Nat.mul_le_mul_right unit (Nat.succ_le_of_lt beyond)
  rw [Nat.succ_mul, Nat.mul_assoc] at more
  unfold upperHalf at upper
  omega

/-- Seconds are greater than a whole number of seconds exactly when the milliseconds are more. -/
theorem seconds_gt_iff (small : millis ≤ 2 ^ 53) (limit : Nat) :
    ((ofInt millis).divNat 1000).gt (.ofNat limit) = true ↔ 1000 * limit < millis := by
  obtain ⟨step, bounded, same, rounds⟩ := seconds_roundsTo small
  rw [same]
  constructor
  · intro greater
    by_contra within
    have limited := roundsTo_roundStep (limit * unitsPerOne) Nat.one_pos
    refine not_gt_ofNat bounded ?_ greater
    refine rounds.mono limited (by decide) Nat.one_pos ?_
    rw [Nat.mul_one, Nat.mul_right_comm]
    exact Nat.mul_le_mul_right unitsPerOne (by omega)
  · intro beyond
    have least : limit ≤ 2 ^ 53 := by omega
    obtain ⟨whole, value, bounded', fine⟩ := exists_step least
    rw [ofNat_exact value bounded', gt_finite]
    exact rounds.beyond_whole unitsPerOne_pos value (fine (by omega)) beyond

theorem roundStep_mono {num den num' den' : Nat} (den_pos : 0 < den) (den'_pos : 0 < den')
    (order : num * den' ≤ num' * den) : roundStep num den ≤ roundStep num' den' :=
  (roundsTo_roundStep num den_pos).mono (roundsTo_roundStep num' den'_pos) den_pos den'_pos order

theorem gt_iff_rank {x y : Binary64} : x.gt y = true ↔ ∃ i j, x.rank? = some i ∧ y.rank? = some j ∧ j < i := by
  unfold gt
  cases x.rank? with
  | none => simp
  | some i =>
    cases y.rank? with
    | none => simp
    | some j => simp

/-- In the order of all numbers infinity stands where the step after the last finite one would. -/
theorem rank?_ofUnits (num den : Nat) :
    (ofUnits false num den).rank? = some ((min (roundStep num den) finiteSteps : Nat) : Int) := by
  unfold ofUnits
  generalize roundStep num den = step
  by_cases bounded : step < finiteSteps
  · rw [dif_pos bounded, Nat.min_eq_left (Nat.le_of_lt bounded), rank?]
    simp only [Bool.false_eq_true, if_false]
  · rw [dif_neg bounded, Nat.min_eq_right (Nat.le_of_not_lt bounded), rank?]
    simp only [Bool.false_eq_true, if_false]

def secondsRank (millis : Nat) : Nat :=
  let whole := roundStep (millis * unitsPerOne) 1
  if whole < finiteSteps then min (roundStep (units whole) 1000) finiteSteps else finiteSteps

theorem rank?_seconds (millis : Nat) : ((ofInt millis).divNat 1000).rank? = some (secondsRank millis : Int) := by
  rw [ofInt_natCast, ofNat, ofUnits, secondsRank]
  generalize roundStep (millis * unitsPerOne) 1 = whole
  by_cases finite : whole < finiteSteps
  · rw [dif_pos finite, divNat, rank?_ofUnits, if_pos finite]
  · rw [dif_neg finite]
    simp only [divNat, rank?, if_neg finite, Bool.false_eq_true, if_false]

theorem secondsRank_mono {more : Nat} (order : millis ≤ more) : secondsRank millis ≤ secondsRank more := by
  have wholes : roundStep (millis * unitsPerOne) 1 ≤ roundStep (more * unitsPerOne) 1 :=
    roundStep_mono Nat.one_pos Nat.one_pos (Nat.mul_le_mul_right 1 (Nat.mul_le_mul_right unitsPerOne order))
  unfold secondsRank
  dsimp only
  generalize roundStep (millis * unitsPerOne) 1 = whole at wholes ⊢
  generalize roundStep (more * unitsPerOne) 1 = whole' at wholes ⊢
  have parts : roundStep (units whole) 1000 ≤ roundStep (units whole') 1000 :=
    roundStep_mono (by decide) (by decide) (Nat.mul_le_mul_right 1000 (units_strictMono.monotone wholes))
  by_cases finite : whole' < finiteSteps
  · rw [if_pos finite, if_pos (Nat.lt_of_le_of_lt wholes finite)]
    exact min_le_min_right finiteSteps parts
  · rw [if_neg finite]
    split
    · exact Nat.min_le_right _ _
    · exact Nat.le_refl _

/-- A number of milliseconds beyond a limit in seconds is seen to be beyond it, however large it is: where
doubles lie too far apart to tell, it is far beyond. -/
theorem seconds_gt_of_lt {limit : Nat} (bounded : limit ≤ 10 ^ 12) (beyond : 1000 * limit < millis) :
    ((ofInt millis).divNat 1000).gt (.ofNat limit) = true := by
  rcases Nat.le_total millis (2 ^ 53) with small | large
  · exact (seconds_gt_iff small limit).mpr beyond
  · have far : 1000 * limit < 2 ^ 53 := by omega
    have greater := (seconds_gt_iff (Nat.le_refl (2 ^ 53)) limit).mpr far
    obtain ⟨i, j, high, low, below⟩ := gt_iff_rank.mp greater
    rw [rank?_seconds] at high
    obtain rfl := Option.some.inj high
    refine gt_iff_rank.mpr ⟨_, j, rank?_seconds millis, low, ?_⟩
    exact Int.lt_of_lt_of_le below (Int.ofNat_le.mpr (secondsRank_mono large))

/-- A number of seconds that stands for whole milliseconds: the double nearest to a thousandth of them, which
is greater than a whole number of seconds exactly when they are more. -/
structure OfMillis (x : Binary64) (millis : Nat) : Prop where
  nearest : Nearest x millis 1000
  gt_iff : ∀ limit, x.gt (.ofNat limit) = true ↔ 1000 * limit < millis
  clamped : x.clampNegative = x

theorem ofMillis_seconds (small : millis ≤ 2 ^ 53) : OfMillis ((ofInt millis).divNat 1000) millis := by
  refine ⟨nearest_seconds small, seconds_gt_iff small, ?_⟩
  obtain ⟨step, bounded, same, -⟩ := seconds_roundsTo small
  rw [same, clampNegative_finite]

end Seconds

end DeliveryProbe.Binary64
