import DeliveryProbe.Number.Shortest
import DeliveryProbe.Proofs.Numerals
import DeliveryProbe.Proofs.Rounding
import Mathlib.Data.Nat.Factorization.Basic

/-! The shortest text of a number of thousandths. Below `10 ^ 12` the doubles lie so close together that no two
thousandths round to the same one. So the only point of the grids down to the thousandths that rounds to the double
nearest to one of them is this itself, and the coarsest grid that has it shows it without zeros at its end. -/
namespace DeliveryProbe.Binary64

section Interval
variable {step k num den : Nat} {e : Int} {d : Decimal}

theorem RoundsTo.scale_iff {c : Nat} (some : 0 < c) :
    RoundsTo step (num * c) (den * c) ↔ RoundsTo step num den := by
  have left : lowerHalf step * (den * c) = lowerHalf step * den * c := (Nat.mul_assoc _ _ _).symm
  have middle : 2 * (num * c) = 2 * num * c := (Nat.mul_assoc _ _ _).symm
  have right : upperHalf step * (den * c) = upperHalf step * den * c := (Nat.mul_assoc _ _ _).symm
  constructor
  · rintro ⟨lower, upper, lowerEnd, upperEnd⟩
    rw [left, middle, Nat.mul_le_mul_right_iff some] at lower
    rw [middle, right, Nat.mul_le_mul_right_iff some] at upper
    rw [left, middle, Nat.mul_left_inj (Nat.ne_of_gt some)] at lowerEnd
    rw [middle, right, Nat.mul_left_inj (Nat.ne_of_gt some)] at upperEnd
    exact ⟨lower, upper, lowerEnd, upperEnd⟩
  · rintro ⟨lower, upper, lowerEnd, upperEnd⟩
    rw [← Nat.mul_left_inj (Nat.ne_of_gt some), ← left, ← middle] at lowerEnd
    rw [← Nat.mul_left_inj (Nat.ne_of_gt some), ← right, ← middle] at upperEnd
    exact ⟨left ▸ middle ▸ Nat.mul_le_mul_right c lower, right ▸ middle ▸ Nat.mul_le_mul_right c upper, lowerEnd,
      upperEnd⟩

theorem within_iff {low point high : Nat} :
    (if step % 2 = 0 then low ≤ point && point ≤ high else low < point && point < high : Bool) = true ↔
      low ≤ point ∧ point ≤ high ∧ (low = point → step % 2 = 0) ∧ (point = high → step % 2 = 0) := by
  split
  · next even => simp [even]
  · next odd =>
    simp only [Bool.and_eq_true, decide_eq_true_eq, odd, imp_false]
    omega

theorem roundsTo_within : roundsTo step e k = true ↔
    lowerHalf step * (gridScale e).2 ≤ k * (gridScale e).1 ∧ k * (gridScale e).1 ≤ upperHalf step * (gridScale e).2 ∧
      (lowerHalf step * (gridScale e).2 = k * (gridScale e).1 → step % 2 = 0) ∧
        (k * (gridScale e).1 = upperHalf step * (gridScale e).2 → step % 2 = 0) := within_iff

theorem gridScale_eq (e : Int) (k : Nat) :
    k * (gridScale e).1 = 2 * (k * 10 ^ e.toNat * unitsPerOne) ∧ (gridScale e).2 = 10 ^ (-e).toNat := by
  unfold gridScale
  generalize unitsPerOne = unit
  by_cases whole : 0 ≤ e
  · have none : (-e).toNat = 0 := by omega
    rw [if_pos whole, none, Nat.pow_eq]
    exact ⟨by ring, rfl⟩
  · have none : e.toNat = 0 := by omega
    have places : e.natAbs = (-e).toNat := by omega
    rw [if_neg whole, none, places]
    exact ⟨by ring, rfl⟩

theorem roundsTo_iff : roundsTo step e k = true ↔
    RoundsTo step (k * 10 ^ e.toNat * unitsPerOne) (10 ^ (-e).toNat) := by
  obtain ⟨point, factor⟩ := gridScale_eq e k
  rw [roundsTo_within, point, factor]
  exact ⟨fun ⟨lower, upper, lowerEnd, upperEnd⟩ => ⟨lower, upper, lowerEnd, upperEnd⟩,
    fun ⟨lower, upper, lowerEnd, upperEnd⟩ => ⟨lower, upper, lowerEnd, upperEnd⟩⟩

/-- The points of the grids down to the thousandths, counted in thousandths. -/
theorem roundsTo_millis (scale : Nat) : roundsTo step ((scale : Int) - 3) k = true ↔
    RoundsTo step (k * 10 ^ scale * unitsPerOne) 1000 := by
  rw [roundsTo_iff]
  generalize unitsPerOne = unit
  rcases Nat.lt_or_ge scale 3 with broken | whole
  · have none : ((scale : Int) - 3).toNat = 0 := by omega
    have places : (-((scale : Int) - 3)).toNat = 3 - scale := by omega
    have thousand : 1000 = 10 ^ (3 - scale) * 10 ^ scale := (pow_sub_mul_pow 10 (Nat.le_of_lt broken)).symm
    rw [none, places, thousand, Nat.pow_zero, Nat.mul_one, Nat.mul_right_comm k]
    exact (RoundsTo.scale_iff (Nat.pow_pos (by decide))).symm
  · have places : ((scale : Int) - 3).toNat = scale - 3 := by omega
    have none : (-((scale : Int) - 3)).toNat = 0 := by omega
    have size : 10 ^ scale = 10 ^ (scale - 3) * 1000 := (pow_sub_mul_pow 10 whole).symm
    have extended : RoundsTo step (k * 10 ^ (scale - 3) * unit * 1000) (1 * 1000) ↔ _ :=
      RoundsTo.scale_iff (by decide)
    rw [none, places, size, Nat.pow_zero, ← extended, Nat.one_mul, Nat.mul_right_comm _ unit, Nat.mul_assoc k]

end Interval

section Points
variable {step k : Nat} {e : Int} {d : Decimal}

theorem onGrid?_sound (found : onGrid? step e = some d) :
    d.exponent = e ∧ roundsTo step e d.significand = true := by
  have either {near far : Nat} (found : (if roundsTo step e near = true then some { significand := near, exponent := e }
      else if roundsTo step e far = true then some { significand := far, exponent := e } else none) = some d) :
      d.exponent = e ∧ roundsTo step e d.significand = true := by
    split at found
    · next rounds =>
      obtain rfl := Option.some.inj found
      exact ⟨rfl, rounds⟩
    · obtain ⟨rounds, same⟩ := Option.ite_none_right_eq_some.mp found
      obtain rfl := Option.some.inj same
      exact ⟨rfl, rounds⟩
  unfold onGrid? at found
  dsimp only at found
  split at found
  · exact either found
  · exact either found

theorem gridScale_pos (e : Int) : 0 < (gridScale e).1 ∧ 0 < (gridScale e).2 := by
  obtain ⟨point, factor⟩ := gridScale_eq e 1
  have power : 0 < 1 * 10 ^ e.toNat * unitsPerOne :=
    Nat.mul_pos (Nat.mul_pos Nat.one_pos (Nat.pow_pos (by decide))) unitsPerOne_pos
  rw [factor]
  exact ⟨by omega, Nat.pow_pos (by decide)⟩

/-- The value of a step lies within its interval, and if a point of a grid does, so does one of the two that are
next to the value. -/
theorem roundsTo_next (rounds : roundsTo step e k = true) :
    let below := 2 * units step * (gridScale e).2 / (gridScale e).1
    roundsTo step e below = true ∨ roundsTo step e (below + 1) = true := by
  intro below
  obtain ⟨some, factor⟩ := gridScale_pos e
  obtain ⟨lower, upper, lowerEnd, upperEnd⟩ := roundsTo_within.mp rounds
  have low : lowerHalf step * (gridScale e).2 ≤ 2 * units step * (gridScale e).2 := by
    have before : units (step - 1) ≤ units step := units_strictMono.monotone (Nat.sub_le _ _)
    exact Nat.mul_le_mul_right _ (by unfold lowerHalf; omega)
  have high : 2 * units step * (gridScale e).2 < upperHalf step * (gridScale e).2 := by
    have after : units step < units (step + 1) := units_lt_succ step
    exact Nat.mul_lt_mul_of_pos_right (by unfold upperHalf; omega) factor
  have left : below * (gridScale e).1 ≤ 2 * units step * (gridScale e).2 := Nat.div_mul_le_self _ _
  have right : 2 * units step * (gridScale e).2 < (below + 1) * (gridScale e).1 :=
    Nat.lt_mul_of_div_lt (Nat.lt_succ_self below) some
  rcases Nat.lt_or_ge below k with above | within
  · have order : (below + 1) * (gridScale e).1 ≤ k * (gridScale e).1 := Nat.mul_le_mul_right _ above
    exact .inr (roundsTo_within.mpr ⟨by omega, by omega, fun _ => by omega, fun _ => upperEnd (by omega)⟩)
  · have order : k * (gridScale e).1 ≤ below * (gridScale e).1 := Nat.mul_le_mul_right _ within
    exact .inl (roundsTo_within.mpr ⟨by omega, by omega, fun _ => lowerEnd (by omega), fun _ => by omega⟩)

theorem onGrid?_complete (rounds : roundsTo step e k = true) : ∃ d, onGrid? step e = some d := by
  have either {near far : Nat} (rounds : roundsTo step e near = true ∨ roundsTo step e far = true) :
      ∃ d, (if roundsTo step e near = true then some ({ significand := near, exponent := e } : Decimal)
        else if roundsTo step e far = true then some { significand := far, exponent := e } else none) = some d := by
    by_cases nearer : roundsTo step e near = true
    · exact ⟨_, if_pos nearer⟩
    · exact ⟨_, (if_neg nearer).trans (if_pos (rounds.resolve_left nearer))⟩
  have next := roundsTo_next rounds
  unfold onGrid?
  dsimp only
  split
  · exact either next
  · exact either next.symm

end Points

theorem exists_fine :
    ∃ step, units step = 2 ^ 40 * unitsPerOne ∧ 4096 * units (step + 1) = 4096 * units step + unitsPerOne := by
  have placed : Placed 1062 binade := ⟨by omega, fun _ => Nat.le_refl _⟩
  have next : Placed 1062 (binade + 1) := placed.next (by decide)
  have size : binade = 2 ^ 40 * 2 ^ 12 := by decide
  have whole (k : Nat) : binade * 2 ^ k = 2 ^ 40 * 2 ^ (12 + k) := by
    rw [size, Nat.mul_assoc, ← Nat.pow_add]
  have after (k : Nat) : 4096 * ((binade + 1) * 2 ^ k) = 4096 * (binade * 2 ^ k) + 2 ^ (12 + k) := by
    rw [Nat.add_one_mul binade, Nat.mul_add, Nat.pow_add]
  refine ⟨1062 * binade + binade, ?_, ?_⟩
  · rw [placed.units_eq, whole, unitsPerOne_eq]
  · rw [Nat.add_assoc, next.units_eq, placed.units_eq, after, unitsPerOne_eq]

theorem gap_mono {a b : Nat} (order : a ≤ b) : units (a + 1) + units b ≤ units a + units (b + 1) := by
  obtain ⟨shift, m, rfl, placed, within⟩ := exists_placed a
  obtain ⟨shift', m', rfl, placed', within'⟩ := exists_placed b
  rw [Nat.add_assoc, Nat.add_assoc, placed.units_eq, placed'.units_eq, (placed.next within).units_eq,
    (placed'.next within').units_eq, Nat.add_one_mul, Nat.add_one_mul]
  have wider : 2 ^ shift ≤ 2 ^ shift' := by
    refine Nat.pow_le_pow_right (by decide) ?_
    by_contra less
    have low := placed.low (by omega)
    have binades : (shift' + 1) * binade ≤ shift * binade := Nat.mul_le_mul_right _ (by omega)
    rw [Nat.add_one_mul] at binades
    omega
  omega

section Thousandths
variable {step m n : Nat}

/-- Below `10 ^ 12` the interval of a step is narrower than two thousandths of its half units. -/
theorem narrow_of_roundsTo (small : m < 10 ^ 15) (rounds : RoundsTo step (m * unitsPerOne) 1000) :
    upperHalf step * 1000 < lowerHalf step * 1000 + 2 * unitsPerOne := by
  obtain ⟨fine, value, next⟩ := exists_fine
  have below : step ≤ fine := by
    have order : m * unitsPerOne ≤ 2 ^ 40 * 1000 * unitsPerOne := Nat.mul_le_mul_right _ (by omega)
    refine rounds.mono (roundsTo_units fine Nat.one_pos) (by decide) Nat.one_pos ?_
    rw [value, Nat.mul_one, Nat.mul_one, Nat.mul_right_comm]
    exact order
  have gap {other : Nat} (order : other ≤ step) : 4096 * units (other + 1) ≤ 4096 * units other + unitsPerOne := by
    have wider := gap_mono (Nat.le_trans order below)
    omega
  have above := gap (Nat.le_refl step)
  have beneath : 4096 * units step ≤ 4096 * units (step - 1) + unitsPerOne := by
    cases step with
    | zero =>
      rw [Nat.zero_sub]
      exact Nat.le_add_right _ _
    | succ before => exact gap (Nat.le_succ before)
  have some := unitsPerOne_pos
  unfold upperHalf lowerHalf
  omega

theorem millis_unique (small : m < 10 ^ 15) (first : RoundsTo step (m * unitsPerOne) 1000)
    (second : RoundsTo step (n * unitsPerOne) 1000) : m = n := by
  have narrow := narrow_of_roundsTo small first
  have low := first.lower
  have high := first.upper
  have low' := second.lower
  have high' := second.upper
  generalize unitsPerOne = unit at *
  have less : n * unit < (m + 1) * unit := by
    rw [Nat.add_one_mul]
    omega
  have more : m * unit < (n + 1) * unit := by
    rw [Nat.add_one_mul]
    omega
  have order := Nat.lt_of_mul_lt_mul_right less
  have order' := Nat.lt_of_mul_lt_mul_right more
  omega

theorem findSome?_range {α β : Type} {f : α → Option β} {g : Nat → α} {b : β} {count last : Nat}
    (within : last < count) (none : ∀ i < last, f (g i) = none) (found : f (g last) = some b) :
    ((List.range count).map g).findSome? f = some b := by
  obtain ⟨more, rfl⟩ := Nat.exists_eq_add_of_lt within
  have split : (List.range (last + more + 1)).map g =
      (List.range last).map g ++ g last :: ((List.range more).map (last + 1 + ·)).map g := by
    rw [Nat.add_right_comm, List.range_add, List.range_succ, List.append_assoc, List.map_append]
    rfl
  have before : ∀ x ∈ (List.range last).map g, f x = Option.none := by
    intro x listed
    obtain ⟨i, before, rfl⟩ := List.mem_map.mp listed
    exact none i (List.mem_range.mp before)
  exact List.findSome?_eq_some_iff.mpr ⟨_, _, _, split, found, before⟩

/-- The shortest decimal of a number of thousandths is the number without the zeros at its end. -/
theorem shortest_millis {zeros : Nat} (some : 0 < n) (small : n * 10 ^ zeros < 10 ^ 15) (bare : n % 10 ≠ 0)
    (rounds : RoundsTo step (n * 10 ^ zeros * unitsPerOne) 1000) :
    shortest step = { significand := n, exponent := zeros - 3 } := by
  have few : zeros < 15 := by
    by_contra many
    have large : 10 ^ 15 ≤ 10 ^ zeros := Nat.pow_le_pow_right (by decide) (Nat.le_of_not_lt many)
    exact Nat.not_lt_of_le (Nat.le_trans large (Nat.le_mul_of_pos_left _ some)) small
  -- A point of one of these grids that rounds to the step is the number itself.
  have own {scale k : Nat} (point : roundsTo step ((scale : Int) - 3) k = true) : n * 10 ^ zeros = k * 10 ^ scale :=
    millis_unique small rounds ((roundsTo_millis scale).mp point)
  have coarser {scale : Nat} (larger : zeros < scale) : onGrid? step ((scale : Int) - 3) = none := by
    by_contra found
    obtain ⟨d, found⟩ := Option.ne_none_iff_exists'.mp found
    obtain ⟨rest, rfl⟩ := Nat.exists_eq_add_of_lt larger
    have same := own (onGrid?_sound found).2
    rw [Nat.add_assoc, Nat.add_comm zeros, Nat.pow_add, ← Nat.mul_assoc] at same
    have tens := Nat.eq_of_mul_eq_mul_right (Nat.pow_pos (by decide)) same
    rw [tens, Nat.pow_succ, ← Nat.mul_assoc, Nat.mul_mod_left] at bare
    exact bare rfl
  have found : onGrid? step ((zeros : Int) - 3) = Option.some { significand := n, exponent := zeros - 3 } := by
    obtain ⟨d, found⟩ := onGrid?_complete ((roundsTo_millis zeros).mpr rounds)
    obtain ⟨exponent, point⟩ := onGrid?_sound found
    have significand := Nat.eq_of_mul_eq_mul_right (Nat.pow_pos (by decide)) (own point)
    rw [found, ← exponent, significand]
  have place : (308 : Int) - (311 - zeros : Nat) = zeros - 3 := by omega
  have first : gridExponents.findSome? (onGrid? step) = Option.some { significand := n, exponent := zeros - 3 } := by
    have within : 311 - zeros < 634 := by omega
    refine findSome?_range within (fun i before => ?_) ?_
    · have scale : (308 : Int) - i = (311 - i : Nat) - 3 := by omega
      rw [scale]
      exact coarser (by omega)
    · rw [place]
      exact found
  rw [shortest, first]
  rfl

theorem step_pos_of_roundsTo (some : 0 < m) (rounds : RoundsTo step (m * unitsPerOne) 1000) : 0 < step := by
  by_contra origin
  obtain rfl : step = 0 := by omega
  have upper := rounds.upper
  have width : 2 ^ 10 ≤ unitsPerOne := two_pow_le_unitsPerOne (by decide)
  have least : unitsPerOne ≤ m * unitsPerOne := Nat.le_mul_of_pos_left _ some
  rw [upperHalf, units_small binade_pos, units_small (by decide)] at upper
  omega

end Thousandths

/-- The decimal expansion of a number of thousandths: no point behind whole numbers, and otherwise up to three digits
behind it, the last of which is not zero. -/
inductive Expansion (millis : Nat) : List Char → Prop where
  | whole (whole : millis % 1000 = 0) : Expansion millis (Numeral.digits (millis / 1000))
  | broken {fraction : List Char} (digits : ∀ c ∈ fraction, c.isDigit = true) (few : fraction.length ≤ 3)
      (last : ∃ c ∈ fraction.getLast?, c ≠ '0')
      (value : Numeral.ofDigits (Numeral.values fraction) * 10 ^ (3 - fraction.length) = millis % 1000) :
      Expansion millis (Numeral.digits (millis / 1000) ++ '.' :: fraction)

theorem digitChar_ne_zero {d : Nat} (small : d < 10) (some : d ≠ 0) : digitChar d ≠ '0' := by
  revert d
  decide

theorem expansion_zero : Expansion 0 ['0'] := .whole rfl

/-- The text of the double nearest to a number of thousandths is the expansion of this number. -/
theorem expansion_magnitudeText {step m : Nat} (some : 0 < m) (small : m < 10 ^ 15)
    (rounds : RoundsTo step (m * unitsPerOne) 1000) : Expansion m (magnitudeText step) := by
  obtain ⟨zeros, n, bare, parts⟩ := Nat.exists_eq_pow_mul_and_not_dvd (Nat.ne_of_gt some) 10 (by decide)
  obtain rfl := parts.trans (Nat.mul_comm _ _)
  have left : n % 10 ≠ 0 := fun tens => bare (Nat.dvd_of_mod_eq_zero tens)
  have least : 0 < n := by omega
  rw [magnitudeText, if_neg (Nat.ne_of_gt (step_pos_of_roundsTo some rounds)),
    shortest_millis least small left rounds]
  rcases Nat.lt_or_ge zeros 3 with broken | whole
  · have exponent : (zeros : Int) - 3 = -(3 - zeros : Nat) := by omega
    have thousand : 1000 = 10 ^ (3 - zeros) * 10 ^ zeros := (pow_sub_mul_pow 10 (Nat.le_of_lt broken)).symm
    have power : 0 < 10 ^ zeros := Nat.pow_pos (by decide)
    have seconds : n / 10 ^ (3 - zeros) = n * 10 ^ zeros / 1000 := by
      rw [thousand, Nat.mul_div_mul_right _ _ power]
    rw [exponent, Decimal.toChars_broken n (by omega), seconds]
    refine .broken (Numeral.fixed_isDigit _ n) ?_ ?_ ?_
    · rw [Numeral.length_fixed]
      omega
    · obtain ⟨width, same⟩ : ∃ width, 3 - zeros = width + 1 := ⟨2 - zeros, by omega⟩
      rw [same, Numeral.fixed, List.getLast?_concat]
      exact ⟨_, rfl, digitChar_ne_zero (Nat.mod_lt n (by decide)) left⟩
    · have kept : 3 - (3 - zeros) = zeros := by omega
      rw [Numeral.values_fixed, Numeral.ofDigits_places, Numeral.length_fixed, kept, thousand, Nat.mul_mod_mul_right]
  · have exponent : (zeros : Int) - 3 = (zeros - 3 : Nat) := by omega
    have power : 10 ^ zeros = 10 ^ (zeros - 3) * 1000 := (pow_sub_mul_pow 10 whole).symm
    have size : n * 10 ^ zeros = n * 10 ^ (zeros - 3) * 1000 := by rw [power, Nat.mul_assoc]
    rw [exponent, Decimal.toChars_whole least, size]
    have expansion : Expansion (n * 10 ^ (zeros - 3) * 1000) _ := .whole (Nat.mul_mod_left _ _)
    rwa [Nat.mul_div_cancel _ (by decide)] at expansion

end DeliveryProbe.Binary64
