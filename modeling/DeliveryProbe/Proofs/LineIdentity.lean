import DeliveryProbe.Proofs.LineProtocol
import DeliveryProbe.Text.Occurrence

/-! Samples are told apart by their lines. The text of a double is that of a decimal that rounds to it, and a text is
that of one value only, so that it names the double. In a line it stands behind the last blank, whatever the name of
the system looks like, and what stands in front of that name differs for different channels and outcomes at once. -/
namespace DeliveryProbe

namespace Numeral

theorem digits_injective : Function.Injective digits :=
  Function.LeftInverse.injective fun _ => Nat.ofDigitChars_ten_toDigits

theorem fixed_inj {width m n : Nat} (same : fixed width m = fixed width n) : m % 10 ^ width = n % 10 ^ width := by
  have values := congrArg (fun s => ofDigits (values s)) same
  simpa only [values_fixed, ofDigits_places] using values

end Numeral

namespace Decimal

def Bare (d : Decimal) : Prop := d.significand = 0 → d.exponent = 0

/-- The value, as the numerator and the denominator of a quotient. -/
def quotient (d : Decimal) : Nat × Nat := (d.significand * 10 ^ d.exponent.toNat, 10 ^ (-d.exponent).toNat)

/-- What is written for a decimal: a whole number, or one with places behind a point. -/
inductive Shown (d : Decimal) : Prop where
  | whole (value : d.quotient.2 = 1) (text : d.toChars = Numeral.digits d.quotient.1)
  | broken (places : Nat) (value : d.quotient = (d.significand, 10 ^ places))
      (text : d.toChars = Numeral.digits (d.significand / 10 ^ places) ++ '.' :: Numeral.fixed places d.significand)

variable {d d' : Decimal}

theorem Bare.shown (bare : d.Bare) : d.Shown := by
  obtain ⟨n, exponent⟩ := d
  rcases Int.lt_or_le exponent 0 with negative | whole
  · obtain ⟨places, rfl⟩ : ∃ places : Nat, exponent = -places := ⟨exponent.natAbs, by omega⟩
    have none : (-(places : Int)).toNat = 0 := by omega
    refine .broken places ?_ (toChars_broken n (by omega))
    rw [quotient, none, Int.neg_neg, Int.toNat_natCast, Nat.pow_zero, Nat.mul_one]
  · obtain ⟨zeros, rfl⟩ := Int.eq_ofNat_of_zero_le whole
    have none : (-(zeros : Int)).toNat = 0 := by omega
    refine .whole (by rw [quotient, none, Nat.pow_zero]) ?_
    rw [quotient, Int.toNat_natCast]
    rcases Nat.eq_zero_or_pos n with rfl | some
    · obtain rfl : zeros = 0 := Int.natCast_eq_zero.mp (bare rfl)
      rfl
    · exact toChars_whole some zeros

theorem quotient_eq_of_toChars (bare : d.Bare) (bare' : d'.Bare) (same : d.toChars = d'.toChars) :
    d.quotient = d'.quotient := by
  have point {n : Nat} {s t : List Char} : Numeral.digits n ≠ s ++ '.' :: t := by
    intro broken
    have member : '.' ∈ Numeral.digits n := broken ▸ List.mem_append_right s List.mem_cons_self
    exact Numeral.not_mem_digits rfl n member
  cases bare.shown with
  | whole value text =>
    cases bare'.shown with
    | whole value' text' =>
      rw [text, text'] at same
      exact Prod.ext (Numeral.digits_injective same) (value.trans value'.symm)
    | broken places' value' text' =>
      rw [text, text'] at same
      exact absurd same point
  | broken places value text =>
    cases bare'.shown with
    | whole value' text' =>
      rw [text, text'] at same
      exact absurd same.symm point
    | broken places' value' text' =>
      have front (n : Nat) : '.' ∉ Numeral.digits n := Numeral.not_mem_digits rfl n
      have behind (width n : Nat) : '.' ∉ Numeral.fixed width n :=
        Numeral.not_mem_of_isDigit (Numeral.fixed_isDigit width n) rfl
      rw [text, text', List.append_cons_inj_of_notMem (front _) (behind _ _)] at same
      obtain ⟨wholes, -, fractions⟩ := same
      obtain rfl : places = places' := by
        have widths := congrArg List.length fractions
        rwa [Numeral.length_fixed, Numeral.length_fixed] at widths
      have parts := congrArg₂ (10 ^ places * · + ·) (Numeral.digits_injective wholes) (Numeral.fixed_inj fractions)
      simp only [Nat.div_add_mod] at parts
      rw [value, value', parts]

end Decimal

namespace Binary64
variable {step : Nat}

/-- If the points of a grid lie closer together than half a unit, the one below a step rounds to it. -/
theorem exists_point {e : Int} (narrow : (gridScale e).1 < (gridScale e).2) (large : 0 < step) :
    ∃ d, onGrid? step e = some d := by
  obtain ⟨some, factor⟩ := gridScale_pos e
  let below := 2 * units step * (gridScale e).2 / (gridScale e).1
  have most : below * (gridScale e).1 ≤ 2 * units step * (gridScale e).2 := Nat.div_mul_le_self _ _
  have least : 2 * units step * (gridScale e).2 < (below + 1) * (gridScale e).1 :=
    Nat.lt_mul_of_div_lt (Nat.lt_succ_self below) some
  have before : units (step - 1) < units step := units_strictMono (Nat.sub_one_lt_of_lt large)
  have after : units step < units (step + 1) := units_lt_succ step
  have low : (lowerHalf step + 1) * (gridScale e).2 ≤ 2 * units step * (gridScale e).2 :=
    Nat.mul_le_mul_right _ (by unfold lowerHalf; omega)
  have high : 2 * units step * (gridScale e).2 < upperHalf step * (gridScale e).2 :=
    Nat.mul_lt_mul_of_pos_right (by unfold upperHalf; omega) factor
  rw [Nat.add_one_mul below] at least
  rw [Nat.add_one_mul (lowerHalf step)] at low
  exact onGrid?_complete (k := below) (roundsTo_within.mpr ⟨by omega, by omega, by omega, by omega⟩)

theorem finest_narrow : (gridScale (-325)).1 < (gridScale (-325)).2 := by
  have double (k : Nat) : 2 * 2 ^ k = 2 ^ (k + 1) := Nat.pow_succ'.symm
  have wider {m n k : Nat} (bits : m = 43 * k) (places : n = 13 * k) (some : k ≠ 0) : 2 ^ m < 10 ^ n := by
    rw [bits, places, Nat.pow_mul, Nat.pow_mul]
    exact Nat.pow_lt_pow_left (by decide) some
  have broken : ¬ (0 : Int) ≤ -325 := by decide
  have places : Int.natAbs (-325) = 13 * 25 := rfl
  rw [gridScale, if_neg broken, unitsPerOne_eq, double, Nat.pow_eq]
  generalize Int.natAbs (-325) = n at places
  exact wider rfl places (by decide)

theorem shortest_roundsTo (large : 0 < step) :
    roundsTo step (shortest step).exponent (shortest step).significand = true := by
  obtain ⟨finest, point⟩ := exists_point finest_narrow large
  have listed : (-325 : Int) ∈ gridExponents := List.mem_map.mpr ⟨633, List.mem_range.mpr (by decide), rfl⟩
  cases found : gridExponents.findSome? (onGrid? step) with
  | none => exact nomatch point.symm.trans (List.findSome?_eq_none_iff.mp found _ listed)
  | some d =>
    obtain ⟨e, -, grid⟩ := List.exists_of_findSome?_eq_some found
    obtain ⟨rfl, rounds⟩ := onGrid?_sound grid
    have same : shortest step = d := by rw [shortest, found, Option.getD_some]
    rw [same]
    exact rounds

/-- The text of a step is that of a decimal that rounds to it. -/
theorem exists_decimal (step : Nat) : ∃ d : Decimal, d.Bare ∧ magnitudeText step = d.toChars ∧
    RoundsTo step (d.quotient.1 * unitsPerOne) d.quotient.2 := by
  unfold magnitudeText
  split
  · next origin =>
    subst origin
    have rounds := roundsTo_units 0 Nat.one_pos
    rw [units_small binade_pos] at rounds
    exact ⟨⟨0, 0⟩, fun _ => rfl, rfl, by rwa [Decimal.quotient, Nat.zero_mul, Nat.zero_mul]⟩
  · next other =>
    have large := Nat.pos_of_ne_zero other
    have rounds := roundsTo_iff.mp (shortest_roundsTo large)
    refine ⟨_, fun nothing => ?_, rfl, rounds⟩
    -- Nothing rounds to a step above the lowest.
    have lower := rounds.lower
    have some : units 0 < units step := units_strictMono large
    have parts : 0 < lowerHalf step * 10 ^ (-(shortest step).exponent).toNat :=
      Nat.mul_pos (by unfold lowerHalf; omega) (Nat.pow_pos (by decide))
    rw [nothing, Nat.zero_mul, Nat.zero_mul] at lower
    exact absurd lower (Nat.not_le_of_lt parts)

theorem magnitudeText_injective : Function.Injective magnitudeText := by
  intro a b same
  obtain ⟨d, bare, text, rounds⟩ := exists_decimal a
  obtain ⟨d', bare', text', rounds'⟩ := exists_decimal b
  have value := Decimal.quotient_eq_of_toChars bare bare' (text.symm.trans (same.trans text'))
  rw [← value] at rounds'
  exact rounds.unique rounds' (Nat.pow_pos (by decide))

def signed (negative : Bool) (s : List Char) : List Char := (if negative then ['-'] else []) ++ s

theorem signed_inj {negative negative' : Bool} {s t : List Char} (bare : s.head? ≠ some '-') (bare' : t.head? ≠ some '-')
    (same : signed negative s = signed negative' t) : negative = negative' ∧ s = t := by
  cases negative with
  | false =>
    cases negative' with
    | false => exact ⟨rfl, same⟩
    | true => exact absurd (congrArg List.head? same) bare
  | true =>
    cases negative' with
    | false => exact absurd (congrArg List.head? same.symm) bare'
    | true => exact ⟨rfl, (List.cons.inj same).2⟩

def parts : Binary64 → Bool × List Char
  | .nan => (false, "NaN".toList)
  | .infinite negative => (negative, "inf".toList)
  | .finite negative step => (negative, magnitudeText step)

theorem toChars_eq (x : Binary64) : x.toChars = signed x.parts.1 x.parts.2 := by cases x <;> rfl

theorem head?_magnitudeText (step : Nat) {c : Char} (other : c.isDigit = false) :
    (magnitudeText step).head? ≠ some c := by
  have first {s rest : List Char} (some : s ≠ []) (digits : ∀ c ∈ s, c.isDigit = true) :
      (s ++ rest).head? ≠ Option.some c := by
    obtain ⟨d, s, rfl⟩ := List.exists_cons_of_ne_nil some
    rintro ⟨⟩
    exact nomatch other.symm.trans (digits c List.mem_cons_self)
  have decimal := decimalText_magnitudeText step
  generalize magnitudeText step = s at decimal
  cases decimal with
  | whole some digits =>
    rw [← List.append_nil s]
    exact first some digits
  | broken some digits _ _ => exact first some digits

theorem parts_injective : Function.Injective parts := by
  rintro (_ | negative | ⟨negative, step⟩) (_ | negative' | ⟨negative', step'⟩) same <;>
    obtain ⟨sign, body⟩ := Prod.mk.inj same
  case nan.nan => rfl
  case nan.infinite => nomatch body
  case nan.finite => exact absurd (congrArg List.head? body.symm) (head?_magnitudeText step' rfl)
  case infinite.nan => nomatch body
  case infinite.infinite => exact congrArg infinite sign
  case infinite.finite => exact absurd (congrArg List.head? body.symm) (head?_magnitudeText step' rfl)
  case finite.nan => exact absurd (congrArg List.head? body) (head?_magnitudeText step rfl)
  case finite.infinite => exact absurd (congrArg List.head? body) (head?_magnitudeText step rfl)
  case finite.finite => rw [sign, Fin.ext (magnitudeText_injective body)]

theorem head?_parts (x : Binary64) : x.parts.2.head? ≠ some '-' := by
  cases x with
  | nan => decide
  | infinite _ => exact nofun
  | finite _ step => exact head?_magnitudeText step rfl

/-- Doubles with the same text are the same: both zeros and both infinities have texts of their own. -/
theorem text_injective : Function.Injective text := by
  intro x y same
  have chars : x.toChars = y.toChars := String.ofList_injective same
  rw [toChars_eq, toChars_eq] at chars
  obtain ⟨sign, body⟩ := signed_inj (head?_parts x) (head?_parts y) chars
  exact parts_injective (Prod.ext sign body)

theorem blank_not_mem_text (x : Binary64) : ' ' ∉ x.text.toList := by
  have body : ' ' ∉ x.parts.2 := by
    cases x with
    | nan => decide
    | infinite _ => exact (by decide : ' ' ∉ "inf".toList)
    | finite _ step =>
      intro member
      exact (LineProtocol.simple_of_decimal (decimalText_magnitudeText step) _ member).1 (by decide)
  rw [text, String.toList_ofList, toChars_eq, signed, List.mem_append]
  rintro (sign | member)
  · split at sign <;> simp at sign
  · exact body member

end Binary64

namespace Sample

/-- The parts of a sample in a row, each behind a text that says what it is. -/
def listed (channel successful system : String) (s : Sample) : String :=
  channel ++ s.channel.label ++ successful ++ boolText s.successful ++ system ++ s.system ++ " drift=" ++ s.drift.text

theorem line_eq (s : Sample) : s.line = s.listed "logs,type=" ",successful=" ",host=" := rfl

theorem dryRunLine_eq (s : Sample) : s.dryRunLine = s.listed "=> write " " successful=" " host=" := rfl

theorem label_append_inj {c c' : Channel} {s t : List Char} (same : c.label.toList ++ s = c'.label.toList ++ t) :
    c = c' ∧ s = t := by
  cases c <;> cases c' <;> simp_all [Channel.label]

theorem boolText_append_inj {b b' : Bool} {s t : List Char}
    (same : (boolText b).toList ++ s = (boolText b').toList ++ t) : b = b' ∧ s = t := by
  cases b <;> cases b' <;> simp_all [boolText]

/-- The channel and the outcome are told apart by the first of their letters, and the name of the system ends at the
last blank. -/
theorem listed_injective (channel successful system : String) :
    Function.Injective (listed channel successful system) := by
  rintro ⟨name, c, ok, drift⟩ ⟨name', c', ok', drift'⟩ same
  have chars := congrArg String.toList same
  simp only [listed, String.toList_append, List.append_assoc, List.append_cancel_left_eq] at chars
  obtain ⟨rfl, outcome⟩ := label_append_inj chars
  obtain ⟨rfl, names⟩ := boolText_append_inj (List.append_cancel_left outcome)
  have blank : ' ' ∉ "drift=".toList := by decide
  obtain ⟨front, behind⟩ := Text.append_cons_inj_of_last (a := name.toList) (b := name'.toList)
    (List.not_mem_append blank drift.blank_not_mem_text) (List.not_mem_append blank drift'.blank_not_mem_text)
    (List.append_cancel_left names)
  rw [String.toList_inj.mp front, Binary64.text_injective (String.toList_inj.mp (List.append_cancel_left behind))]

/-- Two measurements have the same line exactly if they agree in the channel, the outcome, the name of the system and
the drift, for the store as in a dry run, whatever the systems are called: a name may hold delimiters, line feeds or a
drift of its own. All NaNs are one double here, and the zeros are two. -/
theorem lines_identify_samples (system system' : String) (channel channel' : Channel) (successful successful' : Bool)
    (drift drift' : Binary64) :
    let s := measured system channel successful drift
    let s' := measured system' channel' successful' drift'
    (s.line = s'.line ↔
        channel = channel' ∧ successful = successful' ∧ system = system' ∧ s.drift = s'.drift) ∧
      (s.dryRunLine = s'.dryRunLine ↔
        channel = channel' ∧ successful = successful' ∧ system = system' ∧ s.drift = s'.drift) ∧
      (s.line = s'.line ↔ s.dryRunLine = s'.dryRunLine) := by
  intro s s'
  have parts : s = s' ↔
      channel = channel' ∧ successful = successful' ∧ system = system' ∧ s.drift = s'.drift := by
    rw [Sample.mk.injEq]
    constructor
    · rintro ⟨names, channels, outcomes, drifts⟩
      exact ⟨channels, outcomes, names, drifts⟩
    · rintro ⟨channels, outcomes, names, drifts⟩
      exact ⟨names, channels, outcomes, drifts⟩
  have lines : s.line = s'.line ↔ s = s' := by
    rw [line_eq, line_eq]
    exact (listed_injective _ _ _).eq_iff
  have dryRunLines : s.dryRunLine = s'.dryRunLine ↔ s = s' := by
    rw [dryRunLine_eq, dryRunLine_eq]
    exact (listed_injective _ _ _).eq_iff
  exact ⟨lines.trans parts, dryRunLines.trans parts, lines.trans dryRunLines.symm⟩

end Sample
end DeliveryProbe
