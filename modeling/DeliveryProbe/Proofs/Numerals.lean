import DeliveryProbe.Number.Digits
import DeliveryProbe.Number.Shortest
import Mathlib.Data.List.TakeWhile
import Mathlib.Tactic.Ring

/-! Decimal numerals of a fixed and of a free width, what their digits stand for, and the bounds of what is read.
The decimal text of a number is a numeral, or two with a point between them. -/
namespace DeliveryProbe

namespace Numeral

/-- The last decimal places of a number, the foremost first. -/
def places : Nat → Nat → List Nat
  | 0, _ => []
  | width + 1, n => places width (n / 10) ++ [n % 10]

theorem fixed_eq (width n : Nat) : fixed width n = (places width n).map digitChar := by
  induction width generalizing n with
  | zero => rfl
  | succ width ih => rw [fixed, places, ih, List.map_append, List.map_singleton]

theorem length_places (width n : Nat) : (places width n).length = width := by
  induction width generalizing n with
  | zero => rfl
  | succ width ih => rw [places, List.length_append, ih, List.length_singleton]

theorem places_lt (width n : Nat) : ∀ d ∈ places width n, d < 10 := by
  induction width generalizing n with
  | zero => exact fun _ member => nomatch member
  | succ width ih =>
    intro d member
    rcases List.mem_append.mp member with earlier | last
    · exact ih (n / 10) d earlier
    · rw [List.mem_singleton.mp last]
      exact Nat.mod_lt n (by decide)

theorem ofDigits_places (width n : Nat) : ofDigits (places width n) = n % 10 ^ width := by
  induction width generalizing n with
  | zero => exact (Nat.mod_one n).symm
  | succ width ih =>
    have split : ofDigits (places (width + 1) n) = 10 * ofDigits (places width (n / 10)) + n % 10 := by
      rw [places, ofDigits, List.foldl_append, ofDigits]
      rfl
    rw [split, ih, Nat.pow_succ', Nat.mod_mul, Nat.add_comm]

theorem digitValue?_digitChar {d : Nat} (small : d < 10) : digitValue? (digitChar d) = some d := by
  revert d
  decide

theorem readFixed_digits {ds : List Nat} (digits : ∀ d ∈ ds, d < 10) (acc : Nat) (rest : List Char) :
    readFixed ds.length acc (ds.map digitChar ++ rest) = some (ds.foldl (fun acc d => 10 * acc + d) acc, rest) := by
  induction ds generalizing acc with
  | nil => rfl
  | cons d ds ih =>
    rw [List.length_cons, List.map_cons, List.cons_append, readFixed,
      digitValue?_digitChar (digits d List.mem_cons_self)]
    exact ih (fun other member => digits other (List.mem_cons_of_mem _ member)) _

theorem readFixed_fixed {width n : Nat} (small : n < 10 ^ width) (rest : List Char) :
    readFixed width 0 (fixed width n ++ rest) = some (n, rest) := by
  have read := readFixed_digits (places_lt width n) 0 rest
  have value : ofDigits (places width n) = n := by
    rw [ofDigits_places, Nat.mod_eq_of_lt small]
  rw [length_places, ← fixed_eq] at read
  rw [read]
  exact congrArg (fun v => some (v, rest)) value

/-- A run of digits ends where no digit follows. -/
theorem span_fixed (width n : Nat) {rest : List Char} (ends : span rest = ([], rest)) :
    span (fixed width n ++ rest) = (places width n, rest) := by
  have run {ds : List Nat} (digits : ∀ d ∈ ds, d < 10) : span (ds.map digitChar ++ rest) = (ds, rest) := by
    induction ds with
    | nil => exact ends
    | cons d ds ih =>
      rw [List.map_cons, List.cons_append, span, digitValue?_digitChar (digits d List.mem_cons_self)]
      rw [ih fun other member => digits other (List.mem_cons_of_mem _ member)]
  rw [fixed_eq]
  exact run (places_lt width n)

theorem digits_isDigit (n : Nat) : ∀ c ∈ digits n, c.isDigit = true := fun _ member =>
  Nat.isDigit_of_mem_toDigits (by decide) (by decide) member

theorem digits_ne_nil (n : Nat) : digits n ≠ [] := Nat.toDigits_ne_nil

theorem not_mem_of_isDigit {s : List Char} (digits : ∀ c ∈ s, c.isDigit = true) {c : Char}
    (plain : c.isDigit = false) : c ∉ s := by
  intro member
  rw [digits c member] at plain
  contradiction

theorem not_mem_digits {c : Char} (plain : c.isDigit = false) (n : Nat) : c ∉ digits n :=
  not_mem_of_isDigit (digits_isDigit n) plain

theorem fixed_isDigit (width n : Nat) : ∀ c ∈ fixed width n, c.isDigit = true := by
  have digit {d : Nat} (small : d < 10) : (digitChar d).isDigit = true := by
    revert d
    decide
  rw [fixed_eq]
  intro c member
  obtain ⟨d, place, rfl⟩ := List.mem_map.mp member
  exact digit (places_lt width n d place)

/-- One digit more makes a bound ten times as large. -/
theorem digit_lt_of_bound {acc d width : Nat} (digit : d < 10) :
    (10 * acc + d + 1) * 10 ^ width ≤ (acc + 1) * 10 ^ (width + 1) := by
  rw [Nat.pow_succ', ← Nat.mul_assoc]
  exact Nat.mul_le_mul_right _ (by omega)

theorem readFixed_lt {width acc n : Nat} {s rest : List Char} (read : readFixed width acc s = some (n, rest)) :
    n < (acc + 1) * 10 ^ width := by
  fun_induction readFixed width acc s with
  | case1 acc s =>
    obtain ⟨rfl, -⟩ := Prod.mk.inj (Option.some.inj read)
    omega
  | case2 => contradiction
  | case3 acc width c s d digit ih => exact Nat.lt_of_lt_of_le (ih read) (digit_lt_of_bound (digitValue?_lt digit))
  | case4 => contradiction

theorem foldl_lt {ds : List Nat} (digits : ∀ d ∈ ds, d < 10) (acc : Nat) :
    ds.foldl (fun acc d => 10 * acc + d) acc < (acc + 1) * 10 ^ ds.length := by
  induction ds generalizing acc with
  | nil => simp
  | cons d ds ih =>
    obtain ⟨digit, digits⟩ := List.forall_mem_cons.mp digits
    exact Nat.lt_of_lt_of_le (ih digits _) (digit_lt_of_bound digit)

theorem ofDigits_lt {ds : List Nat} (digits : ∀ d ∈ ds, d < 10) : ofDigits ds < 10 ^ ds.length := by
  have bound := foldl_lt digits 0
  rwa [Nat.zero_add, Nat.one_mul] at bound

theorem span_lt (s : List Char) : ∀ d ∈ (span s).1, d < 10 := by
  rw [span_eq]
  intro d listed
  obtain ⟨c, taken, rfl⟩ := List.mem_map.mp listed
  have digit : digitValue? c = some (c.toNat - '0'.toNat) := by
    rw [digitValue?_eq, if_pos (List.mem_takeWhile_imp taken)]
  exact digitValue?_lt digit

theorem values_fixed (width n : Nat) : values (fixed width n) = places width n := by
  have digit {d : Nat} (small : d < 10) : (digitChar d).toNat - '0'.toNat = d := by
    revert d
    decide
  rw [fixed_eq, values, List.map_map]
  exact (List.map_congr_left fun d place => digit (places_lt width n d place)).trans (List.map_id _)

theorem digitChar_eq {d : Nat} (small : d < 10) : d.digitChar = digitChar d := by
  revert d
  decide

theorem digits_small {n : Nat} (small : n < 10) : digits n = [digitChar n] := by
  rw [digits, Nat.toDigits_of_lt_base small, digitChar_eq small]

theorem digits_large {n : Nat} (large : 10 ≤ n) : digits n = digits (n / 10) ++ [digitChar (n % 10)] := by
  rw [digits, Nat.toDigits_of_base_le (by decide) large, digitChar_eq (Nat.mod_lt n (by decide)), digits]

/-- A number other than zero does not begin with one. -/
theorem head_digits {n : Nat} (some_ : 0 < n) : (digits n).head? ≠ some '0' := by
  induction n using Nat.strongRecOn with
  | ind n ih =>
    rcases Nat.lt_or_ge n 10 with small | large
    · have digit : ∀ n < 10, 0 < n → [digitChar n].head? ≠ some '0' := by decide
      rw [digits_small small]
      exact digit n small some_
    · obtain ⟨c, s, same⟩ := List.exists_cons_of_ne_nil (digits_ne_nil (n / 10))
      have front := ih (n / 10) (by omega) (by omega)
      rw [same] at front
      rw [digits_large large, same]
      exact front

/-- The last digits of a number that has more of them. -/
theorem digits_split {width n : Nat} (large : 10 ^ width ≤ n) :
    digits n = digits (n / 10 ^ width) ++ fixed width n := by
  induction width generalizing n with
  | zero => rw [Nat.pow_zero, Nat.div_one, fixed, List.append_nil]
  | succ width ih =>
    rw [Nat.pow_succ] at large
    have more : 10 ^ width ≤ n / 10 := (Nat.le_div_iff_mul_le (by decide)).mpr large
    have tens : 10 ≤ n := Nat.le_trans (Nat.le_mul_of_pos_left 10 (Nat.pow_pos (by decide))) large
    rw [digits_large tens, ih more, Nat.div_div_eq_div_mul, Nat.pow_succ', fixed, List.append_assoc]

theorem fixed_zero (width : Nat) : fixed width 0 = List.replicate width '0' := by
  induction width with
  | zero => rfl
  | succ width ih =>
    rw [fixed, Nat.zero_div, ih, List.replicate_succ']
    rfl

/-- A number that is not too large, filled up with zeros. -/
theorem padded_eq_fixed {width n : Nat} (some : 0 < width) (small : n < 10 ^ width) :
    padded width n = fixed width n := by
  induction width generalizing n with
  | zero => exact absurd some (Nat.lt_irrefl 0)
  | succ width ih =>
    rw [padded, fixed]
    rcases Nat.lt_or_ge n 10 with short | large
    · rw [digits_small short, Nat.div_eq_of_lt short, fixed_zero, Nat.mod_eq_of_lt short]
      rfl
    · have less : n / 10 < 10 ^ width := Nat.div_lt_of_lt_mul (by rwa [Nat.pow_succ'] at small)
      have wide : 0 < width := by
        rcases Nat.eq_zero_or_pos width with rfl | wide
        · omega
        · exact wide
      rw [← ih wide less, padded, digits_large large, List.length_append, List.length_singleton, Nat.add_sub_add_right,
        List.append_assoc]

theorem digits_zeros {n : Nat} (some : 0 < n) (zeros : Nat) :
    digits (n * 10 ^ zeros) = digits n ++ List.replicate zeros '0' := by
  induction zeros with
  | zero => rw [Nat.pow_zero, Nat.mul_one, List.replicate_zero, List.append_nil]
  | succ zeros ih =>
    have large : 10 ≤ n * 10 ^ zeros * 10 := Nat.le_mul_of_pos_left 10 (Nat.mul_pos some (Nat.pow_pos (by decide)))
    rw [Nat.pow_succ, ← Nat.mul_assoc, digits_large large, Nat.mul_div_cancel _ (by decide), Nat.mul_mod_left, ih,
      List.replicate_succ', List.append_assoc]
    rfl

end Numeral

namespace Decimal

theorem toChars_whole {n : Nat} (some : 0 < n) (zeros : Nat) :
    toChars { significand := n, exponent := zeros } = Numeral.digits (n * 10 ^ zeros) := by
  rw [toChars, if_pos (Int.natCast_nonneg zeros), Int.toNat_natCast, Numeral.digits_zeros some]

theorem toChars_broken (n : Nat) {places : Nat} (some : 0 < places) :
    toChars { significand := n, exponent := -places } =
      Numeral.digits (n / 10 ^ places) ++ '.' :: Numeral.fixed places n := by
  have negative : ¬ (0 : Int) ≤ -places := by omega
  rw [toChars, if_neg negative, Int.natAbs_neg, Int.natAbs_natCast]
  dsimp only
  split
  · next long =>
    have large : 10 ^ places ≤ n := by
      by_contra small
      have short := (Nat.length_toDigits_le_iff (by decide) some).mpr (Nat.lt_of_not_le small)
      exact Nat.not_le_of_lt long short
    have length : (Numeral.digits n).length - places = (Numeral.digits (n / 10 ^ places)).length := by
      rw [Numeral.digits_split large, List.length_append, Numeral.length_fixed, Nat.add_sub_cancel]
    rw [length, Numeral.digits_split large, List.take_left, List.drop_left]
  · next short =>
    have small : n < 10 ^ places :=
      (Nat.length_toDigits_le_iff (by decide) some).mp (Nat.le_of_not_lt short)
    rw [Nat.div_eq_of_lt small, ← Numeral.padded_eq_fixed some small]
    rfl

end Decimal
end DeliveryProbe
