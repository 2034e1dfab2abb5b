import DeliveryProbe.Proofs.Calendar
import DeliveryProbe.Proofs.Numerals
import DeliveryProbe.Time.Text

/-! Times as they are written and read back. Each part of a text (a numeral of fixed width, the date, the
time of day with its fraction, the offset) is read back from in front of whatever follows it, and so is the
whole, at any offset and in a leap second too. -/
namespace DeliveryProbe

namespace Instant

/-- A text that goes on with neither a digit nor a point. -/
def Plain (rest : List Char) : Prop := Numeral.span rest = ([], rest) ∧ readFraction rest = some (0, rest)

theorem plain_cons {c : Char} (rest : List Char) (plain : digitValue? c = none) (pointless : c ≠ '.') :
    Plain (c :: rest) := by
  constructor
  · rw [Numeral.span, plain]
  · unfold readFraction
    split
    · next same => exact absurd (List.cons.inj same).1 pointless
    · rfl

theorem readFraction_fixed {width n : Nat} (some_ : 0 < width) (few : width ≤ 9) (small : n < 10 ^ width)
    {rest : List Char} (plain : Plain rest) :
    readFraction ('.' :: (Numeral.fixed width n ++ rest)) = some (n * 10 ^ (9 - width), rest) := by
  have length := Numeral.length_places width n
  have value : Numeral.ofDigits ((Numeral.places width n).take 9) = n := by
    rw [List.take_of_length_le (by omega), Numeral.ofDigits_places, Nat.mod_eq_of_lt small]
  rw [readFraction, Numeral.span_fixed width n plain.1]
  split
  · next same =>
    have none := congrArg (fun p : List Nat × List Char => p.1.length) same
    simp only [length, List.length_nil] at none
    omega
  · next same =>
    obtain ⟨rfl, rfl⟩ := Prod.mk.inj same
    rw [value, length, Nat.pow_eq]

/-- A fraction of a second in the given number of digits. -/
def fractionDigits (digits nano : Nat) : List Char :=
  if digits = 0 then [] else '.' :: Numeral.fixed digits (nano / 10 ^ (9 - digits))

/-- A usual number of digits, and enough to lose nothing of the fraction. -/
structure Suffices (digits nano : Nat) : Prop where
  usual : digits ∈ [0, 3, 6, 9]
  enough : 10 ^ (9 - digits) ∣ nano

theorem readFraction_digits {digits nano : Nat} (suffices_ : Suffices digits nano) (small : nano < nanosPerSecond)
    {rest : List Char} (plain : Plain rest) :
    readFraction (fractionDigits digits nano ++ rest) = some (nano, rest) := by
  obtain ⟨usual, enough⟩ := suffices_
  unfold fractionDigits
  split
  · next none =>
    rw [none] at enough
    obtain rfl : nano = 0 := Nat.eq_zero_of_dvd_of_lt enough small
    exact plain.2
  · next some_ =>
    have few : digits ≤ 9 := by
      simp only [List.mem_cons, List.not_mem_nil, or_false] at usual
      omega
    have fits : nano / 10 ^ (9 - digits) < 10 ^ digits := by
      apply Nat.div_lt_of_lt_mul
      rw [← Nat.pow_add, Nat.sub_add_cancel few]
      exact small
    rw [List.cons_append, readFraction_fixed (Nat.pos_of_ne_zero some_) few fits plain, Nat.div_mul_cancel enough]

theorem fractionText_shortest (nano : Nat) :
    ∃ digits, Suffices digits nano ∧ fractionText .shortest nano = fractionDigits digits nano := by
  unfold fractionText
  dsimp only
  split
  · next none =>
    obtain rfl : nano = 0 := none
    exact ⟨0, ⟨by decide, Nat.dvd_zero _⟩, rfl⟩
  · split
    · next millis => exact ⟨3, ⟨by decide, Nat.dvd_of_mod_eq_zero millis⟩, rfl⟩
    · split
      · next micros => exact ⟨6, ⟨by decide, Nat.dvd_of_mod_eq_zero micros⟩, rfl⟩
      · exact ⟨9, ⟨by decide, Nat.one_dvd _⟩, by rw [fractionDigits, if_neg (by decide), Nat.pow_zero, Nat.div_one]⟩

theorem readFraction_text {nano : Nat} (small : nano < nanosPerSecond) {rest : List Char} (plain : Plain rest) :
    readFraction (fractionText .shortest nano ++ rest) = some (nano, rest) := by
  obtain ⟨digits, suffices_, same⟩ := fractionText_shortest nano
  rw [same, readFraction_digits suffices_ small plain]

theorem month_lt (d : Date) (valid : d.Valid) : d.month < 100 := by
  by_contra large
  have none : Date.daysInMonth d.year d.month = 0 := by
    unfold Date.daysInMonth
    split <;> omega
  have days := Nat.le_trans valid.1 valid.2
  omega

theorem day_lt (d : Date) (valid : d.Valid) : d.day < 100 := by
  have most := Date.daysInMonth_le d.year d.month
  have within := valid.2
  omega

theorem readDate_text {d : Date} (valid : d.Valid) (first : 0 ≤ d.year) (last : d.year ≤ 9999) (rest : List Char) :
    readDate (dateText d ++ rest) = some (d, rest) := by
  have year : (d.year.toNat : Int) = d.year := Int.toNat_of_nonneg first
  have four : d.year.toNat < 10 ^ 4 := by omega
  have month : d.month < 10 ^ 2 := month_lt d valid
  have day : d.day < 10 ^ 2 := day_lt d valid
  simp only [dateText, yearText, first, last, and_self, if_true, readDate, List.append_assoc, List.cons_append,
    Numeral.readFixed_fixed four, Numeral.readFixed_fixed month, Numeral.readFixed_fixed day, year]
  exact if_pos valid

theorem secondOfDay_lt (t : Instant) : t.secondOfDay < 86400 := by
  unfold secondOfDay secondsPerDay
  omega

/-- The nanoseconds that the fraction of a time stands for. -/
def part (t : Instant) : Nat := if t.inLeapSecond then t.nano - nanosPerSecond else t.nano

/-- Hours, minutes and seconds, before a fraction in whatever digits. -/
def clockText (fraction : List Char) (t : Instant) : List Char :=
  Numeral.fixed 2 (t.secondOfDay / 3600) ++ ':' :: Numeral.fixed 2 (t.secondOfDay / 60 % 60) ++
    ':' :: Numeral.fixed 2 (if t.inLeapSecond then t.secondOfDay % 60 + 1 else t.secondOfDay % 60) ++ fraction

theorem part_lt {t : Instant} (bounded : t.nano < 2 * nanosPerSecond) : t.part < nanosPerSecond := by
  unfold part inLeapSecond
  split
  · omega
  · next ordinary => simpa using ordinary

section Clock
variable {t : Instant} {fraction rest : List Char} (reads : readFraction (fraction ++ rest) = some (t.part, rest))
include reads

theorem readTime_leap (leaps : nanosPerSecond ≤ t.nano) (last : t.secondOfDay % 60 = 59) :
    readTime (clockText fraction t ++ rest) = some (t.secondOfDay, t.nano, rest) := by
  have days := t.secondOfDay_lt
  have hour : t.secondOfDay / 3600 < 10 ^ 2 := by omega
  have minute : t.secondOfDay / 60 % 60 < 10 ^ 2 := by omega
  have second : t.secondOfDay % 60 + 1 < 10 ^ 2 := by omega
  have inLeap : t.inLeapSecond = true := decide_eq_true leaps
  have start : 3600 * (t.secondOfDay / 3600) + 60 * (t.secondOfDay / 60 % 60) + 59 = t.secondOfDay := by omega
  have whole : nanosPerSecond + t.part = t.nano := by
    rw [part, if_pos inLeap]
    omega
  simp only [clockText, inLeap, if_true, readTime, List.append_assoc, List.cons_append,
    Numeral.readFixed_fixed hour, Numeral.readFixed_fixed minute, Numeral.readFixed_fixed second, reads]
  rw [if_pos (by omega), if_pos (by omega), start, whole]

theorem readTime_ordinary (ordinary : t.nano < nanosPerSecond) :
    readTime (clockText fraction t ++ rest) = some (t.secondOfDay, t.nano, rest) := by
  have days := t.secondOfDay_lt
  have hour : t.secondOfDay / 3600 < 10 ^ 2 := by omega
  have minute : t.secondOfDay / 60 % 60 < 10 ^ 2 := by omega
  have second : t.secondOfDay % 60 < 10 ^ 2 := by omega
  have start : 3600 * (t.secondOfDay / 3600) + 60 * (t.secondOfDay / 60 % 60) + t.secondOfDay % 60 =
      t.secondOfDay := by omega
  have outside : t.inLeapSecond = false := decide_eq_false (Nat.not_le_of_lt ordinary)
  have whole : t.part = t.nano := by simp only [part, outside, Bool.false_eq_true, if_false]
  simp only [clockText, outside, Bool.false_eq_true, if_false, readTime, List.append_assoc, List.cons_append,
    Numeral.readFixed_fixed hour, Numeral.readFixed_fixed minute, Numeral.readFixed_fixed second, reads]
  rw [if_pos (by omega), if_neg (by omega), start, whole]

theorem readTime_clock (leap : nanosPerSecond ≤ t.nano → t.second % 60 = 59) :
    readTime (clockText fraction t ++ rest) = some (t.secondOfDay, t.nano, rest) := by
  rcases Nat.lt_or_ge t.nano nanosPerSecond with ordinary | leaps
  · exact readTime_ordinary reads ordinary
  · have second := leap leaps
    refine readTime_leap reads leaps ?_
    unfold secondOfDay secondsPerDay
    omega

end Clock

theorem readOffset_signed {sign : Char} (signed : sign = '+' ∨ sign = '-') {hours minutes : Nat} (hour : hours ≤ 23)
    (minute : minutes ≤ 59) :
    readOffset (sign :: (Numeral.fixed 2 hours ++ ':' :: Numeral.fixed 2 minutes)) =
      some (if sign = '+' then ((60 * hours + minutes : Nat) : Int) else -((60 * hours + minutes : Nat) : Int)) := by
  have two : hours < 10 ^ 2 := by omega
  have two' : minutes < 10 ^ 2 := by omega
  have known : sign = '+' ∨ sign = '-' ∨ sign = '−' := signed.imp id .inl
  have ends := Numeral.readFixed_fixed two' []
  rw [List.append_nil] at ends
  unfold readOffset
  split
  · next same => rcases signed with rfl | rfl <;> exact absurd (List.cons.inj same).1 (by decide)
  · next same => rcases signed with rfl | rfl <;> exact absurd (List.cons.inj same).1 (by decide)
  · next same =>
    obtain ⟨rfl, rfl⟩ := List.cons.inj same
    simp only [if_pos known, Numeral.readFixed_fixed two, ends, hour, minute, and_self, if_true]
  · contradiction

theorem readOffset_text {minutes : Int} (day : minutes.natAbs < 1440) :
    readOffset (offsetText minutes) = some minutes := by
  have hour : minutes.natAbs / 60 ≤ 23 := by omega
  have minute : minutes.natAbs % 60 ≤ 59 := by omega
  have parts : 60 * (minutes.natAbs / 60) + minutes.natAbs % 60 = minutes.natAbs := Nat.div_add_mod _ _
  unfold offsetText
  by_cases west : minutes < 0
  · rw [if_pos west, readOffset_signed (.inr rfl) hour minute, if_neg (by decide), parts]
    exact congrArg some (by omega)
  · rw [if_neg west, readOffset_signed (.inl rfl) hour minute, if_pos rfl, parts]
    exact congrArg some (by omega)

theorem plain_offsetText (minutes : Int) : Plain (offsetText minutes) := by
  unfold offsetText
  split
  · exact plain_cons _ rfl (by decide)
  · exact plain_cons _ rfl (by decide)

/-- A time is read back from its parts, whatever the clock it is written by: a date whose year has four
digits, a time of day, a fraction and an offset that are read as what they stand for. -/
theorem readRfc3339_parts {t : Instant} {minutes : Int} {fraction zone : List Char}
    (leap : nanosPerSecond ≤ t.nano → t.second % 60 = 59)
    (reads : readFraction (fraction ++ zone) = some (t.part, zone)) (offset : readOffset zone = some minutes)
    (first : 0 ≤ (t.atOffset minutes).date.year) (last : (t.atOffset minutes).date.year ≤ 9999) :
    readRfc3339 (dateText (t.atOffset minutes).date ++ 'T' :: (clockText fraction (t.atOffset minutes) ++ zone)) =
      some t := by
  have valid : (t.atOffset minutes).date.Valid := Date.valid_ofDayNumber _
  have leap' : nanosPerSecond ≤ (t.atOffset minutes).nano → (t.atOffset minutes).second % 60 = 59 := by
    intro leaps
    have second := leap leaps
    simp only [atOffset]
    omega
  have number : (t.atOffset minutes).date.toDayNumber = (t.atOffset minutes).dayNumber :=
    Date.toDayNumber_ofDayNumber _
  have time := readTime_clock (t := t.atOffset minutes) reads leap'
  simp only [readRfc3339, readDate_text valid first last, time, offset, true_or, if_true, Option.map_some, number]
  have second : (t.atOffset minutes).dayNumber * secondsPerDay + (t.atOffset minutes).secondOfDay - 60 * minutes =
      t.second := by
    simp only [dayNumber, secondOfDay, secondsPerDay, atOffset]
    omega
  rw [second]
  rfl

/-- A time written at any offset is read back as it was, as long as the year there has four digits. -/
theorem readRfc3339_text {t : Instant} {minutes : Int} (bounded : t.nano < 2 * nanosPerSecond)
    (leap : nanosPerSecond ≤ t.nano → t.second % 60 = 59) (day : minutes.natAbs < 1440)
    (first : 0 ≤ (t.atOffset minutes).date.year) (last : (t.atOffset minutes).date.year ≤ 9999) :
    readRfc3339 (rfc3339At minutes t) = some t := by
  have reads := readFraction_text (part_lt bounded) (plain_offsetText minutes)
  have parts := readRfc3339_parts leap reads (readOffset_text day) first last
  rwa [← List.cons_append, ← List.append_assoc] at parts

theorem atOffset_zero (t : Instant) : t.atOffset 0 = t := by
  simp only [atOffset, Int.mul_zero, Int.add_zero]

theorem ofRfc3339?_rfc3339 {t : Instant} (bounded : t.nano < 2 * nanosPerSecond)
    (leap : nanosPerSecond ≤ t.nano → t.second % 60 = 59) (first : 0 ≤ t.date.year) (last : t.date.year ≤ 9999) :
    ofRfc3339? t.rfc3339 = some t := by
  rw [ofRfc3339?, rfc3339, String.toList_ofList]
  apply readRfc3339_text bounded leap (by decide)
  · rwa [atOffset_zero]
  · rwa [atOffset_zero]

end Instant
end DeliveryProbe
