import DeliveryProbe.Event
import DeliveryProbe.Proofs.Calendar
import DeliveryProbe.Proofs.Numerals

/-! The range of the times that are read. Each part of a text is read as a number within its bounds: four digits
of a year, a second of the day, an offset of less than a day. So a receipt time is always an instant that can be
represented, whatever the event holds. -/
namespace DeliveryProbe
namespace Instant
variable {s rest : List Char}

/-- The days of the dates that have a year of four digits. -/
theorem toDayNumber_bounds {d : Date} (valid : d.Valid) (first : 0 ≤ d.year) (last : d.year ≤ 9999) :
    -720000 ≤ d.toDayNumber ∧ d.toDayNumber ≤ 2933000 := by
  have most : d.day ≤ 31 := Nat.le_trans valid.2 (Date.daysInMonth_le d.year d.month)
  unfold Date.toDayNumber Date.epochOffset
  dsimp only
  split <;> omega

theorem readDate_bounds {d : Date} (read : readDate s = some (d, rest)) :
    -720000 ≤ d.toDayNumber ∧ d.toDayNumber ≤ 2933000 := by
  unfold readDate at read
  split at read
  · next year _ years =>
    split at read
    · split at read
      · obtain ⟨valid, same⟩ := Option.ite_none_right_eq_some.mp read
        obtain ⟨rfl, -⟩ := Prod.mk.inj (Option.some.inj same)
        have four := Numeral.readFixed_lt years
        exact toDayNumber_bounds valid (Int.natCast_nonneg year) (by simp only; omega)
      · contradiction
    · contradiction
  · contradiction

theorem readFraction_lt {nano : Nat} (read : readFraction s = some (nano, rest)) : nano < nanosPerSecond := by
  unfold readFraction at read
  split at read
  · next s =>
    split at read
    · contradiction
    · next ds left _ spanned =>
      obtain ⟨rfl, -⟩ := Prod.mk.inj (Option.some.inj read)
      have digits : ∀ d ∈ ds.take 9, d < 10 := fun d taken => by
        refine Numeral.span_lt s d ?_
        rw [spanned]
        exact List.mem_of_mem_take taken
      have places : (ds.take 9).length + (9 - ds.length) = 9 := by
        rw [List.length_take]
        omega
      calc Numeral.ofDigits (ds.take 9) * Nat.pow 10 (9 - ds.length)
          < 10 ^ (ds.take 9).length * 10 ^ (9 - ds.length) :=
            Nat.mul_lt_mul_of_pos_right (Numeral.ofDigits_lt digits) (Nat.pow_pos (by decide))
        _ = nanosPerSecond := by rw [← Nat.pow_add, places]; rfl
  · obtain ⟨rfl, -⟩ := Prod.mk.inj (Option.some.inj read)
    decide

/-- A second of the day, and a leap second only at the end of a minute. -/
theorem readTime_bounds {second nano : Nat} (read : readTime s = some (second, nano, rest)) :
    second < 86400 ∧ nano < 2 * nanosPerSecond ∧ (nanosPerSecond ≤ nano → second % 60 = 59) := by
  unfold readTime at read
  split at read
  · split at read
    · split at read
      · split at read
        · next fraction =>
          have part := readFraction_lt fraction
          obtain ⟨within, read⟩ := Option.ite_none_right_eq_some.mp read
          dsimp only at read
          split at read
          · obtain ⟨rfl, rfl, -⟩ := Prod.mk.inj (Option.some.inj read) |>.imp id Prod.mk.inj
            omega
          · obtain ⟨rfl, rfl, -⟩ := Prod.mk.inj (Option.some.inj read) |>.imp id Prod.mk.inj
            omega
        · contradiction
      · contradiction
    · contradiction
  · contradiction

theorem readOffset_lt {minutes : Int} (read : readOffset s = some minutes) : minutes.natAbs < 1440 := by
  unfold readOffset at read
  split at read
  · obtain rfl := Option.some.inj read
    decide
  · obtain rfl := Option.some.inj read
    decide
  · split at read
    · split at read
      · split at read
        · obtain ⟨within, same⟩ := Option.ite_none_right_eq_some.mp read
          obtain rfl := Option.some.inj same
          split <;> omega
        · contradiction
      · contradiction
    · contradiction
  · contradiction

theorem representable_readRfc3339 {t : Instant} (read : readRfc3339 s = some t) : t.Representable := by
  unfold readRfc3339 at read
  split at read
  · next date =>
    split at read
    · split at read
      · next time =>
        obtain ⟨minutes, offset, rfl⟩ := Option.map_eq_some_iff.mp read
        have days := readDate_bounds date
        have clock := readTime_bounds time
        have shift := readOffset_lt offset
        unfold Representable firstSecond lastSecond secondsPerDay
        dsimp only
        omega
      · contradiction
    · contradiction
  · contradiction

theorem representable_receipt {e : Event} {t : Instant} (received : e.receipt? = some t) : t.Representable := by
  obtain ⟨text, -, read⟩ := Option.bind_eq_some_iff.mp received
  exact representable_readRfc3339 read

end Instant
end DeliveryProbe
