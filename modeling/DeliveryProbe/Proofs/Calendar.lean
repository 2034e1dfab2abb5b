import DeliveryProbe.Time.Date
import Mathlib.Tactic.IntervalCases

/-! The calendar in both directions. A day number is taken apart into a cycle of four hundred years, a
century, four years, a year and a day, all beginning in March; put together again it is the same, and the
date is one of the calendar. Later days are not in earlier years. -/
namespace DeliveryProbe.Date

theorem daysInMonth_le (year : Int) (month : Nat) : daysInMonth year month ≤ 31 := by
  unfold daysInMonth
  split <;> try decide
  split <;> decide

/-- The days from 0000-03-01 to the first of March of a year. -/
def daysBefore (marchYear : Int) : Int := 365 * marchYear + marchYear / 4 - marchYear / 100 + marchYear / 400

/-- The days from the first of March to the first of a month, March being number zero. -/
def monthStart (marchMonth : Nat) : Nat := (153 * marchMonth + 2) / 5

def ofMarch (marchYear : Int) (marchMonth day : Nat) : Date :=
  { year := if marchMonth < 10 then marchYear else marchYear + 1
    month := if marchMonth < 10 then marchMonth + 3 else marchMonth - 9
    day }

/-- A day number taken apart. A year has its 366th day only if it ends with a leap day: it is the last of
four, and if it is the last of a century this is the last of a cycle. -/
structure Parts (n cycle : Int) (century quad yearOfQuad dayOfYear : Nat) : Prop where
  whole : n + epochOffset = 146097 * cycle + 36524 * century + 1461 * quad + 365 * yearOfQuad + dayOfYear
  century_le : century ≤ 3
  quad_le : quad ≤ 24
  yearOfQuad_le : yearOfQuad ≤ 3
  dayOfYear_le : dayOfYear ≤ 365
  leap : dayOfYear = 365 → yearOfQuad = 3 ∧ (quad = 24 → century = 3)

theorem ofDayNumber_parts (n : Int) :
    ∃ cycle century quad yearOfQuad dayOfYear, Parts n cycle century quad yearOfQuad dayOfYear ∧
      let marchMonth := (5 * dayOfYear + 2) / 153
      ofDayNumber n =
        ofMarch (400 * cycle + 100 * century + 4 * quad + yearOfQuad) marchMonth
          (dayOfYear - monthStart marchMonth + 1) := by
  refine ⟨_, _, _, _, _, ?_, rfl⟩
  constructor <;> omega

/-- A date by its year that begins in March, and what its day number and its month say of it. -/
structure March (n marchYear : Int) (marchMonth day : Nat) : Prop where
  whole : n + epochOffset = daysBefore marchYear + monthStart marchMonth + day - 1
  month : marchMonth ≤ 11
  first : 1 ≤ day
  last : marchMonth < 11 → monthStart marchMonth + day ≤ monthStart (marchMonth + 1)
  february : marchMonth = 11 → day ≤ 28 ∨ day = 29 ∧ isLeapYear (marchYear + 1) = true

theorem Parts.march {n cycle : Int} {century quad yearOfQuad dayOfYear : Nat}
    (parts : Parts n cycle century quad yearOfQuad dayOfYear) :
    March n (400 * cycle + 100 * century + 4 * quad + yearOfQuad) ((5 * dayOfYear + 2) / 153)
      (dayOfYear - monthStart ((5 * dayOfYear + 2) / 153) + 1) := by
  obtain ⟨whole, centuries, quads, years, days, leap⟩ := parts
  have begun : monthStart ((5 * dayOfYear + 2) / 153) ≤ dayOfYear := by
    unfold monthStart
    omega
  constructor
  case whole =>
    have years : daysBefore (400 * cycle + 100 * century + 4 * quad + yearOfQuad) =
        146097 * cycle + 36524 * century + 1461 * quad + 365 * yearOfQuad := by
      unfold daysBefore
      omega
    omega
  case month => omega
  case first => omega
  case last =>
    unfold monthStart at begun ⊢
    omega
  case february =>
    intro february
    have late : monthStart ((5 * dayOfYear + 2) / 153) = 337 := by
      rw [february]
      rfl
    rw [late]
    by_cases last : dayOfYear = 365
    · obtain ⟨fourth, century⟩ := leap last
      refine .inr ⟨by omega, ?_⟩
      simp only [isLeapYear, Bool.and_eq_true, Bool.or_eq_true, decide_eq_true_iff]
      omega
    · exact .inl (by omega)

theorem ofDayNumber_march (n : Int) :
    ∃ marchYear marchMonth day, March n marchYear marchMonth day ∧
      ofDayNumber n = ofMarch marchYear marchMonth day := by
  obtain ⟨cycle, century, quad, yearOfQuad, dayOfYear, parts, same⟩ := ofDayNumber_parts n
  exact ⟨_, _, _, parts.march, same⟩

section March
variable {n marchYear : Int} {marchMonth day : Nat}

theorem March.toDayNumber_eq (march : March n marchYear marchMonth day) :
    toDayNumber (ofMarch marchYear marchMonth day) = n := by
  obtain ⟨whole, months, first, -, -⟩ := march
  unfold daysBefore monthStart at whole
  by_cases early : marchMonth < 10
  · have later : ¬ marchMonth + 3 ≤ 2 := by omega
    have same : (marchMonth + 3 + 9) % 12 = marchMonth := by omega
    simp only [toDayNumber, ofMarch, if_pos early, if_neg later, same]
    omega
  · have winter : marchMonth - 9 ≤ 2 := by omega
    have same : (marchMonth - 9 + 9) % 12 = marchMonth := by omega
    simp only [toDayNumber, ofMarch, if_neg early, if_pos winter, same]
    omega

theorem March.valid (march : March n marchYear marchMonth day) : (ofMarch marchYear marchMonth day).Valid := by
  obtain ⟨-, months, first, last, february⟩ := march
  refine ⟨first, ?_⟩
  by_cases winter : marchMonth = 11
  · obtain rfl := winter
    have two : 11 - 9 = 2 := rfl
    simp only [ofMarch, Nat.reduceLT, if_false, two, daysInMonth]
    rcases february rfl with short | ⟨rfl, leap⟩
    · split <;> omega
    · rw [if_pos leap]
  · interval_cases marchMonth <;> simp [ofMarch, daysInMonth, monthStart] at last ⊢ <;> omega

theorem March.year_bounds (march : March n marchYear marchMonth day) :
    daysBefore ((ofMarch marchYear marchMonth day).year - 1) + 306 ≤ n + epochOffset ∧
      n + epochOffset < daysBefore (ofMarch marchYear marchMonth day).year + 306 := by
  obtain ⟨whole, months, first, last, february⟩ := march
  unfold daysBefore monthStart at *
  simp only [ofMarch]
  split <;> omega

end March

theorem toDayNumber_ofDayNumber (n : Int) : toDayNumber (ofDayNumber n) = n := by
  obtain ⟨marchYear, marchMonth, day, march, same⟩ := ofDayNumber_march n
  rw [same]
  exact march.toDayNumber_eq

theorem valid_ofDayNumber (n : Int) : (ofDayNumber n).Valid := by
  obtain ⟨marchYear, marchMonth, day, march, same⟩ := ofDayNumber_march n
  rw [same]
  exact march.valid

theorem daysBefore_mono {y z : Int} (order : y ≤ z) : daysBefore y ≤ daysBefore z := by
  unfold daysBefore
  omega

/-- The year of a day, between its own first of January and the next. -/
theorem year_bounds (n : Int) :
    daysBefore ((ofDayNumber n).year - 1) + 306 ≤ n + epochOffset ∧
      n + epochOffset < daysBefore (ofDayNumber n).year + 306 := by
  obtain ⟨_, _, _, march, same⟩ := ofDayNumber_march n
  rw [same]
  exact march.year_bounds

theorem year_mono {a b : Int} (order : a ≤ b) : (ofDayNumber a).year ≤ (ofDayNumber b).year := by
  have low := (year_bounds a).1
  have high := (year_bounds b).2
  by_contra later
  have years : daysBefore (ofDayNumber b).year ≤ daysBefore ((ofDayNumber a).year - 1) :=
    daysBefore_mono (by omega)
  omega

end DeliveryProbe.Date
