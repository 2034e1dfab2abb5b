import DeliveryProbe.Proofs.Timestamp
import DeliveryProbe.Proofs.Verdict

/-! Receipt times in all the forms that log pipelines give them. An instant may be written by the clock of any
zone and with any of the usual numbers of fraction digits; it is read as the same instant to the nanosecond,
leap seconds included, and passes over events that differ in the form only have the same result. -/
namespace DeliveryProbe

/-- The zone at the end of a written time, less than a day ahead of universal time or behind it. -/
inductive Zone where
  | universal
  | ahead (minutes : Fin 1440)
  | behind (minutes : Fin 1440)
  deriving DecidableEq

namespace Zone

def minutes : Zone → Int
  | universal => 0
  | ahead minutes => minutes.val
  | behind minutes => -minutes.val

def text : Zone → List Char
  | universal => ['Z']
  | ahead minutes => '+' :: (Numeral.fixed 2 (minutes.val / 60) ++ ':' :: Numeral.fixed 2 (minutes.val % 60))
  | behind minutes => '-' :: (Numeral.fixed 2 (minutes.val / 60) ++ ':' :: Numeral.fixed 2 (minutes.val % 60))

theorem readOffset_text (zone : Zone) : Instant.readOffset zone.text = some zone.minutes := by
  have hour (minutes : Fin 1440) : minutes.val / 60 ≤ 23 := by omega
  have minute (minutes : Fin 1440) : minutes.val % 60 ≤ 59 := by omega
  have parts (minutes : Fin 1440) : 60 * (minutes.val / 60) + minutes.val % 60 = minutes.val := Nat.div_add_mod _ _
  cases zone with
  | universal => rfl
  | ahead minutes =>
    rw [text, Instant.readOffset_signed (.inl rfl) (hour minutes) (minute minutes), parts]
    rfl
  | behind minutes =>
    rw [text, Instant.readOffset_signed (.inr rfl) (hour minutes) (minute minutes), parts]
    rfl

theorem plain_text (zone : Zone) : Instant.Plain zone.text := by
  cases zone with
  | universal => exact Instant.plain_cons _ rfl (by decide)
  | ahead minutes => exact Instant.plain_cons _ rfl (by decide)
  | behind minutes => exact Instant.plain_cons _ rfl (by decide)

end Zone

namespace Instant

/-- A form of an instant: the zone whose clock shows it, in a year of four digits there, and a number of
fraction digits that loses nothing of it. -/
structure Form (t : Instant) where
  zone : Zone
  digits : Nat
  lossless : Suffices digits t.part
  first : 0 ≤ (t.atOffset zone.minutes).date.year
  last : (t.atOffset zone.minutes).date.year ≤ 9999

namespace Form
variable {t : Instant}

/-- `YYYY-MM-DDTHH:MM:SS`, the fraction if there is one, and the zone. -/
def text (form : Form t) : String :=
  let shown := t.atOffset form.zone.minutes
  String.ofList
    (Numeral.fixed 4 shown.date.year.toNat ++ '-' :: Numeral.fixed 2 shown.date.month ++
      '-' :: Numeral.fixed 2 shown.date.day ++
        'T' :: (clockText (fractionDigits form.digits t.part) shown ++ form.zone.text))

theorem ofRfc3339?_text (representable : t.Representable) (form : Form t) : ofRfc3339? form.text = some t := by
  obtain ⟨-, -, bounded, leap⟩ := representable
  have reads := readFraction_digits form.lossless (part_lt bounded) form.zone.plain_text
  have year : yearText (t.atOffset form.zone.minutes).date.year =
      Numeral.fixed 4 (t.atOffset form.zone.minutes).date.year.toNat := if_pos ⟨form.first, form.last⟩
  rw [ofRfc3339?, text, String.toList_ofList, ← year]
  exact readRfc3339_parts leap reads form.zone.readOffset_text form.first form.last

end Form

theorem readRfc3339_signed {t : Instant} {minutes : Int}
    (outside : ¬ (0 ≤ (t.atOffset minutes).date.year ∧ (t.atOffset minutes).date.year ≤ 9999)) :
    readRfc3339 (rfc3339At minutes t) = none := by
  unfold rfc3339At localText dateText yearText
  dsimp only
  rw [if_neg outside]
  split
  · rfl
  · rfl

theorem ofRfc3339?_rfc3339_eq {t : Instant} (representable : t.Representable) :
    ofRfc3339? t.rfc3339 = if 0 ≤ t.date.year ∧ t.date.year ≤ 9999 then some t else none := by
  obtain ⟨-, -, bounded, leap⟩ := representable
  split
  · next within => exact ofRfc3339?_rfc3339 bounded leap within.1 within.2
  · next outside =>
    rw [ofRfc3339?, rfc3339, String.toList_ofList]
    apply readRfc3339_signed
    rwa [atOffset_zero]

end Instant

namespace Event

/-- Two events that differ at most in the form of one instant of receipt. -/
structure Respelt (e e' : Event) : Prop where
  message : e.message = e'.message
  received : e.receivedAt = e'.receivedAt ∨
    ∃ t : Instant, t.Representable ∧ ∃ form form' : t.Form, e.receivedAt = some form.text ∧
      e'.receivedAt = some form'.text

theorem receipt?_form {e : Event} {t : Instant} (representable : t.Representable) (form : t.Form)
    (text : e.receivedAt = some form.text) : e.receipt? = some t := by
  rw [receipt?, text, Option.bind_some, form.ofRfc3339?_text representable]

theorem Respelt.receipt?_eq {e e' : Event} (respelt : e.Respelt e') : e.receipt? = e'.receipt? := by
  rcases respelt.received with same | ⟨t, representable, form, form', text, text'⟩
  · rw [receipt?, receipt?, same]
  · rw [receipt?_form representable form text, receipt?_form representable form' text']

end Event

theorem firstReceipt?_respelt {events events' : List Event} (respelt : List.Forall₂ Event.Respelt events events')
    (text : String) : firstReceipt? events text = firstReceipt? events' text := by
  induction respelt with
  | nil => rfl
  | cons first rest ih =>
    unfold firstReceipt? at ih ⊢
    rw [List.findSome?_cons, List.findSome?_cons, ih, Event.mentions, Event.mentions, first.message,
      first.receipt?_eq]

/-- A time of receipt that the program writes itself is read as it was exactly if its year has four digits,
and one that a log pipeline writes is, whatever its form. No pass can tell one form from another. -/
theorem receipts_survive_writing :
    (∀ (message : String) (t : Instant), t.Representable →
      (Event.received message t).receipt? = if 0 ≤ t.date.year ∧ t.date.year ≤ 9999 then some t else none) ∧
    (∀ (message : String) (t : Instant), t.Representable → ∀ form : t.Form,
      ({ message, receivedAt := some form.text } : Event).receipt? = some t) ∧
    ∀ (pending : List Marker) (events events' : List Event) (now : Instant) (limits : Thresholds),
      List.Forall₂ Event.Respelt events events' →
        reconcile pending events now limits = reconcile pending events' now limits := by
  refine ⟨?_, ?_, ?_⟩
  · intro message t representable
    rw [Event.receipt?_received, Instant.ofRfc3339?_rfc3339_eq representable]
  · intro message t representable form
    exact Event.receipt?_form representable form rfl
  · intro pending events events' now limits respelt
    exact reconcile_congr (firstReceipt?_respelt respelt) pending now limits

/-- The middle of the leap second that ended the year 2016, by the clocks of Greenwich, of India, where it was
morning, and of the Marquesas, where it was not yet evening. -/
theorem leap_second_by_three_clocks :
    let leap : Instant := { second := 1483228799, nano := 1500000000 }
    let line (receivedAt : String) : Event := { message := "id 7", receivedAt := some receivedAt }
    let marker : Marker := .ofApp "7" { second := 1483228799, nano := 0 }
    let now : Instant := { second := 1483228801, nano := 0 }
    let limits : Thresholds := { searchTimeout := 3600, timeToFailure := 60 }
    leap.Representable ∧ (line "2017-01-01T05:29:60.500000000+05:30").receipt? = some leap ∧
      (Event.received "id 7" leap).receipt? = some leap ∧
      List.Forall₂ Event.Respelt [line "2016-12-31T23:59:60.500Z"] [line "2016-12-31T14:29:60.500000-09:30"] ∧
      reconcile [marker] [line "2016-12-31T23:59:60.500Z"] now limits =
        reconcile [marker] [line "2016-12-31T14:29:60.500000-09:30"] now limits := by
  intro leap line marker now limits
  have representable : leap.Representable := by decide
  let greenwich : leap.Form :=
    { zone := .universal, digits := 3, lossless := ⟨by decide, by decide⟩, first := by decide, last := by decide }
  let india : leap.Form :=
    { zone := .ahead 330, digits := 9, lossless := ⟨by decide, by decide⟩, first := by decide, last := by decide }
  let marquesas : leap.Form :=
    { zone := .behind 570, digits := 6, lossless := ⟨by decide, by decide⟩, first := by decide, last := by decide }
  have midnight : greenwich.text = "2016-12-31T23:59:60.500Z" := by decide +kernel
  have morning : india.text = "2017-01-01T05:29:60.500000000+05:30" := by decide +kernel
  have afternoon : marquesas.text = "2016-12-31T14:29:60.500000-09:30" := by decide +kernel
  have respelt : Event.Respelt (line "2016-12-31T23:59:60.500Z") (line "2016-12-31T14:29:60.500000-09:30") :=
    ⟨rfl, .inr ⟨leap, representable, greenwich, marquesas, by rw [midnight], by rw [afternoon]⟩⟩
  obtain ⟨written, read, passes⟩ := receipts_survive_writing
  refine ⟨representable, ?_, ?_, .cons respelt .nil, passes _ _ _ now limits (.cons respelt .nil)⟩
  · rw [← morning]
    exact read "id 7" leap representable india
  · rw [written "id 7" leap representable]
    exact if_pos (by decide)

end DeliveryProbe
