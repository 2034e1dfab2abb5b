import DeliveryProbe.Time.Instant
import DeliveryProbe.Number.Digits

/-! The RFC 3339 text of an instant, written at any whole-minute offset and read back, and the
forms with a blank in the place of the `T` that log lines carry. -/
namespace DeliveryProbe
namespace Instant

inductive Fraction where
  /-- None, three, six or nine: the fewest that lose nothing. -/
  | shortest
  | millis
  deriving DecidableEq, Repr

/-- Years from 0 to 9999 have four digits, all others a sign and at least four. -/
def yearText (year : Int) : List Char :=
  if 0 ≤ year ∧ year ≤ 9999 then Numeral.fixed 4 year.toNat
  else (if year < 0 then '-' else '+') :: Numeral.padded 4 year.natAbs

def dateText (d : Date) : List Char :=
  yearText d.year ++ '-' :: Numeral.fixed 2 d.month ++ '-' :: Numeral.fixed 2 d.day

def fractionText : Fraction → Nat → List Char
  | .shortest, nano =>
    if nano = 0 then []
    else if nano % 1000000 = 0 then '.' :: Numeral.fixed 3 (nano / 1000000)
    else if nano % 1000 = 0 then '.' :: Numeral.fixed 6 (nano / 1000)
    else '.' :: Numeral.fixed 9 nano
  | .millis, nano => '.' :: Numeral.fixed 3 (nano / 1000000)

/-- Hours, minutes, seconds and fraction; a leap second is written as the sixtieth. -/
def timeText (fraction : Fraction) (t : Instant) : List Char :=
  let s := t.secondOfDay
  let second := if t.inLeapSecond then s % 60 + 1 else s % 60
  let nano := if t.inLeapSecond then t.nano - nanosPerSecond else t.nano
  Numeral.fixed 2 (s / 3600) ++ ':' :: Numeral.fixed 2 (s / 60 % 60) ++
    ':' :: Numeral.fixed 2 second ++ fractionText fraction nano

def offsetText (minutes : Int) : List Char :=
  (if minutes < 0 then '-' else '+') ::
    (Numeral.fixed 2 (minutes.natAbs / 60) ++ ':' :: Numeral.fixed 2 (minutes.natAbs % 60))

/-- The same wall clock as `t` shows `minutes` east of Greenwich. -/
def atOffset (t : Instant) (minutes : Int) : Instant :=
  { t with second := t.second + 60 * minutes }

def localText (separator : Char) (fraction : Fraction) (minutes : Int) (t : Instant) : List Char :=
  let shown := t.atOffset minutes
  dateText shown.date ++ separator :: timeText fraction shown

def rfc3339At (minutes : Int) (t : Instant) : List Char :=
  localText 'T' .shortest minutes t ++ offsetText minutes

def rfc3339 (t : Instant) : String := String.ofList (rfc3339At 0 t)

def rfc3339Millis (t : Instant) : String := String.ofList (localText 'T' .millis 0 t ++ ['Z'])

def display (t : Instant) : String := String.ofList (localText ' ' .shortest 0 t ++ " UTC".toList)

/-- Reads `+HH:MM`, `-HH:MM` (the minus sign may be the mathematical one) or `Z`, at the end of
the text. The value is in minutes, strictly within a day either way. -/
def readOffset : List Char → Option Int
  | ['Z'] | ['z'] => some 0
  | sign :: s =>
    if sign = '+' ∨ sign = '-' ∨ sign = '−' then
      match Numeral.readFixed 2 0 s with
      | some (hours, ':' :: s) =>
        match Numeral.readFixed 2 0 s with
        | some (minutes, []) =>
          if hours ≤ 23 ∧ minutes ≤ 59 then
            some (if sign = '+' then (60 * hours + minutes : Nat) else -((60 * hours + minutes : Nat) : Int))
          else none
        | _ => none
      | _ => none
    else none
  | [] => none

def readFraction : List Char → Option (Nat × List Char)
  | '.' :: s =>
    match Numeral.span s with
    | ([], _) => none
    | (ds, rest) => some (Numeral.ofDigits (ds.take 9) * Nat.pow 10 (9 - ds.length), rest)
  | s => some (0, s)

def readDate (s : List Char) : Option (Date × List Char) :=
  match Numeral.readFixed 4 0 s with
  | some (year, '-' :: s) =>
    match Numeral.readFixed 2 0 s with
    | some (month, '-' :: s) =>
      match Numeral.readFixed 2 0 s with
      | some (day, s) =>
        let date : Date := { year := (year : Int), month, day }
        if date.Valid then some (date, s) else none
      | none => none
    | _ => none
  | _ => none

/-- Reads `HH:MM:SS` with its fraction as a second of the day and nanoseconds. The sixtieth second
of any minute is a leap second. -/
def readTime (s : List Char) : Option (Nat × Nat × List Char) :=
  match Numeral.readFixed 2 0 s with
  | some (hour, ':' :: s) =>
    match Numeral.readFixed 2 0 s with
    | some (minute, ':' :: s) =>
      match Numeral.readFixed 2 0 s with
      | some (second, s) =>
        match readFraction s with
        | some (nano, s) =>
          if hour ≤ 23 ∧ minute ≤ 59 ∧ second ≤ 60 then
            let start := 3600 * hour + 60 * minute
            if second = 60 then some (start + 59, nanosPerSecond + nano, s)
            else some (start + second, nano, s)
          else none
        | none => none
      | none => none
    | _ => none
  | _ => none

/-- Reads an RFC 3339 text. Between date and time stands a `T`, a `t` or a blank. -/
def readRfc3339 (s : List Char) : Option Instant :=
  match readDate s with
  | some (date, separator :: s) =>
    if separator = 'T' ∨ separator = 't' ∨ separator = ' ' then
      match readTime s with
      | some (secondOfDay, nano, s) =>
        (readOffset s).map fun minutes =>
          { second := date.toDayNumber * secondsPerDay + secondOfDay - 60 * minutes, nano }
      | none => none
    else none
  | _ => none

def ofRfc3339? (text : String) : Option Instant := readRfc3339 text.toList

end Instant
end DeliveryProbe
