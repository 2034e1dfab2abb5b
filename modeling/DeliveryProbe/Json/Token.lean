import DeliveryProbe.Json.Value
import DeliveryProbe.Number.Digits

/-! The tokens of RFC 8259: brackets, separators, and the values that hold no others.

Blanks are the four of the grammar. In a string the control characters must be escaped and
surrogates must come in pairs; a number has no superfluous zero in front, and at least one digit
wherever digits may stand. -/
namespace DeliveryProbe
namespace Json

inductive Token where
  | openObject
  | closeObject
  | openArray
  | closeArray
  | colon
  | comma
  | scalar (value : Json)
  deriving Repr

def codeUnit? (a b c d : Char) : Option Nat :=
  match digitValueIn? 16 a, digitValueIn? 16 b, digitValueIn? 16 c, digitValueIn? 16 d with
  | some a, some b, some c, some d => some (((a * 16 + b) * 16 + c) * 16 + d)
  | _, _, _, _ => none

def escaped? : Char → Option Char
  | '"' => some '"'
  | '\\' => some '\\'
  | '/' => some '/'
  | 'b' => some '\x08'
  | 'f' => some '\x0c'
  | 'n' => some '\n'
  | 'r' => some '\x0d'
  | 't' => some '\t'
  | _ => none

def isHighSurrogate (u : Nat) : Bool := 0xD800 ≤ u && u < 0xDC00
def isLowSurrogate (u : Nat) : Bool := 0xDC00 ≤ u && u < 0xE000

def readText : List Char → Option (List Char × List Char)
  | [] => none
  | '"' :: s => some ([], s)
  | '\\' :: 'u' :: a :: b :: c :: d :: s =>
    match codeUnit? a b c d with
    | none => none
    | some u =>
      if isHighSurrogate u then
        match s with
        | '\\' :: 'u' :: e :: f :: g :: h :: s =>
          match codeUnit? e f g h with
          | some v =>
            if isLowSurrogate v then
              let c := Char.ofNat (0x10000 + (u - 0xD800) * 0x400 + (v - 0xDC00))
              (readText s).map fun (text, rest) => (c :: text, rest)
            else none
          | none => none
        | _ => none
      else if isLowSurrogate u then none
      else (readText s).map fun (text, rest) => (Char.ofNat u :: text, rest)
  | '\\' :: e :: s =>
    match escaped? e with
    | some c => (readText s).map fun (text, rest) => (c :: text, rest)
    | none => none
  | c :: s =>
    if c < ' ' then none else (readText s).map fun (text, rest) => (c :: text, rest)

/-- The greatest significand that is kept: one more digit would not fit 64 bits. -/
def maxSignificand : Nat := UInt64.size - 1

/-- Takes up the digits of a whole part. From the first digit that does not fit, digits only count
towards the exponent. -/
def takeWhole : Nat → List Nat → Nat × Nat
  | significand, [] => (significand, 0)
  | significand, d :: ds =>
    if maxSignificand < 10 * significand + d then (significand, (d :: ds).length)
    else takeWhole (10 * significand + d) ds

/-- Takes up the digits of a fraction, each lowering the exponent, until one does not fit. -/
def takeFraction : Nat → List Nat → Nat × Nat
  | significand, [] => (significand, 0)
  | significand, d :: ds =>
    if maxSignificand < 10 * significand + d then (significand, 0)
    else
      let (significand, places) := takeFraction (10 * significand + d) ds
      (significand, places + 1)

def readExponent : List Char → Option (Int × List Char)
  | e :: s =>
    if e = 'e' ∨ e = 'E' then
      let (negative, s) :=
        match s with
        | '+' :: s => (false, s)
        | '-' :: s => (true, s)
        | s => (false, s)
      match Numeral.span s with
      | ([], _) => none
      | (ds, rest) =>
        let n : Int := Numeral.ofDigits ds
        some (if negative then -n else n, rest)
    else some (0, e :: s)
  | [] => some (0, [])

def readPlaces : List Char → Option (List Nat × List Char)
  | '.' :: s =>
    match Numeral.span s with
    | ([], _) => none
    | (ds, rest) => some (ds, rest)
  | s => some ([], s)

def readMagnitude (negative : Bool) (s : List Char) : Option (Number × List Char) :=
  match Numeral.span s with
  | ([], _) => none
  | (0 :: _ :: _, _) => none
  | (whole, rest) =>
    match readPlaces rest with
    | none => none
    | some (fraction, rest) =>
      match readExponent rest with
      | none => none
      | some (exponent, rest) =>
        let (significand, dropped) := takeWhole 0 whole
        let (significand, places) := takeFraction significand fraction
        let n : Number := { negative, significand, exponent := dropped - places + exponent }
        if n.inRange then some (n, rest) else none

def isSpace (c : Char) : Bool := c = ' ' || c = '\n' || c = '\t' || c = '\x0d'

def readToken : List Char → Option (Token × List Char)
  | '\x7b' :: s => some (.openObject, s)
  | '\x7d' :: s => some (.closeObject, s)
  | '[' :: s => some (.openArray, s)
  | ']' :: s => some (.closeArray, s)
  | ':' :: s => some (.colon, s)
  | ',' :: s => some (.comma, s)
  | 'n' :: 'u' :: 'l' :: 'l' :: s => some (.scalar .null, s)
  | 't' :: 'r' :: 'u' :: 'e' :: s => some (.scalar (.bool true), s)
  | 'f' :: 'a' :: 'l' :: 's' :: 'e' :: s => some (.scalar (.bool false), s)
  | '"' :: s => (readText s).map fun (text, rest) => (.scalar (.string (String.ofList text)), rest)
  | '-' :: s => (readMagnitude true s).map fun (n, rest) => (.scalar (.number n), rest)
  | s => (readMagnitude false s).map fun (n, rest) => (.scalar (.number n), rest)

def tokensWith : Nat → List Char → Option (List Token)
  | _, [] => some []
  | 0, _ :: _ => none
  | fuel + 1, c :: s =>
    if isSpace c then tokensWith fuel s
    else
      match readToken (c :: s) with
      | some (token, rest) => (tokensWith fuel rest).map (token :: ·)
      | none => none

/-- The tokens of a text. Every token takes at least one character, so its length bounds them. -/
def tokens? (s : List Char) : Option (List Token) := tokensWith s.length s

end Json
end DeliveryProbe
