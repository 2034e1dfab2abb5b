import DeliveryProbe.Number.Shortest
import DeliveryProbe.Toml.Attempt

/-! The simple values of TOML: strings of all four kinds, numbers, truth values, dates and times. -/
namespace DeliveryProbe
namespace Toml

/-- What a value is, as far as it matters for saying that it is of the wrong kind. -/
inductive Shape where
  | string (value : String)
  | integer (value : Int)
  | float (value : Binary64)
  | boolean (value : Bool)
  | dateTime
  | array
  | inlineTable
  | table
  /-- The tables of one name, each under a header of its own. -/
  | tables
  deriving DecidableEq

namespace Scan

/-! Strings. -/

def isUnescaped (c : Char) : Bool := isPlain c && c ≠ '"' && c ≠ '\\'

def isLiteral (c : Char) : Bool := isPlain c && c ≠ '\''

/-- The character with a code of so many digits. -/
def codePoint (digits : Nat) : Scan Char :=
  reading ("unicode " ++ toString digits ++ "-digit hex code") <| committed do
    let start ← here
    let code := (start.take digits).takeWhile fun c => (digitValueIn? 16 c).isSome
    if code.length < digits then stop
    else
      let n := code.foldl (fun n c => 16 * n + (digitValueIn? 16 c).getD 0) 0
      if n.isValidChar then fun s => .done (Char.ofNat n) (s.drop digits) else refuse start "value is out of range"

def escapeCode : Scan Char := fun s =>
  match s with
  | 'b' :: s => .done '\x08' s
  | 'f' :: s => .done '\x0c' s
  | 'n' :: s => .done '\n' s
  | 'r' :: s => .done '\x0d' s
  | 't' :: s => .done '\t' s
  | '\\' :: s => .done '\\' s
  | '"' :: s => .done '"' s
  | 'u' :: s => codePoint 4 s
  | 'U' :: s => codePoint 8 s
  | c :: rest =>
    .broken
      { left := if c ≤ '\x7f' then rest.length else s.length
        subject := some "escape sequence"
        expected := ["`b`", "`f`", "`n`", "`r`", "`t`", "`u`", "`U`", "`\\`", "`\"`"] }
  | [] => stop s

def escape : Scan Char := do
  let _ ← char (· = '\\')
  escapeCode

def basicString : Scan String := do
  let _ ← char (· = '"')
  let text ← many (orElse (char isUnescaped) escape)
  let _ ← reading "basic string" (committed (char (· = '"')))
  pure (String.ofList text)

def literalString : Scan String :=
  reading "literal string" do
    let _ ← char (· = '\'')
    let text ← run isLiteral
    let _ ← committed (char (· = '\''))
    pure (String.ofList text)

/-- A backslash at the end of a line, with the blanks up to the next character that is none. -/
def lineJoin : Scan Unit := do
  let _ ← char (· = '\\')
  space
  newline
  let _ ← many (orElse newline do let _ ← char isSpace)

def basicPiece : Scan (List Char) :=
  orElse (List.singleton <$> char isUnescaped) <| orElse ((fun _ => []) <$> lineJoin) <|
    orElse (List.singleton <$> escape) ((fun _ => ['\n']) <$> newline)

def literalPiece : Scan (List Char) :=
  orElse (List.singleton <$> char isLiteral) ((fun _ => ['\n']) <$> newline)

/-- One or two quotes in front of something that goes on the string. -/
def innerQuotes (quote : Char) (piece : Scan (List Char)) : Scan (List Char) := do
  let start ← here
  let quotes := start.takeWhile (· = quote)
  if quotes = [] ∨ 2 < quotes.length then stop
  else do
    let _ ← run (· = quote)
    let _ ← ahead piece
    pure quotes

/-- The quotes at the end of a string, up to two of which still belong to it. -/
def closingRun (quote : Char) : Scan (List Char) := do
  let start ← here
  let count := (start.takeWhile (· = quote)).length
  if count < 3 then stop
  else fun s => .done (List.replicate (min count 5 - 3) quote) (s.drop (min count 5))

/-- A string between three quotes on either side. -/
def multilineString (subject : String) (quote : Char) (piece : Scan (List Char)) : Scan String :=
  reading subject do
    word (String.ofList [quote, quote, quote])
    let _ ← maybe newline
    let text ← many (orElse piece (innerQuotes quote piece))
    let last ← committed (closingRun quote)
    pure (String.ofList (text.flatten ++ last))

def string : Scan String :=
  orElse (multilineString "multiline basic string" '"' basicPiece) <| orElse basicString <|
    orElse (multilineString "multiline literal string" '\'' literalPiece) literalString

/-! Numbers. -/

def digitRun (isDigit : Char → Bool) : Scan (List Char) := do
  let first ← char isDigit
  let more ← many <| orElse (char isDigit) do
    let _ ← char (· = '_')
    committed (expecting ["digit"] (char isDigit))
  pure (first :: more)

def sign : Scan Bool := do
  match ← maybe (char fun c => c = '+' || c = '-') with
  | some '-' => pure true
  | _ => pure false

/-- A whole number in decimal, without a zero in front. -/
def wholePart : Scan (Bool × List Char) :=
  reading "integer" do
    let negative ← sign
    let digits ← orElse
      (do
        let _ ← ahead (char fun c => c.isDigit && c ≠ '0')
        digitRun Char.isDigit)
      (List.singleton <$> char Char.isDigit)
    pure (negative, digits)

def numberIn (radix : Nat) (digits : List Char) : Nat :=
  digits.foldl (fun n c => radix * n + (digitValueIn? radix c).getD 0) 0

def bounded (start : List Char) (n : Int) : Scan Shape :=
  committed <|
    if maxInteger < n then refuse start "number too large to fit in target type"
    else if n < minInteger then refuse start "number too small to fit in target type"
    else pure (.integer n)

def radixInteger (subject mark : String) (radix : Nat) : Scan Shape := do
  let start ← here
  let digits ← reading subject do
    word mark
    committed (digitRun fun c => (digitValueIn? radix c).isSome)
  bounded start (numberIn radix digits)

def decimalInteger : Scan Shape := do
  let start ← here
  let (negative, digits) ← wholePart
  let n : Int := numberIn 10 digits
  bounded start (if negative then -n else n)

def integer : Scan Shape := fun s =>
  match s with
  | '0' :: 'x' :: _ => radixInteger "hexadecimal integer" "0x" 16 s
  | '0' :: 'o' :: _ => radixInteger "octal integer" "0o" 8 s
  | '0' :: 'b' :: _ => radixInteger "binary integer" "0b" 2 s
  | _ => decimalInteger s

def places : Scan (List Char) := do
  let _ ← char (· = '.')
  expecting ["digit"] (committed (digitRun Char.isDigit))

def exponent : Scan Int := do
  let _ ← char fun c => c = 'e' || c = 'E'
  let negative ← sign
  let digits ← committed (digitRun Char.isDigit)
  let n : Int := numberIn 10 digits
  pure (if negative then -n else n)

/-- The digits behind a point and an exponent, of which one must be there. -/
def fraction : Scan (List Char × Int) :=
  orElse ((fun e => ([], e)) <$> exponent) do
    let digits ← places
    let e ← maybe exponent
    pure (digits, e.getD 0)

def decimalFloat : Scan Shape := do
  let start ← here
  let (negative, whole) ← wholePart
  let (digits, e) ← fraction
  let value := Binary64.ofDecimal negative (numberIn 10 (whole ++ digits)) (e - digits.length)
  if value = .infinite false then committed (stopAt start) else pure (.float value)

def specialFloat : Scan Shape := do
  let negative ← sign
  orElse ((fun _ => .float (.infinite negative)) <$> word "inf") ((fun _ => .float .nan) <$> word "nan")

def float : Scan Shape := reading "floating-point number" (orElse decimalFloat specialFloat)

/-! Dates and times. -/

/-- A number of so many digits between two bounds. -/
def fixedNumber (digits low high : Nat) : Scan Nat := do
  let start ← here
  let text := (start.take digits).takeWhile Char.isDigit
  if text.length < digits then stop
  else
    let n := numberIn 10 text
    if low ≤ n ∧ n ≤ high then fun s => .done n (s.drop digits) else refuse start "value is out of range"

def lastDay (year month : Nat) : Nat :=
  if month = 2 then (if year % 4 = 0 ∧ (year % 100 ≠ 0 ∨ year % 400 = 0) then 29 else 28)
  else if [4, 6, 9, 11].contains month then 30
  else 31

def fullDate : Scan Unit := do
  let year ← fixedNumber 4 0 9999
  let _ ← char (· = '-')
  let month ← committed (fixedNumber 2 1 12)
  let _ ← committed (char (· = '-'))
  let start ← here
  let day ← committed (fixedNumber 2 1 31)
  if lastDay year month < day then committed (refuse start "value is out of range")

def partialTime : Scan Unit := do
  let _ ← fixedNumber 2 0 23
  let _ ← char (· = ':')
  committed do
    let _ ← fixedNumber 2 0 59
    let _ ← char (· = ':')
    let _ ← fixedNumber 2 0 60
    let _ ← maybe do
      let _ ← char (· = '.')
      let _ ← char Char.isDigit
      run Char.isDigit

def timeOffset : Scan Unit :=
  reading "time offset" <| orElse (do let _ ← char fun c => c = 'Z' || c = 'z') do
    let _ ← char fun c => c = '+' || c = '-'
    committed do
      let _ ← fixedNumber 2 0 23
      let _ ← char (· = ':')
      let _ ← fixedNumber 2 0 59

def dateTime : Scan Shape :=
  (fun _ => .dateTime) <$>
    orElse
      (reading "date-time" do
        fullDate
        let _ ← maybe do
          let _ ← char fun c => c = 'T' || c = 't' || c = ' '
          partialTime
          maybe timeOffset)
      (reading "time" partialTime)

def number : Scan Shape := orElse dateTime (orElse float integer)

/-- Where a value should be; a string is what most likely was meant. -/
def stringExpected {α : Type} (p : Scan α) : Scan α :=
  expecting ["`\"`", "`'`"] (reading "string" p)

def scalar : Scan Shape := fun s =>
  match s with
  | [] => stop s
  | c :: _ =>
    if c = '"' ∨ c = '\'' then (.string <$> string) s
    else if c.isDigit ∨ c = '+' ∨ c = '-' then number s
    else if c = '_' then expecting ["leading digit"] integer s
    else if c = '.' then expecting ["leading digit"] float s
    else if c = 't' then stringExpected ((fun _ => .boolean true) <$> committed (word "true")) s
    else if c = 'f' then stringExpected ((fun _ => .boolean false) <$> committed (word "false")) s
    else if c = 'i' ∨ c = 'n' then stringExpected specialFloat s
    else stringExpected stop s

end Scan
end Toml
end DeliveryProbe
