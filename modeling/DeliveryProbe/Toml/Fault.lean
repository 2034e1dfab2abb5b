/-! Why a TOML document is refused and where, and the text that says so and quotes the line. -/
namespace DeliveryProbe
namespace Toml

structure Fault where
  /-- The number of characters that follow the place. -/
  left : Nat
  subject : Option String := none
  expected : List String := []
  cause : Option String := none
  deriving DecidableEq, Repr

def Fault.reason (f : Fault) : String :=
  let expected := if f.expected.isEmpty then [] else ["expected " ++ ", ".intercalate f.expected]
  "\n".intercalate ((f.subject.toList.map ("invalid " ++ ·)) ++ expected ++ f.cause.toList)

def byteCount (s : List Char) : Nat := (String.ofList s).utf8ByteSize

structure Place where
  line : Nat
  before : List Char
  after : List Char

def Place.of (document : List Char) (start : Nat) : Place :=
  let start := min start (document.length - 1)
  let passed := document.take start
  { line := passed.count '\n'
    before := (passed.reverse.takeWhile (· ≠ '\n')).reverse
    after := (document.drop start).takeWhile (· ≠ '\n') }

/-- The column of a place, which counts characters, but bytes in front of one beyond ASCII. -/
def Place.column (p : Place) (atEnd : Bool) : Nat :=
  if atEnd then p.before.length + 1
  else if p.after.head?.any ('\x7f' < ·) then byteCount p.before
  else p.before.length

def blanks (n : Nat) : String := String.ofList (List.replicate n ' ')

/-- What is said about a stretch of a document: its line and column, the line itself with the stretch
marked below, byte for byte as far as the line goes, and the reason. -/
def quoting (document : List Char) (start size : Nat) (reason : String) : String :=
  let place := Place.of document start
  let column := if document.isEmpty then 0 else place.column (document.length ≤ start)
  let content := place.before ++ place.after
  let number := toString (place.line + 1)
  let margin := blanks (number.length + 1) ++ "|"
  let marks := max 1 (min (byteCount ((document.drop start).take size)) (byteCount content))
  "TOML parse error at line " ++ number ++ ", column " ++ toString (column + 1) ++ "\n" ++ margin ++ "\n" ++ number ++
    " | " ++ String.ofList content ++ "\n" ++ margin ++ blanks (column + 1) ++
    String.ofList (List.replicate marks '^') ++ "\n" ++ reason ++ "\n"

def Fault.text (document : List Char) (f : Fault) : String :=
  quoting document (document.length - f.left) 1 f.reason

end Toml
end DeliveryProbe
