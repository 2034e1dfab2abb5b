import DeliveryProbe.Settings.Key
import DeliveryProbe.Telemetry
import DeliveryProbe.Text.Alphanumeric
import DeliveryProbe.Text.Occurrence

/-! Which log records are written. A filter is a list of directives, separated by commas:

    target[span{field=value}]=level

Each part may be missing, and a level may stand alone. A directive is for the targets that begin with
its own. One with a span, or with a value for its field, is for what happens inside of spans, of which
there are none here; one with a field alone is for the records that have this field. The directive
with the longest target decides. -/
namespace DeliveryProbe

structure FieldPattern where
  name : String
  valued : Bool
  deriving DecidableEq, Repr

/-- A directive; without a level everything passes that it is for. -/
structure Directive where
  target : Option String := none
  span : Option String := none
  field : Option FieldPattern := none
  /-- The weight of the least important records that pass. -/
  least : Nat := 5
  deriving DecidableEq, Repr

structure LogFilter where
  directives : List Directive
  deriving DecidableEq, Repr

namespace Directive

def weight : Level → Nat
  | .error => 1
  | .warn => 2
  | .info => 3

def thresholds : List (String × Nat) :=
  [("off", 0), ("error", 1), ("warn", 2), ("info", 3), ("debug", 4), ("trace", 5)]

def threshold? (s : List Char) : Option Nat :=
  match Numeral.unsigned (UInt64.size - 1) s with
  | .ok n => if n ≤ 5 then some n else none
  | .error _ => thresholds.lookup (String.ofList (s.map Char.toLower))

def isStart (c : Char) : Bool := Text.isAlphanumeric c || c = '-' || c = ':' || c = '_'

def width (s : List Char) : Nat := (String.ofList s).utf8ByteSize

def behind : Nat → List Char → Option (List Char)
  | 0, s => some s
  | _ + 1, [] => none
  | n, c :: s => if c.utf8Size ≤ n then behind (n - c.utf8Size) s else none

/-- The given number of bytes that stand behind others, if these are whole characters. -/
def part (s : List Char) (start size : Nat) : Option String :=
  match behind start s with
  | some rest =>
    let head := Text.takeBytes size rest
    if width head = size then some (String.ofList head) else none
  | none => none

def fieldPattern (s : String) : FieldPattern :=
  { name := String.ofList (s.toList.takeWhile (· ≠ '=')), valued := s.toList.contains '=' }

def level? (s : List Char) (d : Directive) (start : Nat) : Option Directive :=
  match behind start s with
  | none => none
  | some [] => some d
  | some level => (threshold? level).map fun least => { d with least }

def ending? (s : List Char) (d : Directive) (start : Nat) : List Char → Option Directive
  | [] => some d
  | '=' :: _ => level? s d (start + 1)
  | _ => none

def braces? (s : List Char) (d : Directive) (start : Nat) (rest : List Char) : Option Directive :=
  let text := rest.takeWhile (· ≠ '\x7d')
  match text, rest.dropWhile (· ≠ '\x7d') with
  | _ :: _, _ :: ']' :: rest =>
    (part s start (width text)).bind fun field =>
      ending? s { d with field := some (fieldPattern field) } (start + width text + 2) rest
  | _, _ => none

def brackets? (s : List Char) (d : Directive) (start : Nat) (rest : List Char) : Option Directive :=
  let name := rest.takeWhile fun c => c ≠ ']' ∧ c ≠ '\x7b'
  let start' := start + width name + 1
  match part s start (width name), rest.dropWhile fun c => c ≠ ']' ∧ c ≠ '\x7b' with
  | some span, ']' :: rest => ending? s { d with span := some span } start' rest
  | some span, _ :: rest => braces? s { d with span := if span.isEmpty then none else some span } start' rest
  | _, _ => none

/-- Reads a directive. Its form is that of the text without the blanks around it; its parts are then
taken from the text as it is, at the same places. -/
def read? (s : List Char) : Option Directive :=
  match Text.trim s with
  | [] => none
  | '[' :: rest => brackets? s {} 1 rest
  | c :: form =>
    if !isStart c then none
    else
      let head := (c :: form).takeWhile fun c => c ≠ '=' ∧ c ≠ '['
      match (c :: form).dropWhile fun c => c ≠ '=' ∧ c ≠ '[' with
      | [] =>
        match threshold? s with
        | some least => some { least }
        | none => some { target := some (String.ofList s) }
      | mark :: rest =>
        (part s 0 (width head)).bind fun target =>
          let d : Directive := { target := some target }
          if mark = '=' then level? s d (width head + 1) else brackets? s d (width head + 1) rest

def fieldNames (r : LogRecord) : List String := "message" :: r.fields.map Prod.fst

def covers (d : Directive) (r : LogRecord) : Bool :=
  d.span.isNone && d.target.all (·.isPrefixOf r.target) &&
    d.field.all fun f => !f.valued && (fieldNames r).contains f.name

def reach (d : Directive) : Nat := d.target.elim 0 fun t => t.utf8ByteSize + 1

def fieldName (d : Directive) : String := d.field.elim "" (·.name)

/-- Whether a directive is at least as special as another: by its target, then by its field. -/
def refines (d e : Directive) : Bool :=
  e.reach < d.reach || (e.reach = d.reach && !decide (d.fieldName < e.fieldName))

end Directive

namespace LogFilter

def read? (text : String) : Option LogFilter :=
  (((text.splitOn ",").filter (!·.isEmpty)).mapM fun d => Directive.read? d.toList).map fun directives =>
    { directives }

def standard : LogFilter := { directives := [{ least := 3 }] }

def envName : String := "RUST_LOG"

/-- The filter that an environment asks for, the standard one if it asks for none that can be read. -/
def ofEnvironment (env : Environment) : LogFilter := ((env envName).bind read?).getD standard

/-- The directive that decides about a record: the most special of those that are for it, of equal
ones the last. -/
def decisive (f : LogFilter) (r : LogRecord) : Option Directive :=
  (f.directives.filter (·.covers r)).foldl
      (fun best d =>
        match best with
        | some e => if d.refines e then some d else some e
        | none => some d)
      none

def admits (f : LogFilter) (r : LogRecord) : Bool :=
  (f.decisive r).any fun d => Directive.weight r.level ≤ d.least

end LogFilter
end DeliveryProbe
