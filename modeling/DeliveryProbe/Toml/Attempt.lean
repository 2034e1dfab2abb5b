import DeliveryProbe.Toml.Fault
import DeliveryProbe.Toml.Value

/-! Attempts to read something: they tell apart that something else stands in its place, so that
another attempt may be made there, and that it is there but broken. -/
namespace DeliveryProbe
namespace Toml

inductive Attempt (α : Type) where
  | done (value : α) (rest : List Char)
  | other (fault : Fault)
  | broken (fault : Fault)

def Scan (α : Type) : Type := List Char → Attempt α

namespace Scan

variable {α β : Type}

def bind (p : Scan α) (f : α → Scan β) : Scan β := fun s =>
  match p s with
  | .done value rest => f value rest
  | .other fault => .other fault
  | .broken fault => .broken fault

instance : Monad Scan where
  pure value := fun s => .done value s
  bind := bind

def here : Scan (List Char) := fun s => .done s s

def stop : Scan α := fun s => .other { left := s.length }

def stopAt (start : List Char) : Scan α := fun _ => stop start

/-- What was read from some place on is not to be taken. -/
def refuse (start : List Char) (cause : String) : Scan α := fun _ =>
  .other { left := start.length, cause := some cause }

def char (p : Char → Bool) : Scan Char := fun s =>
  match s with
  | c :: rest => if p c then .done c rest else stop s
  | [] => stop s

def run (p : Char → Bool) : Scan (List Char) := fun s => .done (s.takeWhile p) (s.dropWhile p)

def word (w : String) : Scan Unit := fun s =>
  if w.toList.isPrefixOf s then .done () (s.drop w.length) else stop s

def finish : Scan Unit := fun s => if s.isEmpty then .done () s else stop s

def orElse (p q : Scan α) : Scan α := fun s =>
  match p s with
  | .other _ => q s
  | attempt => attempt

def maybe (p : Scan α) : Scan (Option α) := orElse (some <$> p) (pure none)

def committed (p : Scan α) : Scan α := fun s =>
  match p s with
  | .other fault => .broken fault
  | attempt => attempt

def ahead (p : Scan α) : Scan α := fun s =>
  match p s with
  | .done value _ => .done value s
  | attempt => attempt

def mapFault (f : Fault → Fault) (p : Scan α) : Scan α := fun s =>
  match p s with
  | .other fault => .other (f fault)
  | .broken fault => .broken (f fault)
  | attempt => attempt

/-- Says what is being read, unless a part of it has a name of its own. -/
def reading (subject : String) (p : Scan α) : Scan α :=
  mapFault (fun f => { f with subject := f.subject.or (some subject) }) p

def expecting (things : List String) (p : Scan α) : Scan α :=
  mapFault (fun f => { f with expected := f.expected ++ things }) p

def manyUpTo : Nat → Scan α → Scan (List α)
  | 0, _ => pure []
  | fuel + 1, p => fun s =>
    match p s with
    | .done value rest => ((value :: ·) <$> manyUpTo fuel p) rest
    | .other _ => .done [] s
    | .broken fault => .broken fault

/-- A thing as often as it stands here; each takes one character or more. -/
def many (p : Scan α) : Scan (List α) := fun s => manyUpTo s.length p s

def separated (p : Scan α) (between : Scan β) : Scan (List α) := do
  let first ← p
  let more ← many (do let _ ← between; p)
  pure (first :: more)

def space : Scan Unit := do
  let _ ← run isSpace

def newline : Scan Unit := do
  let _ ← orElse (char (· = '\n')) do
    let _ ← char (· = '\x0d')
    char (· = '\n')

def comment : Scan Unit := do
  let _ ← char (· = '#')
  let _ ← run isPlain

def lineEnd : Scan Unit := orElse newline finish

def lineRest : Scan Unit := do
  space
  let _ ← maybe comment
  lineEnd

/-- Blanks, comments and line ends, of which there are at most as many as `fuel`. -/
def blankLinesUpTo : Nat → Scan Unit
  | 0 => pure ()
  | fuel + 1 => do
    space
    match ← here with
    | '#' :: _ =>
      comment
      newline
      blankLinesUpTo fuel
    | '\n' :: _ | '\x0d' :: _ =>
      newline
      blankLinesUpTo fuel
    | _ => pure ()

def blankLines : Scan Unit := fun s => blankLinesUpTo (s.length + 1) s

end Scan
end Toml
end DeliveryProbe
