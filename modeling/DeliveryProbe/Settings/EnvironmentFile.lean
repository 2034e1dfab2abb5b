import DeliveryProbe.Settings.Key
import DeliveryProbe.Text.Alphanumeric
import DeliveryProbe.Text.Utf8

/-! Environment files: lines `NAME=value`, which add variables to an environment but never change
one that is set. Reading stops at the first line that is ill formed. -/
namespace DeliveryProbe
namespace EnvironmentFile

def isNameStart (c : Char) : Bool := c.isAlpha || c = '_'

def isNameChar (c : Char) : Bool := isNameStart c || c.isDigit || c = '.'

inductive Mode where
  | bare
  | literal
  | quoted
  | escaped (quoted : Bool)
  /-- Behind a dollar sign, with the name of letters and digits so far, backwards. -/
  | reference (quoted : Bool) (name : List Char)
  /-- Behind `$` and an opening brace, with the name so far, backwards. -/
  | braced (quoted : Bool) (name : List Char)
  | ended
  | comment
  deriving DecidableEq, Repr

def plainMode (quoted : Bool) : Mode := if quoted then .quoted else .bare

def valueOf (env : Environment) (name : List Char) : List Char :=
  ((env (String.ofList name.reverse)).getD "").toList

/-- What a character does to a mode, with the characters it adds to the value. -/
def step (env : Environment) : Mode → Char → Option (Mode × List Char)
  | .comment, _ => some (.comment, [])
  | .ended, c =>
    if c = ' ' ∨ c = '\t' then some (.ended, []) else if c = '#' then some (.comment, []) else none
  | .escaped quoted, c =>
    if c = 'n' then some (plainMode quoted, ['\n'])
    else if "\\'\"$ ".toList.contains c then some (plainMode quoted, [c])
    else none
  | .literal, c => if c = '\'' then some (.bare, []) else some (.literal, [c])
  | .reference quoted name, c =>
    if Text.isAlphanumeric c then some (.reference quoted (c :: name), [])
    else if c = '\x7b' ∧ name = [] then some (.braced quoted [], [])
    else if c = '$' then some (.reference quoted [], valueOf env name)
    else some (plainMode quoted, valueOf env name ++ [c])
  | .braced quoted name, c =>
    if c = '\x7d' then some (plainMode quoted, valueOf env name) else some (.braced quoted (c :: name), [])
  | .quoted, c =>
    if c = '$' then some (.reference true [], [])
    else if c = '"' then some (.bare, [])
    else if c = '\\' then some (.escaped true, [])
    else some (.quoted, [c])
  | .bare, c =>
    if c = '$' then some (.reference false [], [])
    else if c = '\'' then some (.literal, [])
    else if c = '"' then some (.quoted, [])
    else if c = '\\' then some (.escaped false, [])
    else if c = ' ' ∨ c = '\t' then some (.ended, [])
    else some (.bare, [c])

def finish (env : Environment) : Mode → Option (List Char)
  | .literal | .quoted | .braced _ _ | .escaped true | .reference true _ => none
  | .reference false name => some (valueOf env name)
  | _ => some []

def readValue (env : Environment) : Mode → List Char → Option (List Char)
  | mode, [] => finish env mode
  | mode, c :: s =>
    match step env mode c with
    | some (mode, added) => (readValue env mode s).map (added ++ ·)
    | none => none

def skipBlanks (s : List Char) : List Char := s.dropWhile Text.isBlank

def readName (s : List Char) : Option (String × List Char) :=
  if s.head?.any isNameStart then
    some (String.ofList (s.takeWhile isNameChar), skipBlanks (s.dropWhile isNameChar))
  else none

/-- Reads a name and the equals sign behind it; the word `export` may stand in front of the name. -/
def readAssignment (s : List Char) : Option (String × List Char) :=
  match readName s with
  | some (name, '=' :: rest) => some (name, rest)
  | some ("export", rest) =>
    match readName rest with
    | some (name, '=' :: rest) => some (name, rest)
    | _ => none
  | _ => none

inductive Line where
  | empty
  | assignment (name value : String)
  | illFormed
  deriving DecidableEq, Repr

def readLine (env : Environment) (s : List Char) : Line :=
  match skipBlanks (Text.dropTrailing Text.isBlank s) with
  | [] | '#' :: _ => .empty
  | s =>
    match readAssignment s with
    | none => .illFormed
    | some (name, rest) =>
      match skipBlanks rest with
      | [] | '#' :: _ => .assignment name ""
      | value =>
        match readValue env .bare value with
        | some value => .assignment name (String.ofList value)
        | none => .illFormed

def define (env : Environment) (name value : String) : Environment := fun x =>
  if x = name then some ((env name).getD value) else env x

def lines : Utf8.Bytes → List Utf8.Bytes
  | [] => []
  | 10 :: s => [] :: lines s
  | b :: s =>
    match lines s with
    | [] => [[b]]
    | line :: more => (b :: line) :: more

/-- Lays the lines of a file below an environment, up to the first that is ill formed or no text. -/
def load (env : Environment) : List Utf8.Bytes → Environment
  | [] => env
  | line :: more =>
    match Utf8.decode? line with
    | none => env
    | some text =>
      match readLine env text.toList with
      | .empty => load env more
      | .assignment name value => load (define env name value) more
      | .illFormed => env

def complete (env : Environment) (file : Option Utf8.Bytes) : Environment :=
  load env (lines (file.getD []))

end EnvironmentFile
end DeliveryProbe
