import DeliveryProbe.CommandLine.Command
import DeliveryProbe.CommandLine.Similarity
import DeliveryProbe.Text.Terminal

/-! Reading the arguments of a command.

An option with a value takes it from behind an equals sign, or else takes the next argument unless
that looks like an option. In the latter case the value is looked at only when the next option is
taken up or the arguments end, so that a mistake behind it is reported in its place. -/
namespace DeliveryProbe
namespace CommandLine

inductive UsageFault where
  | valueMissing (option : CommandOption)
  | invalidValue (option : CommandOption) (value reason : String)
  /-- An argument that nothing expects, an option whose name is similar, and the options in use. -/
  | unexpected (argument : String) (similar : Option String) (inUse : List CommandOption)
  /-- A value for an option that has none, and the options taken up before it. -/
  | surplusValue (option : CommandOption) (value : String) (taken : List CommandOption)
  | repeated (option : CommandOption)
  deriving DecidableEq, Repr

inductive Reading where
  | given (values : List (String × String))
  | help
  | version
  | refused (fault : UsageFault)
  deriving DecidableEq, Repr

/-- A whole number of sixty-four bits with its sign, or why a text is none. -/
def readInteger : List Char → Except String Int
  | '-' :: c :: s =>
    match Numeral.readUpTo 0x8000000000000000 0 (c :: s) with
    | .ok n => .ok (-(n : Int))
    | .error .tooLarge => .error "number too small to fit in target type"
    | .error fault => .error fault.message
  | s =>
    match Numeral.unsigned 0x7fffffffffffffff s with
    | .ok n => .ok n
    | .error fault => .error fault.message

def checkPort (value : String) : Except String Unit :=
  match readInteger value.toList with
  | .error reason => .error reason
  | .ok n => if 0 ≤ n ∧ n ≤ 65535 then .ok () else .error (toString n ++ " is not in 0..=65535")

def checkValue (o : CommandOption) (value : String) : Except UsageFault Unit :=
  match o.kind with
  | .value _ .path => if value.isEmpty then .error (.valueMissing o) else .ok ()
  | .value _ .port => (checkPort value).mapError (.invalidValue o value)
  | _ => .ok ()

structure Progress where
  inUse : List CommandOption
  values : List (String × String)
  pending : Option (CommandOption × Option String)

namespace Progress

def start : Progress := { inUse := [], values := [], pending := none }

/-- Takes up an option with its value. Progress is made even if there is a fault: an option with a
bad value is in use, and one that is repeated is no more. -/
def take (p : Progress) (o : CommandOption) (value : String) : Progress × Except UsageFault Unit :=
  if p.inUse.contains o then ({ p with inUse := p.inUse.erase o }, .error (.repeated o))
  else ({ p with inUse := p.inUse ++ [o], values := p.values ++ [(o.long, value)] }, checkValue o value)

def settle (p : Progress) : Progress × Except UsageFault Unit :=
  match p.pending with
  | none => (p, .ok ())
  | some (o, none) => ({ p with pending := none }, .error (.valueMissing o))
  | some (o, some value) => ({ p with pending := none }).take o value

def settleAndTake (p : Progress) (o : CommandOption) (value : String) : Except Reading Progress :=
  match p.settle with
  | (_, .error fault) => .error (.refused fault)
  | (p, .ok ()) =>
    match o.kind with
    | .help => .error .help
    | .version => .error .version
    | _ =>
      match p.take o value with
      | (p, .ok ()) => .ok p
      | (_, .error fault) => .error (.refused fault)

def await (p : Progress) (o : CommandOption) : Except Reading Progress :=
  match p.settle with
  | (p, .ok ()) => .ok { p with pending := some (o, none) }
  | (_, .error fault) => .error (.refused fault)

def option (p : Progress) (o : CommandOption) (attached : Option String) : Except Reading Progress :=
  match o.kind, attached with
  | .value _ _, some value => p.settleAndTake o value
  | .value _ _, none => p.await o
  | _, some value => .error (.refused (.surplusValue o value p.inUse))
  | _, none => p.settleAndTake o "true"

def unexpected (argument : String) : Except Reading Progress :=
  .error (.refused (.unexpected argument none []))

def long (c : Command) (p : Progress) (s : List Char) : Except Reading Progress :=
  let name := String.ofList (s.takeWhile (· ≠ '='))
  let attached :=
    match s.dropWhile (· ≠ '=') with
    | _ :: value => some (String.ofList value)
    | [] => none
  match c.findLong name with
  | some o => p.option o attached
  | none =>
    let inUse := p.settle.1.inUse
    match (Similarity.closest name (c.allOptions.map (·.long))).bind c.findLong with
    | some o => .error (.refused (.unexpected ("--" ++ name) (some o.long) (inUse ++ [o])))
    | none => .error (.refused (.unexpected ("--" ++ name) none inUse))

/-- Short options, the hyphen taken off. One with a value has the rest for it, with or without an
equals sign. -/
def short (c : Command) : Progress → List Char → Except Reading Progress
  | p, [] => .ok p
  | p, x :: s =>
    match c.findShort x with
    | none => unexpected (String.ofList ['-', x])
    | some o =>
      match o.kind, s with
      | .value _ _, [] => p.option o none
      | .value _ _, '=' :: value => p.option o (some (String.ofList value))
      | .value _ _, value => p.option o (some (String.ofList value))
      | _, s =>
        match p.option o none with
        | .ok p => short c p s
        | .error reading => .error reading

def plain (p : Progress) (argument : String) : Except Reading Progress :=
  match p.pending with
  | some (o, none) => .ok { p with pending := some (o, some argument) }
  | _ => unexpected argument

def argument (c : Command) (p : Progress) (argument : String) : Except Reading Progress :=
  match argument.toList with
  | '-' :: '-' :: s => long c p s
  | '-' :: x :: s => short c p (x :: s)
  | _ => plain p argument

def finish (p : Progress) : Reading :=
  match p.settle with
  | (p, .ok ()) => .given p.values
  | (_, .error fault) => .refused fault

end Progress

/-- Reads arguments; behind a `--` nothing is an option, and nothing else is expected. -/
def readFrom (c : Command) : Progress → List String → Reading
  | p, [] => p.finish
  | p, "--" :: rest =>
    match rest with
    | [] => p.finish
    | surplus :: _ => .refused (.unexpected surplus none [])
  | p, argument :: rest =>
    match p.argument c argument with
    | .ok p => readFrom c p rest
    | .error reading => reading

def read (c : Command) (arguments : List String) : Reading := readFrom c .start arguments

/-- The text of a fault, as the error stream shows it. What the arguments bring along does not steer
the terminal. -/
def UsageFault.message (c : Command) (fault : UsageFault) : String :=
  let body :=
    match fault with
    | .valueMissing o => "a value is required for '" ++ o.spelling ++ "' but none was supplied"
    | .invalidValue o value reason =>
      "invalid value '" ++ Terminal.plain value ++ "' for '" ++ o.spelling ++ "': " ++ reason
    | .unexpected argument similar inUse =>
      let tip :=
        match similar with
        | some long => "\n\n  tip: a similar argument exists: '--" ++ long ++ "'"
        | none => ""
      "unexpected argument '" ++ Terminal.plain argument ++ "' found" ++ tip ++ "\n\n" ++ c.usage inUse
    | .surplusValue o value taken =>
      "unexpected value '" ++ Terminal.plain value ++ "' for '" ++ o.spelling ++
        "' found; no more were expected\n\n" ++ c.usageBehind taken o
    | .repeated o => "the argument '" ++ o.spelling ++ "' cannot be used multiple times\n\n" ++ c.usage []
  "error: " ++ body ++ "\n\nFor more information, try '--help'.\n"

end CommandLine
end DeliveryProbe
