import DeliveryProbe.Json.Token

/-! Reading a JSON text: a machine that takes one token at a time over a stack of the arrays and
objects that are still open, at most 127 of them. -/
namespace DeliveryProbe
namespace Json

def maxDepth : Nat := 127

/-- An open array or object with what it holds so far, the last first. -/
inductive Frame where
  | array (items : List Json)
  | object (members : List (String × Json))
  /-- An object whose next member has its key but no value yet. -/
  | member (members : List (String × Json)) (key : String)
  deriving Repr

inductive Stage where
  | value
  | valueOrClose
  | key
  | keyOrClose
  | colon (key : String)
  /-- A comma or the closing bracket. -/
  | separator
  | complete (value : Json)
  deriving Repr

structure Machine where
  stage : Stage
  stack : List Frame
  deriving Repr

namespace Machine

def start : Machine := { stage := .value, stack := [] }

def deliver (value : Json) : List Frame → Option Machine
  | [] => some { stage := .complete value, stack := [] }
  | .array items :: stack => some { stage := .separator, stack := .array (value :: items) :: stack }
  | .member members key :: stack =>
    some { stage := .separator, stack := .object ((key, value) :: members) :: stack }
  | .object _ :: _ => none

/-- Opens an array or object, if the depth allows. -/
def enter (frame : Frame) (stage : Stage) (stack : List Frame) : Option Machine :=
  if stack.length < maxDepth then some { stage, stack := frame :: stack } else none

def close (token : Token) : List Frame → Option Machine
  | .array items :: stack =>
    match token with
    | .closeArray => deliver (.array items.reverse) stack
    | _ => none
  | .object members :: stack =>
    match token with
    | .closeObject => deliver (.object members.reverse) stack
    | _ => none
  | _ => none

def begin (token : Token) (stack : List Frame) : Option Machine :=
  match token with
  | .scalar value => deliver value stack
  | .openArray => enter (.array []) .valueOrClose stack
  | .openObject => enter (.object []) .keyOrClose stack
  | _ => none

def step (m : Machine) (token : Token) : Option Machine :=
  match m.stage with
  | .value => begin token m.stack
  | .valueOrClose =>
    match token with
    | .closeArray => close token m.stack
    | _ => begin token m.stack
  | .key =>
    match token with
    | .scalar (.string key) => some { m with stage := .colon key }
    | _ => none
  | .keyOrClose =>
    match token with
    | .scalar (.string key) => some { m with stage := .colon key }
    | _ => close token m.stack
  | .colon key =>
    match token, m.stack with
    | .colon, .object members :: stack => some { stage := .value, stack := .member members key :: stack }
    | _, _ => none
  | .separator =>
    match token with
    | .comma =>
      match m.stack with
      | .array _ :: _ => some { m with stage := .value }
      | .object _ :: _ => some { m with stage := .key }
      | _ => none
    | _ => close token m.stack
  | .complete _ => none

/-- Takes tokens until they end or one does not fit. -/
def run : Machine → List Token → Option Machine
  | m, [] => some m
  | m, token :: tokens => (m.step token).bind (run · tokens)

def result? (m : Machine) : Option Json :=
  match m.stage with
  | .complete value => some value
  | _ => none

end Machine

def read? (s : List Char) : Option Json :=
  (tokens? s).bind fun tokens => (Machine.start.run tokens).bind Machine.result?

end Json
end DeliveryProbe
