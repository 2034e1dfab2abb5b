import DeliveryProbe.Number.Digits
import DeliveryProbe.Text.Utf8

/-! What a text says once everything is taken out of it that steers a terminal: control characters
but for the blank ones, and escape sequences; and what it says when the controls are spelt out.

A blank control in the middle of a sequence is shown, and with it what follows up to the next control
that is not; there the sequence goes on. -/
namespace DeliveryProbe
namespace Terminal

inductive State where
  | ground
  | escape
  | intermediate
  | control
  | device
  /-- In a string for a device or a program, which no visible character ends. -/
  | opaqueString
  | command
  deriving DecidableEq, Repr

def isAscii (c : Char) : Bool := c ≤ '\x7f'

def isBlankControl (c : Char) : Bool := "\t\n\x0c\x0d".toList.contains c

def isShown (c : Char) : Bool := (' ' ≤ c && c ≠ '\x7f') || isBlankControl c

/-- Whether a character ends a string that no visible character ends: one whose encoding has the
string terminator among its bytes. -/
def endsString (c : Char) : Bool := !isAscii c && (Utf8.encode c.toString).contains 0x9C

def next (state : State) (c : Char) : State :=
  if c = '\x1b' then .escape
  else if c = '\x18' ∨ c = '\x1a' then .ground
  else
    match state with
    | .ground => .ground
    | .escape =>
      if c = '[' then .control
      else if c = ']' then .command
      else if c = 'P' then .device
      else if "X^_".toList.contains c then .opaqueString
      else if ' ' ≤ c ∧ c ≤ '/' then .intermediate
      else if '0' ≤ c ∧ c ≤ '~' then .ground
      else .escape
    | .intermediate => if '0' ≤ c ∧ c ≤ '~' then .ground else .intermediate
    | .control => if '@' ≤ c ∧ c ≤ '~' then .ground else .control
    | .device => if '@' ≤ c ∧ c ≤ '~' then .opaqueString else .device
    | .opaqueString => if endsString c then .ground else .opaqueString
    | .command => if c = '\x07' then .ground else .command

def State.letsBlanksThrough : State → Bool
  | .ground | .escape | .intermediate | .control => true
  | .device | .opaqueString | .command => false

/-- What is shown of a text. Behind a blank control, `showing` keeps a sequence from going on. -/
def shownFrom : Bool → State → List Char → List Char
  | _, _, [] => []
  | showing, state, c :: s =>
    if (showing || state = .ground) && isShown c || state.letsBlanksThrough && isBlankControl c then
      c :: shownFrom true (if isAscii c then state else .ground) s
    else shownFrom false (next state c) s

def plain (s : String) : String := String.ofList (shownFrom false .ground s.toList)

/-- A control that a terminal would act upon, spelt out by its code; the blank ones but for the form
feed stay as they are. -/
def spellControl (c : Char) : List Char :=
  let code := [hexDigit (c.toNat / 16), hexDigit (c.toNat % 16)]
  if "\x07\x08\x0c\x1b\x7f".toList.contains c then '\\' :: 'x' :: code
  else if 0x80 ≤ c.toNat ∧ c.toNat ≤ 0x9F then '\\' :: 'u' :: '\x7b' :: (code ++ ['\x7d'])
  else [c]

def spelt (s : String) : String := String.ofList (s.toList.flatMap spellControl)

end Terminal
end DeliveryProbe
