/-! Bytes read as UTF-8 with a replacement character for what is not well formed.

The reader is a machine that takes one byte at a time. Between characters a byte is a character of
its own, opens one, or is refused; inside a character it must fall in the range that is still
allowed. A byte that does not fit ends the ill-formed run before it, and is then looked at afresh,
so each maximal run that could have begun a character gives one replacement. -/
namespace DeliveryProbe
namespace Utf8

abbrev Bytes := List UInt8

def encode (s : String) : Bytes := s.toUTF8.toList

def decode? (bytes : Bytes) : Option String := String.fromUTF8? (ByteArray.mk bytes.toArray)

def replacement : Char := '\uFFFD'

/-- A character of which some bytes are still missing; the next must lie between `low` and `high`. -/
structure Open where
  missing : Nat
  low : UInt8
  high : UInt8
  value : Nat
  deriving DecidableEq, Repr

inductive Lead where
  | single (c : Char)
  | opens (first : Open)
  | refused
  deriving Repr

def lead (b : UInt8) : Lead :=
  let n := b.toNat
  if n < 0x80 then .single (Char.ofNat n)
  else if n < 0xC2 then .refused
  else if n < 0xE0 then .opens { missing := 1, low := 0x80, high := 0xBF, value := n - 0xC0 }
  else if n = 0xE0 then .opens { missing := 2, low := 0xA0, high := 0xBF, value := 0 }
  else if n = 0xED then .opens { missing := 2, low := 0x80, high := 0x9F, value := 0xD }
  else if n < 0xF0 then .opens { missing := 2, low := 0x80, high := 0xBF, value := n - 0xE0 }
  else if n = 0xF0 then .opens { missing := 3, low := 0x90, high := 0xBF, value := 0 }
  else if n < 0xF4 then .opens { missing := 3, low := 0x80, high := 0xBF, value := n - 0xF0 }
  else if n = 0xF4 then .opens { missing := 3, low := 0x80, high := 0x8F, value := 4 }
  else .refused

def lossyFrom : Option Open → Bytes → List Char
  | none, [] => []
  | some _, [] => [replacement]
  | state, b :: s =>
    let afresh :=
      match lead b with
      | .single c => c :: lossyFrom none s
      | .opens first => lossyFrom (some first) s
      | .refused => replacement :: lossyFrom none s
    match state with
    | none => afresh
    | some opened =>
      if opened.low ≤ b ∧ b ≤ opened.high then
        let value := 64 * opened.value + (b.toNat - 0x80)
        if opened.missing = 1 then Char.ofNat value :: lossyFrom none s
        else lossyFrom (some { missing := opened.missing - 1, low := 0x80, high := 0xBF, value }) s
      else replacement :: afresh

def decodeLossy (bytes : Bytes) : String := String.ofList (lossyFrom none bytes)

end Utf8
end DeliveryProbe
