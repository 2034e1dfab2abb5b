import DeliveryProbe.Number.Binary64

/-! JSON values as they are read: members in the order of the text, numbers as a significand and a
power of ten. -/
namespace DeliveryProbe

/-- The number `significand * 10 ^ exponent`, negated if the text had a minus sign. -/
structure Json.Number where
  negative : Bool
  significand : Nat
  exponent : Int
  deriving DecidableEq, Repr

inductive Json where
  | null
  | bool (value : Bool)
  | number (value : Json.Number)
  | string (value : String)
  | array (items : List Json)
  | object (members : List (String × Json))
  deriving Repr

namespace Json

/-- Whether the number is within the range of doubles: its significand, rounded to a double and
scaled by the rounded power of ten, stays finite. Powers above `10 ^ 308` are out of range unless
the significand is zero. -/
def Number.inRange (n : Number) : Bool :=
  if n.significand = 0 ∨ n.exponent ≤ 0 then true
  else if 308 < n.exponent then false
  else
    match Binary64.ofNat n.significand, Binary64.ofNat (Nat.pow 10 n.exponent.toNat) with
    | .finite _ a, .finite _ b =>
      match Binary64.mulMagnitudes a b with
      | .finite _ _ => true
      | _ => false
    | _, _ => false

/-- The value of a member: of several with one key, the last. -/
def member? (key : String) (members : List (String × Json)) : Option Json :=
  members.foldl (fun found (k, v) => if k = key then some v else found) none

def items? : Json → Option (List Json)
  | .array items => some items
  | _ => none

end Json
end DeliveryProbe
