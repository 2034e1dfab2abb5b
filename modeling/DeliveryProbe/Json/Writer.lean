import DeliveryProbe.Json.Value
import DeliveryProbe.Number.Digits

/-! Writing JSON compactly: no blanks, members in their order, and in strings an escape only where
one is needed, by its short name where it has one. -/
namespace DeliveryProbe
namespace Json

def escapeChar (c : Char) : List Char :=
  if c = '"' then ['\\', '"']
  else if c = '\\' then ['\\', '\\']
  else if c = '\x08' then ['\\', 'b']
  else if c = '\x0c' then ['\\', 'f']
  else if c = '\n' then ['\\', 'n']
  else if c = '\x0d' then ['\\', 'r']
  else if c = '\t' then ['\\', 't']
  else if c < ' ' then ['\\', 'u', '0', '0', hexDigit (c.toNat / 16), hexDigit (c.toNat % 16)]
  else [c]

def quote (s : String) : List Char := '"' :: (s.toList.flatMap escapeChar ++ ['"'])

/-- A number as its significand and, unless it is zero, its exponent. -/
def Number.toChars (n : Number) : List Char :=
  (if n.negative then ['-'] else []) ++ Numeral.digits n.significand ++
    (if n.exponent = 0 then []
     else 'e' :: ((if n.exponent < 0 then ['-'] else []) ++ Numeral.digits n.exponent.natAbs))

mutual

def toChars : Json → List Char
  | .null => "null".toList
  | .bool value => (if value then "true" else "false").toList
  | .number value => value.toChars
  | .string value => quote value
  | .array [] => ['[', ']']
  | .array (item :: items) => '[' :: (toChars item ++ itemsToChars items ++ [']'])
  | .object [] => ['\x7b', '\x7d']
  | .object ((key, value) :: members) =>
    '\x7b' :: (quote key ++ ':' :: (toChars value ++ membersToChars members ++ ['\x7d']))

def itemsToChars : List Json → List Char
  | [] => []
  | item :: items => ',' :: (toChars item ++ itemsToChars items)

def membersToChars : List (String × Json) → List Char
  | [] => []
  | (key, value) :: members => ',' :: (quote key ++ ':' :: (toChars value ++ membersToChars members))

end

def write (v : Json) : String := String.ofList v.toChars

end Json
end DeliveryProbe
