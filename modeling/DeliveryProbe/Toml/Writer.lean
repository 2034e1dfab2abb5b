import DeliveryProbe.Toml.Value
import DeliveryProbe.Number.Digits

/-! Writing flat TOML documents: one entry to a line, strings in double quotes. -/
namespace DeliveryProbe
namespace Toml

/-- A character as it stands between double quotes: controls by their code, the quote and the
backslash behind a backslash. -/
def escapeChar (c : Char) : List Char :=
  if c = '"' then ['\\', '"']
  else if c = '\\' then ['\\', '\\']
  else if isPlain c then [c]
  else ['\\', 'u', '0', '0', hexDigit (c.toNat / 16), hexDigit (c.toNat % 16)]

def Value.toChars : Value → List Char
  | .string s => '"' :: (s.toList.flatMap escapeChar ++ ['"'])
  | .integer n => (if n < 0 then ['-'] else []) ++ Numeral.digits n.natAbs
  | .boolean b => (if b then "true" else "false").toList

def Entry.toChars (e : Entry) : List Char :=
  e.key.toList ++ " = ".toList ++ e.value.toChars ++ ['\n']

def writeDocument (entries : List Entry) : String := String.ofList (entries.flatMap Entry.toChars)

end Toml
end DeliveryProbe
