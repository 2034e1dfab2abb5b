import DeliveryProbe.Text.Blank

/-! Texts in double quotes, with whatever cannot be seen in them spelt out. -/
namespace DeliveryProbe
namespace Text

/-- Ranges of characters without a look of their own: controls, joiners and marks of direction, marks
that sit on the character before them, and private characters. -/
def unseenRanges : List (Nat × Nat) :=
  [(0x0, 0x1F), (0x7F, 0x9F), (0xAD, 0xAD), (0x300, 0x36F), (0x200B, 0x200F), (0x202A, 0x202E), (0x2060, 0x206F),
    (0xE000, 0xF8FF), (0xFE00, 0xFE0F), (0xFEFF, 0xFEFF), (0xFFF0, 0xFFFB), (0xE0000, 0x10FFFF)]

def isUnseen (c : Char) : Bool :=
  (isBlank c && c ≠ ' ') || unseenRanges.any fun (first, last) => first ≤ c.toNat && c.toNat ≤ last

def quoteChar (c : Char) : List Char :=
  if c = '"' ∨ c = '\\' then ['\\', c]
  else if c = '\x00' then ['\\', '0']
  else if c = '\t' then ['\\', 't']
  else if c = '\n' then ['\\', 'n']
  else if c = '\x0d' then ['\\', 'r']
  else if isUnseen c then "\\u\x7b".toList ++ Nat.toDigits 16 c.toNat ++ ['\x7d']
  else [c]

def quoted (s : String) : String := String.ofList ('"' :: (s.toList.flatMap quoteChar ++ ['"']))

end Text
end DeliveryProbe
