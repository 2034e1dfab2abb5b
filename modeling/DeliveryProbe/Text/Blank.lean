/-! Blank characters, as Unicode's White_Space property lists them, and trimming. -/
namespace DeliveryProbe
namespace Text

def blankRanges : List (Nat × Nat) :=
  [(0x9, 0xD), (0x20, 0x20), (0x85, 0x85), (0xA0, 0xA0), (0x1680, 0x1680), (0x2000, 0x200A),
    (0x2028, 0x2029), (0x202F, 0x202F), (0x205F, 0x205F), (0x3000, 0x3000)]

def isBlank (c : Char) : Bool := blankRanges.any fun (first, last) => first ≤ c.toNat && c.toNat ≤ last

/-- The text without its trailing characters of one kind. -/
def dropTrailing (p : Char → Bool) (s : List Char) : List Char := (s.reverse.dropWhile p).reverse

/-- The text without the blanks around it. -/
def trim (s : List Char) : List Char := dropTrailing isBlank (s.dropWhile isBlank)

def isAllBlank (s : String) : Bool := s.toList.all isBlank

theorem dropTrailing_append_replicate (c : Char) (n : Nat) (s : List Char) :
    dropTrailing (· = c) (s ++ List.replicate n c) = dropTrailing (· = c) s := by
  induction n with
  | zero => simp
  | succ n ih =>
    rw [List.replicate_succ', ← List.append_assoc]
    simpa only [dropTrailing, List.reverse_append, List.reverse_cons, List.reverse_nil, List.nil_append, List.cons_append,
      List.dropWhile_cons, decide_true, if_true] using ih

end Text
end DeliveryProbe
