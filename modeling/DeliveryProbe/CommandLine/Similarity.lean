import DeliveryProbe.Number.Binary64

/-! The Jaro similarity of two texts, in double precision. Two characters match if they are equal
and not too far apart; the similarity is the mean of the two shares of matching characters and of
the share of matches that are in order. -/
namespace DeliveryProbe
namespace Similarity

def reach (a b : List Char) : Nat := max a.length b.length / 2 - 1

/-- The first free place, at least `low` and at most `high`, that holds the character; `i` is the
place at which the list begins. -/
def firstFree (c : Char) (low high : Nat) (taken : List Nat) : Nat → List Char → Option Nat
  | _, [] => none
  | i, d :: b =>
    if low ≤ i ∧ i ≤ high ∧ c = d ∧ i ∉ taken then some i else firstFree c low high taken (i + 1) b

/-- Matches the characters of the first text from left to right; gives those that match and the
places of their matches. -/
def matching (reach : Nat) (b : List Char) : Nat → List Nat → List Char → List (Char × Nat)
  | _, _, [] => []
  | i, taken, c :: a =>
    match firstFree c (i - reach) (i + reach) taken 0 b with
    | some j => (c, j) :: matching reach b (i + 1) (j :: taken) a
    | none => matching reach b (i + 1) taken a

def disorder (b : List Char) (matched : List (Char × Nat)) : Nat :=
  let places := matched.map Prod.snd
  let other := (b.zipIdx.filter fun (_, j) => places.contains j).map Prod.fst
  ((matched.map Prod.fst).zip other).countP fun (c, d) => c ≠ d

def quotient (num den : Nat) : Binary64 := .ofUnits false (num * Binary64.unitsPerOne) den

/-- The similarity, rounded after every operation. -/
def jaro (a b : List Char) : Binary64 :=
  if a.isEmpty && b.isEmpty then .ofNat 1
  else
    let matched := matching (reach a b) b 0 [] a
    let m := matched.length
    if m = 0 then .zero
    else
      let ordered := m - disorder b matched / 2
      (((quotient m a.length).addMagnitudes (quotient m b.length)).addMagnitudes (quotient ordered m)).divNat 3

def threshold : Binary64 := quotient 7 10

def closest (word : String) (candidates : List String) : Option String :=
  let scored := (candidates.map fun c => (jaro word.toList c.toList, c)).filter fun s => s.1.gt threshold
  (scored.foldl
      (fun best s =>
        match best with
        | some b => if b.1.gt s.1 then some b else some s
        | none => some s)
      none).map Prod.snd

end Similarity
end DeliveryProbe
