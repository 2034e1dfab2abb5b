/-! Decimal numerals: writing a number with a fixed or free width, reading a run of digits, and
reading a bounded unsigned number with the cause of its rejection. -/
namespace DeliveryProbe

def digitChar (d : Nat) : Char := Char.ofNat ('0'.toNat + d)

def digitValue? (c : Char) : Option Nat :=
  if '0' ≤ c ∧ c ≤ '9' then some (c.toNat - '0'.toNat) else none

def hexDigit (n : Nat) : Char := if n < 10 then digitChar n else Char.ofNat ('a'.toNat + (n - 10))

/-- The value of a digit in any radix up to sixteen, letters of either case. -/
def digitValueIn? (radix : Nat) (c : Char) : Option Nat :=
  let value? :=
    if '0' ≤ c ∧ c ≤ '9' then some (c.toNat - '0'.toNat)
    else if 'a' ≤ c ∧ c ≤ 'f' then some (c.toNat - 'a'.toNat + 10)
    else if 'A' ≤ c ∧ c ≤ 'F' then some (c.toNat - 'A'.toNat + 10)
    else none
  value?.filter (· < radix)

theorem digitValue?_eq (c : Char) : digitValue? c = if c.isDigit then some (c.toNat - '0'.toNat) else none := by
  have same : ('0' ≤ c ∧ c ≤ '9') ↔ c.isDigit = true := by
    simp only [Char.isDigit, Bool.and_eq_true, decide_eq_true_eq]
    exact Iff.rfl
  simp only [digitValue?, same]

theorem digitValue?_lt {c : Char} {d : Nat} (h : digitValue? c = some d) : d < 10 := by
  unfold digitValue? at h
  split at h
  · next range =>
    have upper : c.toNat ≤ '9'.toNat := range.2
    injection h with h
    have nine : '9'.toNat = 57 := rfl
    have zero : '0'.toNat = 48 := rfl
    omega
  · contradiction

namespace Numeral

def fixed : Nat → Nat → List Char
  | 0, _ => []
  | width + 1, n => fixed width (n / 10) ++ [digitChar (n % 10)]

theorem length_fixed (width n : Nat) : (fixed width n).length = width := by
  induction width generalizing n with
  | zero => rfl
  | succ width ih => simp [fixed, ih]

def digits (n : Nat) : List Char := Nat.toDigits 10 n

def padded (width n : Nat) : List Char :=
  let ds := digits n
  List.replicate (width - ds.length) '0' ++ ds

def readFixed : Nat → Nat → List Char → Option (Nat × List Char)
  | 0, acc, s => some (acc, s)
  | _ + 1, _, [] => none
  | width + 1, acc, c :: s =>
    match digitValue? c with
    | some d => readFixed width (10 * acc + d) s
    | none => none

def span : List Char → List Nat × List Char
  | [] => ([], [])
  | c :: s =>
    match digitValue? c with
    | some d => let (ds, rest) := span s; (d :: ds, rest)
    | none => ([], c :: s)

def values (s : List Char) : List Nat := s.map fun c => c.toNat - '0'.toNat

theorem span_eq (s : List Char) : span s = (values (s.takeWhile Char.isDigit), s.dropWhile Char.isDigit) := by
  induction s with
  | nil => rfl
  | cons c s ih =>
    rw [span, digitValue?_eq]
    by_cases digit : c.isDigit = true
    · rw [if_pos digit, ih, List.takeWhile_cons_of_pos digit, List.dropWhile_cons_of_pos digit]
      rfl
    · rw [if_neg digit, List.takeWhile_cons_of_neg digit, List.dropWhile_cons_of_neg digit]
      rfl

/-- A run of digits ends where no digit follows. -/
theorem span_append {s rest : List Char} (digits : ∀ c ∈ s, c.isDigit = true)
    (ends : ∀ c ∈ rest.head?, c.isDigit = false) : span (s ++ rest) = (values s, rest) := by
  have none : rest.takeWhile Char.isDigit = [] ∧ rest.dropWhile Char.isDigit = rest := by
    cases rest with
    | nil => exact ⟨rfl, rfl⟩
    | cons c rest =>
      have other : ¬ c.isDigit = true := Bool.eq_false_iff.mp (ends c rfl)
      exact ⟨List.takeWhile_cons_of_neg other, List.dropWhile_cons_of_neg other⟩
  rw [span_eq, List.takeWhile_append_of_pos digits, List.dropWhile_append_of_pos digits, none.1, none.2,
    List.append_nil]

def ofDigits (ds : List Nat) : Nat := ds.foldl (fun acc d => 10 * acc + d) 0

inductive Fault where
  | empty
  | invalidDigit
  | tooLarge
  deriving DecidableEq, Repr

def Fault.message : Fault → String
  | .empty => "cannot parse integer from empty string"
  | .invalidDigit => "invalid digit found in string"
  | .tooLarge => "number too large to fit in target type"

/-- Reads digits onto `acc`. The first fault met from the left is the one reported. -/
def readUpTo (bound : Nat) : Nat → List Char → Except Fault Nat
  | acc, [] => .ok acc
  | acc, c :: s =>
    match digitValue? c with
    | none => .error .invalidDigit
    | some d => if bound < 10 * acc + d then .error .tooLarge else readUpTo bound (10 * acc + d) s

/-- Reads an unsigned number of at most `bound`. One plus sign may stand in front of the digits. -/
def unsigned (bound : Nat) : List Char → Except Fault Nat
  | [] => .error .empty
  | ['+'] | ['-'] => .error .invalidDigit
  | '+' :: s => readUpTo bound 0 s
  | s => readUpTo bound 0 s

end Numeral
end DeliveryProbe
