import DeliveryProbe.Settings.Configuration
import Mathlib.Data.List.DropRight

/-! How the values of settings are spelled: numbers in decimal digits, URLs with slashes at their end, and
the words that say no. -/
namespace DeliveryProbe

namespace Numeral

/-- A text spells a number in decimal digits, zeros in front of them or not; one plus sign may come first. -/
inductive Spells : List Char → Nat → Prop where
  | plain {s : List Char} (some : s ≠ []) (digits : ∀ c ∈ s, c.isDigit = true) :
      Spells s (Nat.ofDigitChars 10 s 0)
  | signed {s : List Char} (some : s ≠ []) (digits : ∀ c ∈ s, c.isDigit = true) :
      Spells ('+' :: s) (Nat.ofDigitChars 10 s 0)

theorem le_ofDigitChars (s : List Char) (acc : Nat) : acc ≤ Nat.ofDigitChars 10 s acc := by
  induction s generalizing acc with
  | nil => exact Nat.le_refl acc
  | cons c s ih =>
    have larger : acc ≤ 10 * acc + (c.toNat - '0'.toNat) := by omega
    exact larger.trans (ih _)

/-- What has been read only grows, so it is within the bound in the end if and only if it always is. -/
theorem readUpTo_eq_ok {bound acc n : Nat} (within : acc ≤ bound) (s : List Char) :
    readUpTo bound acc s = .ok n ↔
      (∀ c ∈ s, c.isDigit = true) ∧ n = Nat.ofDigitChars 10 s acc ∧ n ≤ bound := by
  induction s generalizing acc with
  | nil =>
    constructor
    · intro read
      obtain rfl := Except.ok.inj read
      exact ⟨fun _ member => absurd member List.not_mem_nil, rfl, within⟩
    · rintro ⟨-, rfl, -⟩
      rfl
  | cons c s ih =>
    rw [readUpTo, digitValue?_eq, List.forall_mem_cons]
    by_cases digit : c.isDigit = true
    · rw [if_pos digit]
      dsimp only
      split
      · next beyond =>
        refine ⟨nofun, ?_⟩
        rintro ⟨-, rfl, under⟩
        have reached := le_ofDigitChars s (10 * acc + (c.toNat - '0'.toNat))
        exact absurd (reached.trans under) (Nat.not_le.mpr beyond)
      · next under =>
        rw [ih (Nat.not_lt.mp under)]
        exact ⟨fun ⟨digits, value, small⟩ => ⟨⟨digit, digits⟩, value, small⟩,
          fun ⟨digits, value, small⟩ => ⟨digits.2, value, small⟩⟩
    · rw [if_neg digit]
      exact ⟨nofun, fun spelt => absurd spelt.1.1 digit⟩

theorem spells_plus {s : List Char} {n : Nat} :
    Spells ('+' :: s) n ↔ s ≠ [] ∧ (∀ c ∈ s, c.isDigit = true) ∧ n = Nat.ofDigitChars 10 s 0 := by
  constructor
  · rintro (⟨_, digits⟩ | ⟨some, digits⟩)
    · exact absurd (digits '+' List.mem_cons_self) (by decide)
    · exact ⟨some, digits, rfl⟩
  · rintro ⟨some, digits, rfl⟩
    exact .signed some digits

theorem spells_of_ne_plus {s : List Char} {n : Nat} (bare : s.head? ≠ some '+') :
    Spells s n ↔ s ≠ [] ∧ (∀ c ∈ s, c.isDigit = true) ∧ n = Nat.ofDigitChars 10 s 0 := by
  constructor
  · rintro (⟨some, digits⟩ | ⟨some, digits⟩)
    · exact ⟨some, digits, rfl⟩
    · contradiction
  · rintro ⟨some, digits, rfl⟩
    exact .plain some digits

theorem Spells.unique {s : List Char} {m n : Nat} (first : Spells s m) (second : Spells s n) : m = n := by
  by_cases plus : s.head? = some '+'
  · obtain ⟨rest, rfl⟩ := List.head?_eq_some_iff.mp plus
    rw [(spells_plus.mp first).2.2, (spells_plus.mp second).2.2]
  · rw [((spells_of_ne_plus plus).mp first).2.2, ((spells_of_ne_plus plus).mp second).2.2]

theorem unsigned_eq_ok {bound n : Nat} (s : List Char) :
    unsigned bound s = .ok n ↔ Spells s n ∧ n ≤ bound := by
  have read (s : List Char) (some : s ≠ []) : readUpTo bound 0 s = .ok n ↔
      (s ≠ [] ∧ (∀ c ∈ s, c.isDigit = true) ∧ n = Nat.ofDigitChars 10 s 0) ∧ n ≤ bound := by
    rw [readUpTo_eq_ok (Nat.zero_le bound), and_assoc, and_assoc, and_iff_right some]
  unfold unsigned
  split
  · exact ⟨nofun, fun ⟨spelt, _⟩ => by cases spelt; contradiction⟩
  · rw [spells_plus]
    exact ⟨nofun, fun ⟨spelt, _⟩ => absurd rfl spelt.1⟩
  · rw [spells_of_ne_plus (by decide)]
    exact ⟨nofun, fun ⟨spelt, _⟩ => absurd (spelt.2.1 '-' List.mem_cons_self) (by decide)⟩
  · next rest more => rw [spells_plus, read rest more]
  · next more _ _ bare =>
    have front : s.head? ≠ some '+' := by
      intro plus
      obtain ⟨rest, rfl⟩ := List.head?_eq_some_iff.mp plus
      exact bare rest rfl
    rw [spells_of_ne_plus front, read s more]

end Numeral

namespace Text

theorem dropTrailing_eq (p : Char → Bool) (s : List Char) : dropTrailing p s = s.rdropWhile p := rfl

theorem dropTrailing_eq_self_iff {p : Char → Bool} {s : List Char} :
    dropTrailing p s = s ↔ ∀ c ∈ s.getLast?, p c = false := by
  rw [dropTrailing_eq, List.rdropWhile_eq_self_iff]
  constructor
  · intro stays c last
    have some : s ≠ [] := List.ne_nil_of_mem (List.mem_of_getLast? last)
    rw [List.getLast?_eq_some_getLast some] at last
    obtain rfl := Option.some.inj last
    exact Bool.eq_false_iff.mpr (stays some)
  · intro stays some
    rw [stays _ (List.getLast?_eq_some_getLast some)]
    exact Bool.false_ne_true

theorem all_blank_of_trim {s : List Char} (empty : trim s = []) : s.all isBlank = true := by
  rw [trim, dropTrailing_eq, List.rdropWhile_eq_nil_iff] at empty
  have none : s.dropWhile isBlank = [] := by
    by_contra some
    have blank := empty _ (List.head_mem some)
    rw [List.head_dropWhile_not isBlank some] at blank
    contradiction
  exact List.all_eq_true.mpr (List.dropWhile_eq_nil_iff.mp none)

end Text

/-- A URL without all of its trailing slashes. -/
def WithoutSlashes (url bare : String) : Prop :=
  (∃ count, url.toList = bare.toList ++ List.replicate count '/') ∧ bare.toList.getLast? ≠ some '/'

theorem withoutSlashes_trimSlashes (url : String) : WithoutSlashes url (trimSlashes url) := by
  rw [WithoutSlashes, trimSlashes, String.toList_ofList, Text.dropTrailing_eq]
  constructor
  · have slash : ∀ c ∈ url.toList.rtakeWhile (· = '/'), c = '/' := fun c member =>
      of_decide_eq_true (List.mem_rtakeWhile_imp (p := (· = '/')) member)
    have slashes := List.eq_replicate_iff.mpr ⟨rfl, slash⟩
    exact ⟨_, slashes ▸ (List.rdropWhile_append_rtakeWhile ..).symm⟩
  · intro slash
    have some : url.toList.rdropWhile (· = '/') ≠ [] := fun empty => by simp [empty] at slash
    have last := List.rdropWhile_last_not _ _ some
    rw [List.getLast?_eq_some_getLast some] at slash
    exact last (decide_eq_true (Option.some.inj slash))

/-- A text says no, whatever capitals and blanks it has. -/
def SaysNo (raw : String) : Prop :=
  (Text.trim raw.toList).map Char.toLower ∈ ["0", "false", "no", "off"].map String.toList

instance (raw : String) : Decidable (SaysNo raw) := inferInstanceAs (Decidable (_ ∈ _))

namespace Settings

theorem isTruthy_iff {raw : String} (text : Text.isAllBlank raw = false) :
    isTruthy raw = true ↔ ¬SaysNo raw := by
  have some : Text.trim raw.toList ≠ [] := by
    intro empty
    rw [Text.isAllBlank, Text.all_blank_of_trim empty] at text
    contradiction
  have spelt (word : String) : String.ofList ((Text.trim raw.toList).map Char.toLower) = word ↔
      (Text.trim raw.toList).map Char.toLower = word.toList := by
    rw [← String.toList_inj, String.toList_ofList]
  have empty : (Text.trim raw.toList).map Char.toLower ≠ "".toList := fun same =>
    some (List.map_eq_nil_iff.mp same)
  simp only [isTruthy, falseWords, SaysNo, Bool.not_eq_true', ← Bool.not_eq_true, List.contains_iff_mem,
    List.mem_cons, List.not_mem_nil, or_false, List.map_cons, List.map_nil, spelt, empty, false_or]

end Settings
end DeliveryProbe
