import DeliveryProbe.Json.Writer
import DeliveryProbe.Proofs.JsonGrammar

/-! Reading back what was written. Every escape of a string stands for the character it was made from, so the
compact text of a value is a text of the grammar. A value without numbers that is nested no deeper than the
reader allows is therefore read from its own text. -/
namespace DeliveryProbe.Json

theorem codeUnit?_control {n : Nat} (control : n < 32) :
    codeUnit? '0' '0' (hexDigit (n / 16)) (hexDigit (n % 16)) = some n := by
  revert n
  decide

theorem charText_control {c : Char} (control : c < ' ') :
    CharText ['\\', 'u', '0', '0', hexDigit (c.toNat / 16), hexDigit (c.toNat % 16)] c := by
  have small : c.toNat < 32 := control
  have high : isHighSurrogate c.toNat = false := by simp [isHighSurrogate]; omega
  have low : isLowSurrogate c.toNat = false := by simp [isLowSurrogate]; omega
  have text := CharText.unit (codeUnit?_control small) high low
  rwa [Char.ofNat_toNat] at text

/-- What a character is written as stands for this character. -/
theorem charText_escapeChar (c : Char) : CharText (escapeChar c) c := by
  unfold escapeChar
  split
  · next quote => subst quote; exact .short rfl
  · next quoteless =>
    split
    · next backslash => subst backslash; exact .short rfl
    · next unescaped =>
      repeat' split
      · next back => subst back; exact .short rfl
      · next feed => subst feed; exact .short rfl
      · next line => subst line; exact .short rfl
      · next carriage => subst carriage; exact .short rfl
      · next tab => subst tab; exact .short rfl
      · next control => exact charText_control control
      · next printable => exact .plain quoteless unescaped printable

theorem charsText_written (text : List Char) : CharsText (text.flatMap escapeChar) text := by
  induction text with
  | nil => exact .nil
  | cons c text ih =>
    rw [List.flatMap_cons]
    exact .cons (charText_escapeChar c) ih

theorem tokenText_quote (text : String) : TokenText (quote text) (.scalar (.string text)) := by
  have stands := TokenText.string (charsText_written text.toList)
  rwa [String.ofList_toList] at stands

namespace Lexed
variable {s s' : List Char} {ts ts' : List Token} {t : Token}

theorem append (first : Lexed s ts) (second : Lexed s' ts') : Lexed (s ++ s') (ts ++ ts') := by
  induction first with
  | done => exact second
  | blank space _ ih => exact .blank space ih
  | token text _ ih =>
    rw [List.append_assoc]
    exact .token text ih

theorem single (text : TokenText s t) : Lexed s [t] := by
  have lexed := Lexed.token text .done
  rwa [List.append_nil] at lexed

end Lexed

/-- A value without numbers whose arrays and objects are nested no deeper than the given number. -/
inductive Nested : Nat → Json → Prop where
  | null (n : Nat) : Nested n .null
  | bool (n : Nat) (value : Bool) : Nested n (.bool value)
  | string (n : Nat) (value : String) : Nested n (.string value)
  | array {n : Nat} {items : List Json} : (∀ item ∈ items, Nested n item) → Nested (n + 1) (.array items)
  | object {n : Nat} {members : List (String × Json)} :
      (∀ member ∈ members, Nested n member.2) → Nested (n + 1) (.object members)

theorem itemsToChars_eq (items : List Json) :
    itemsToChars items = items.flatMap fun item => [','] ++ item.toChars := by
  induction items with
  | nil => rfl
  | cons item items ih => simp [itemsToChars, ih]

/-- The text of a member. -/
def memberToChars (member : String × Json) : List Char := quote member.1 ++ ':' :: member.2.toChars

theorem membersToChars_eq (members : List (String × Json)) :
    membersToChars members = members.flatMap fun member => [','] ++ memberToChars member := by
  induction members with
  | nil => rfl
  | cons member members ih => simp [membersToChars, memberToChars, ih]

/-- The parts of an array or object behind the first, each with a comma in front of it. -/
theorem lexed_rest {α β : Type} {tokens : α → List Token} {value : α → β} {text : β → List Char} {P : α → Prop}
    {values : List β} (each : ∀ v ∈ values, ∃ part, value part = v ∧ P part ∧ Lexed (text v) (tokens part)) :
    ∃ parts : List α, parts.map value = values ∧ (∀ part ∈ parts, P part) ∧
      Lexed (values.flatMap fun v => [','] ++ text v) ((parts.map tokens).flatMap ([.comma] ++ ·)) := by
  induction values with
  | nil => exact ⟨[], rfl, List.forall_mem_nil _, .done⟩
  | cons v values ih =>
    obtain ⟨⟨part, rfl, own, lexed⟩, later⟩ := List.forall_mem_cons.mp each
    obtain ⟨parts, rfl, others, lexed'⟩ := ih later
    refine ⟨part :: parts, rfl, List.forall_mem_cons.mpr ⟨own, others⟩, ?_⟩
    rw [List.flatMap_cons, List.map_cons, List.flatMap_cons]
    exact ((Lexed.single .comma).append lexed).append lexed'

section Values
variable {n : Nat}

/-- The text of a value is one of the grammar's, with the value nested that deep. -/
def WritesPhrase (n : Nat) (v : Json) : Prop := ∃ ts, Lexed v.toChars ts ∧ Phrase n ts v

theorem writesPhrase_scalar {v : Json} (text : TokenText v.toChars (.scalar v)) : WritesPhrase n v :=
  ⟨_, .single text, .scalar n v⟩

theorem lexed_item {item : Json} (value : WritesPhrase n item) :
    ∃ part : Spelt, Prod.snd part = item ∧ Phrase n part.1 part.2 ∧ Lexed item.toChars (Prod.fst part) := by
  obtain ⟨ts, lexed, phrase⟩ := value
  exact ⟨(ts, item), rfl, phrase, lexed⟩

theorem writesPhrase_array {items : List Json} (each : ∀ item ∈ items, WritesPhrase n item) :
    WritesPhrase (n + 1) (.array items) := by
  cases items with
  | nil =>
    refine ⟨_, ?_, .array (no_items n)⟩
    exact (Lexed.single .openArray).append (.single .closeArray)
  | cons item items =>
    obtain ⟨⟨ts, lexed, phrase⟩, later⟩ := List.forall_mem_cons.mp each
    obtain ⟨parts, rfl, phrases, lexed'⟩ := lexed_rest fun other listed => lexed_item (later other listed)
    have each' : ∀ part ∈ (ts, item) :: parts, Phrase n part.1 part.2 := List.forall_mem_cons.mpr ⟨phrase, phrases⟩
    refine ⟨_, ?_, .array each'⟩
    rw [toChars, itemsToChars_eq, List.map_cons, intercalate_cons]
    exact (Lexed.single .openArray).append ((lexed.append lexed').append (.single .closeArray))

theorem lexed_member {member : String × Json} (value : WritesPhrase n member.2) :
    ∃ part, Json.member part = member ∧ Phrase n part.2.1 part.2.2 ∧
      Lexed (memberToChars member) (memberTokens part) := by
  obtain ⟨key, v⟩ := member
  obtain ⟨ts, lexed, phrase⟩ := value
  refine ⟨(key, ts, v), rfl, phrase, ?_⟩
  exact (Lexed.single (tokenText_quote key)).append ((Lexed.single .colon).append lexed)

theorem writesPhrase_object {members : List (String × Json)} (each : ∀ member ∈ members, WritesPhrase n member.2) :
    WritesPhrase (n + 1) (.object members) := by
  cases members with
  | nil =>
    refine ⟨_, ?_, .object (no_members n)⟩
    exact (Lexed.single .openObject).append (.single .closeObject)
  | cons first members =>
    obtain ⟨own, later⟩ := List.forall_mem_cons.mp each
    obtain ⟨part, rfl, phrase, lexed⟩ := lexed_member own
    obtain ⟨parts, rfl, phrases, lexed'⟩ := lexed_rest fun other listed => lexed_member (later other listed)
    refine ⟨_, ?_, .object (List.forall_mem_cons.mpr ⟨phrase, phrases⟩)⟩
    have text : toChars (.object (member part :: parts.map member)) =
        '\x7b' :: ((memberToChars (member part) ++ membersToChars (parts.map member)) ++ ['\x7d']) := by
      simp [toChars, memberToChars]
    rw [text, membersToChars_eq, List.map_cons, intercalate_cons]
    exact (Lexed.single .openObject).append ((lexed.append lexed').append (.single .closeObject))

theorem writesPhrase_nested {v : Json} (nested : Nested n v) : WritesPhrase n v := by
  induction nested with
  | null n => exact writesPhrase_scalar .null
  | bool n value =>
    cases value with
    | false => exact writesPhrase_scalar .isFalse
    | true => exact writesPhrase_scalar .isTrue
  | string n value => exact writesPhrase_scalar (tokenText_quote value)
  | array _ each => exact writesPhrase_array each
  | object _ each => exact writesPhrase_object each

/-- A value without numbers is read from its own text if it is nested no deeper than the reader allows. -/
theorem read?_toChars {v : Json} (nested : Nested maxDepth v) : read? v.toChars = some v :=
  read?_iff.mpr (writesPhrase_nested nested)

end Values
end DeliveryProbe.Json
