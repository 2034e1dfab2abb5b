import DeliveryProbe.Proofs.DriftText

/-! What the store reads in a line. In its line protocol commas, blanks and equal signs separate the parts of a point,
and a backslash in front of one of them makes a character of a name out of it. A sample is written without backslashes,
so that it is read as it was meant exactly if the name of the system needs none. -/
namespace DeliveryProbe

namespace Binary64

def IsFinite (x : Binary64) : Prop := ∃ negative step, x = .finite negative step

theorem isFinite_zero : zero.IsFinite := ⟨_, _, rfl⟩

theorem IsFinite.clampNegative {x : Binary64} (finite : x.IsFinite) : x.clampNegative.IsFinite := by
  unfold Binary64.clampNegative
  split
  · exact isFinite_zero
  · exact finite

end Binary64

namespace LineProtocol

inductive Separator where
  | comma
  | blank
  | equals
  deriving DecidableEq

def Separator.toChar : Separator → Char
  | .comma => ','
  | .blank => ' '
  | .equals => '='

inductive Symbol where
  | char (c : Char)
  | separator (k : Separator)
  | lineFeed
  deriving DecidableEq

def Symbol.ofChar (c : Char) : Symbol :=
  match c with
  | ',' => .separator .comma
  | ' ' => .separator .blank
  | '=' => .separator .equals
  | '\n' => .lineFeed
  | c => .char c

/-- Puts a character in front of symbols. A backslash hides in a separator that comes next, and makes a character of
it; in front of anything else it stands for itself. -/
def push (c : Char) : List Symbol → List Symbol
  | .separator k :: s => if c = '\\' then .char k.toChar :: s else .ofChar c :: .separator k :: s
  | s => .ofChar c :: s

def read (line : List Char) : List Symbol := line.foldr push []

def reserved : List Char := [',', ' ', '=', '\n']

/-- A name that needs no backslashes. A backslash at its end would be taken for one in front of what comes next. -/
def Plain (name : String) : Prop := (∀ c ∈ name.toList, c ∉ reserved) ∧ name.toList.getLast? ≠ some '\\'

instance (name : String) : Decidable (Plain name) :=
  have : Decidable (∀ c ∈ name.toList, c ∉ reserved) := List.decidableBAll _ _
  inferInstanceAs (Decidable (_ ∧ _))

theorem ofChar_eq_char {c d : Char} : Symbol.ofChar c = .char d ↔ c = d ∧ c ∉ reserved := by
  unfold Symbol.ofChar reserved
  split <;> simp_all

theorem ofChar_toChar (k : Separator) : Symbol.ofChar k.toChar = .separator k := by cases k <;> rfl

theorem push_of_visible {c : Char} (visible : c ≠ '\\') (s : List Symbol) : push c s = .ofChar c :: s := by
  unfold push
  split
  · exact if_neg visible
  · rfl

theorem push_eq_char {c : Char} {s t : List Symbol} :
    push c s = .char c :: t ↔ c ∉ reserved ∧ s = t ∧ ∀ k rest, s = .separator k :: rest → c ≠ '\\' := by
  by_cases hides : c = '\\'
  · subst hides
    unfold push
    split
    · next k rest =>
      have other : Symbol.char k.toChar ≠ .char '\\' := by cases k <;> decide
      simp [other]
    · next s front => simpa [ofChar_eq_char] using fun _ _ k rest same => front k rest same
  · rw [push_of_visible hides]
    simp [ofChar_eq_char, hides]

theorem read_append (first second : List Char) : read (first ++ second) = first.foldr push (read second) :=
  List.foldr_append

theorem read_separator (k : Separator) (s : List Char) : read (k.toChar :: s) = .separator k :: read s := by
  have visible : k.toChar ≠ '\\' := by cases k <;> decide
  rw [read, List.foldr_cons, push_of_visible visible, ofChar_toChar, ← read]

/-- In front of a separator, a name is read as it stands if and only if it is plain. -/
theorem foldr_push_iff (name : List Char) (k : Separator) (s rest : List Symbol) :
    name.foldr push (.separator k :: s) = name.map .char ++ rest ↔
      (∀ c ∈ name, c ∉ reserved) ∧ name.getLast? ≠ some '\\' ∧ rest = .separator k :: s := by
  induction name with
  | nil => simp [eq_comm]
  | cons c name ih =>
    rw [List.foldr_cons, List.map_cons, List.cons_append, push_eq_char, List.forall_mem_cons]
    cases name with
    | nil => simp [and_comm, and_left_comm, @eq_comm _ rest]
    | cons d name =>
      rw [List.getLast?_cons_cons]
      constructor
      · rintro ⟨free, read, -⟩
        obtain ⟨others, last, same⟩ := ih.mp read
        exact ⟨⟨free, others⟩, last, same⟩
      · rintro ⟨⟨free, others⟩, last, same⟩
        have read := ih.mpr ⟨others, last, same⟩
        refine ⟨free, read, ?_⟩
        intro k' rest' separated
        rw [read] at separated
        exact nomatch (List.cons.inj separated).1

def word (name : String) : List Symbol := name.toList.map .char

def pair (p : String × String) : List Symbol := word p.1 ++ .separator .equals :: word p.2

def pairs (ps : List (String × String)) : List Symbol := ps.flatMap fun p => .separator .comma :: pair p

/-- Decimal digits with at most one point between them, and a minus sign in front of them or not. -/
def Number (text : String) : Prop := ∃ digits, DecimalText digits ∧ (text.toList = digits ∨ text.toList = '-' :: digits)

/-- A point of the store: what is measured, the tags by which it is found, and the values, at least one. -/
structure Point where
  measurement : String
  tags : List (String × String)
  field : String × String
  moreFields : List (String × String)
  deriving DecidableEq

namespace Point

def symbols (p : Point) : List Symbol :=
  word p.measurement ++ pairs p.tags ++ .separator .blank :: (pair p.field ++ pairs p.moreFields)

/-- Nothing that has to be named is without a name, and no tag without a value. Of the kinds of values that a field can
have, samples only use numbers. -/
structure Proper (p : Point) : Prop where
  measurement : p.measurement ≠ ""
  tags : ∀ t ∈ p.tags, t.1 ≠ "" ∧ t.2 ≠ ""
  fields : ∀ f ∈ p.field :: p.moreFields, f.1 ≠ "" ∧ Number f.2

/-- A text is one line, and the line is the point. -/
def ReadFrom (p : Point) (line : String) : Prop := p.Proper ∧ read line.toList = p.symbols

end Point

section Unique

/-- Symbols in front of which a name ends. -/
def Ends (s : List Symbol) : Prop := ∀ c, s.head? ≠ some (.char c)

theorem ends_separator (k : Separator) (s : List Symbol) : Ends (.separator k :: s) := by
  intro c same
  exact nomatch Option.some.inj same

theorem ends_pairs_append (ps : List (String × String)) {s : List Symbol} (ends : Ends s) : Ends (pairs ps ++ s) := by
  cases ps with
  | nil => exact ends
  | cons p ps => exact ends_separator .comma _

theorem word_append_inj {v w : String} {s t : List Symbol} (ends : Ends s) (ends' : Ends t)
    (same : word v ++ s = word w ++ t) : v = w ∧ s = t := by
  suffices chars : ∀ v w : List Char, v.map Symbol.char ++ s = w.map Symbol.char ++ t → v = w ∧ s = t by
    obtain ⟨equal, rest⟩ := chars v.toList w.toList same
    exact ⟨String.toList_inj.mp equal, rest⟩
  intro v
  induction v with
  | nil =>
    intro w same
    cases w with
    | nil => exact ⟨rfl, same⟩
    | cons d w => exact absurd (congrArg List.head? same) (ends d)
  | cons c v ih =>
    intro w same
    cases w with
    | nil => exact absurd (congrArg List.head? same.symm) (ends' c)
    | cons d w =>
      obtain ⟨first, others⟩ := List.cons.inj same
      obtain ⟨rfl, rest⟩ := ih w others
      exact ⟨congrArg (· :: v) (Symbol.char.inj first), rest⟩

theorem pair_append_inj {p q : String × String} {s t : List Symbol} (ends : Ends s) (ends' : Ends t)
    (same : pair p ++ s = pair q ++ t) : p = q ∧ s = t := by
  simp only [pair, List.append_assoc, List.cons_append] at same
  obtain ⟨keys, same⟩ := word_append_inj (ends_separator _ _) (ends_separator _ _) same
  obtain ⟨values, rest⟩ := word_append_inj ends ends' (List.cons.inj same).2
  exact ⟨Prod.ext keys values, rest⟩

theorem pairs_append_inj {ps qs : List (String × String)} {s t : List Symbol} (ends : Ends s) (ends' : Ends t)
    (last : s.head? ≠ some (.separator .comma)) (last' : t.head? ≠ some (.separator .comma))
    (same : pairs ps ++ s = pairs qs ++ t) : ps = qs ∧ s = t := by
  induction ps generalizing qs with
  | nil =>
    cases qs with
    | nil => exact ⟨rfl, same⟩
    | cons q qs => exact absurd (congrArg List.head? same) last
  | cons p ps ih =>
    cases qs with
    | nil => exact absurd (congrArg List.head? same.symm) last'
    | cons q qs =>
      simp only [pairs, List.flatMap_cons, List.append_assoc, List.cons_append] at same
      obtain ⟨equal, others⟩ :=
        pair_append_inj (ends_pairs_append ps ends) (ends_pairs_append qs ends') (List.cons.inj same).2
      obtain ⟨rfl, rest⟩ := ih others
      exact ⟨congrArg (· :: ps) equal, rest⟩

theorem Point.ReadFrom.unique {p q : Point} {line : String} (first : p.ReadFrom line) (second : q.ReadFrom line) :
    p = q := by
  have same : p.symbols = q.symbols := first.2.symm.trans second.2
  obtain ⟨measurement, tags, field, moreFields⟩ := p
  obtain ⟨measurement', tags', field', moreFields'⟩ := q
  simp only [symbols, List.append_assoc] at same
  have blank (s : List Symbol) : Ends (.separator .blank :: s) := ends_separator .blank s
  obtain ⟨rfl, tagged⟩ :=
    word_append_inj (ends_pairs_append tags (blank _)) (ends_pairs_append tags' (blank _)) same
  obtain ⟨rfl, measured⟩ := pairs_append_inj (blank _) (blank _) (by simp) (by simp) tagged
  have empty : Ends [] := nofun
  have fields := (List.cons.inj measured).2
  rw [← List.append_nil (pairs moreFields), ← List.append_nil (pairs moreFields')] at fields
  obtain ⟨rfl, more⟩ :=
    pair_append_inj (ends_pairs_append moreFields empty) (ends_pairs_append moreFields' empty) fields
  obtain ⟨rfl, -⟩ := pairs_append_inj empty empty nofun nofun more
  rfl

theorem Point.only_iff {p : Point} {line : String} : (∀ q : Point, q.ReadFrom line ↔ q = p) ↔ p.ReadFrom line := by
  constructor
  · intro only
    exact (only p).mpr rfl
  · intro own q
    constructor
    · intro other
      exact other.unique own
    · rintro rfl
      exact own

end Unique

theorem read_word {name : String} (plain : Plain name) (k : Separator) (s : List Char) :
    read (name.toList ++ k.toChar :: s) = word name ++ .separator k :: read s := by
  rw [read_append, read_separator]
  exact (foldr_push_iff _ k _ _).mpr ⟨plain.1, plain.2, rfl⟩

theorem read_of_simple {s : List Char} (simple : ∀ c ∈ s, c ∉ reserved ∧ c ≠ '\\') : read s = s.map .char := by
  induction s with
  | nil => rfl
  | cons c s ih =>
    rw [List.forall_mem_cons] at simple
    obtain ⟨⟨free, visible⟩, others⟩ := simple
    rw [read, List.foldr_cons, ← read, ih others, push_of_visible visible, ofChar_eq_char.mpr ⟨rfl, free⟩,
      List.map_cons]

theorem simple_of_digit {c : Char} (digit : c.isDigit = true) : c ∉ reserved ∧ c ≠ '\\' := by
  constructor
  · intro member
    simp only [reserved, List.mem_cons, List.not_mem_nil, or_false] at member
    rcases member with rfl | rfl | rfl | rfl <;> contradiction
  · rintro rfl
    contradiction

theorem simple_of_decimal {s : List Char} (decimal : DecimalText s) : ∀ c ∈ s, c ∉ reserved ∧ c ≠ '\\' := by
  intro c member
  cases decimal with
  | whole _ digits => exact simple_of_digit (digits c member)
  | broken _ digits _ digits' =>
    rcases List.mem_append.mp member with first | second
    · exact simple_of_digit (digits c first)
    · rcases List.mem_cons.mp second with rfl | last
      · decide
      · exact simple_of_digit (digits' c last)

theorem read_number {text : String} (number : Number text) : read text.toList = word text := by
  obtain ⟨digits, decimal, bare | signed⟩ := number
  · rw [word, bare]
    exact read_of_simple (simple_of_decimal decimal)
  · rw [word, signed]
    apply read_of_simple
    rw [List.forall_mem_cons]
    exact ⟨by decide, simple_of_decimal decimal⟩

theorem number_text {x : Binary64} (finite : x.IsFinite) : Number x.text := by
  obtain ⟨negative, step, rfl⟩ := finite
  refine ⟨_, Binary64.decimalText_magnitudeText step, ?_⟩
  rw [Binary64.text, String.toList_ofList]
  cases negative with
  | false => exact .inl rfl
  | true => exact .inr rfl

end LineProtocol

namespace Sample
open LineProtocol

/-- The point that a sample is meant to be. -/
def point (s : Sample) : Point where
  measurement := "logs"
  tags := [("type", s.channel.label), ("successful", boolText s.successful), ("host", s.system)]
  field := ("drift", s.drift.text)
  moreFields := []

def front (s : Sample) : List Symbol :=
  word "logs" ++ pairs [("type", s.channel.label), ("successful", boolText s.successful)] ++
    .separator .comma :: (word "host" ++ [.separator .equals])

variable (s : Sample)

theorem line_toList : s.line.toList =
    "logs".toList ++ Separator.comma.toChar ::
      ("type".toList ++ Separator.equals.toChar :: (s.channel.label.toList ++ Separator.comma.toChar ::
        ("successful".toList ++ Separator.equals.toChar ::
          ((boolText s.successful).toList ++ Separator.comma.toChar ::
            ("host".toList ++ Separator.equals.toChar :: (s.system.toList ++ Separator.blank.toChar ::
              ("drift".toList ++ Separator.equals.toChar :: s.drift.text.toList))))))) := by
  dsimp only [line]
  simp [Separator.toChar]

theorem plain_label (c : Channel) : Plain c.label := by cases c <;> decide

theorem plain_boolText (b : Bool) : Plain (boolText b) := by cases b <;> decide

theorem read_line (finite : s.drift.IsFinite) :
    read s.line.toList =
      s.front ++ s.system.toList.foldr push (.separator .blank :: pair ("drift", s.drift.text)) := by
  have logs : Plain "logs" := by decide
  have type : Plain "type" := by decide
  have successful : Plain "successful" := by decide
  have host : Plain "host" := by decide
  have drift : Plain "drift" := by decide
  have name (rest : List Char) : read (s.system.toList ++ Separator.blank.toChar :: rest) =
      s.system.toList.foldr push (.separator .blank :: read rest) := by
    rw [read_append, read_separator]
  rw [line_toList, read_word logs, read_word type, read_word (plain_label s.channel), read_word successful,
    read_word (plain_boolText s.successful), read_word host, name, read_word drift, read_number (number_text finite)]
  simp [front, pairs, pair]

theorem symbols_point :
    s.point.symbols = s.front ++ (word s.system ++ .separator .blank :: pair ("drift", s.drift.text)) := by
  simp [Point.symbols, point, front, pairs, pair]

/-- A sample is read back from its line exactly if the name of its system is plain. -/
theorem readFrom_line_iff (finite : s.drift.IsFinite) :
    s.point.ReadFrom s.line ↔ s.system ≠ "" ∧ Plain s.system := by
  have proper : s.point.Proper ↔ s.system ≠ "" := by
    constructor
    · intro proper
      exact (proper.tags ("host", s.system) (by simp [point])).2
    · intro named
      have label : s.channel.label ≠ "" := by cases s.channel <;> decide
      have number := number_text finite
      have success : boolText s.successful ≠ "" := by cases s.successful <;> decide
      exact
        { measurement := by simp [point]
          tags := by simp [point, label, success, named]
          fields := by simp [point, number] }
  rw [Point.ReadFrom, proper, read_line s finite, symbols_point, List.append_cancel_left_eq, word, foldr_push_iff]
  simp [Plain]

end Sample
end DeliveryProbe
