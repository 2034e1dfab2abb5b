import DeliveryProbe.Proofs.TomlText

/-! Lines of flat documents: an entry, or nothing but a comment. A document is read line by line, whatever lines come
behind. -/
namespace DeliveryProbe
namespace Toml

variable {p s rest tail raw : List Char} {key : String} {mark : Char}

/-- What follows a line, and what is left of it once the line has ended. -/
inductive Break : List Char → List Char → Prop where
  | last : Break [] []
  | next (s : List Char) : Break ('\n' :: s) s

def Blanks (s : List Char) : Prop := ∀ c ∈ s, isSpace c = true

theorem Blanks.skip_cons (blanks : Blanks p) {c : Char} (solid : isSpace c = false) (s : List Char) :
    skipSpace (p ++ c :: s) = c :: s := by
  rw [skipSpace, List.dropWhile_append_of_pos blanks, List.dropWhile_cons_of_neg (Bool.eq_false_iff.mp solid)]

theorem Blanks.skip_break (blanks : Blanks p) (ends : Break tail rest) : skipSpace (p ++ tail) = tail := by
  cases ends with
  | last => rw [skipSpace, List.dropWhile_append_of_pos blanks, List.dropWhile_nil]
  | next => exact blanks.skip_cons rfl _

/-- Blanks, and perhaps a comment. -/
inductive Trailer : List Char → Prop where
  | blanks {p : List Char} (blanks : Blanks p) : Trailer p
  | comment {p q : List Char} (blanks : Blanks p) (plain : ∀ c ∈ q, isPlain c = true) : Trailer (p ++ '#' :: q)

theorem Trailer.readLineEnd_eq (trailer : Trailer p) (ends : Break tail rest) : readLineEnd (p ++ tail) = some rest := by
  cases trailer with
  | blanks blanks =>
    rw [Toml.readLineEnd, blanks.skip_break ends]
    cases ends <;> rfl
  | @comment _ q blanks plain =>
    have passed : (q ++ tail).dropWhile isPlain = tail := by
      rw [List.dropWhile_append_of_pos plain]
      cases ends <;> rfl
    rw [List.append_assoc, List.cons_append, Toml.readLineEnd, blanks.skip_cons rfl]
    simp only [passed]
    cases ends <;> rfl

theorem Trailer.ends (trailer : Trailer p) (ends : Break tail rest) : Ends (p ++ tail) := by
  have space {c : Char} (space : isSpace c = true) : c = ' ' ∨ c = '\t' ∨ c = '#' ∨ c = '\n' :=
    (eq_of_isSpace space).imp_right .inl
  cases trailer with
  | blanks blanks =>
    cases p with
    | nil => cases ends <;> simp [Ends]
    | cons c p =>
      rintro _ ⟨⟩
      exact space (blanks c List.mem_cons_self)
  | @comment p _ blanks plain =>
    cases p with
    | nil => simp [Ends]
    | cons c p =>
      rintro _ ⟨⟩
      exact space (blanks c List.mem_cons_self)

/-- A line that begins with a key, a character that can only stand behind one, and anything. -/
inductive KeyLine (key : String) (mark : Char) (raw : List Char) : List Char → Prop where
  | mk {before p between : List Char} (blanks : Blanks before) (text : KeyText p key) (blanks' : Blanks between) :
      KeyLine key mark raw (before ++ (p ++ (between ++ mark :: raw)))

section Lines

variable {line : List Char}

theorem KeyLine.skip (begins : KeyLine key mark raw line) (tail : List Char) :
    ∃ p between, skipSpace (line ++ tail) = p ++ (between ++ mark :: (raw ++ tail)) ∧ KeyText p key ∧ Blanks between := by
  obtain @⟨_, p, between, blanks, text, blanks'⟩ := begins
  refine ⟨p, between, ?_, text, blanks'⟩
  obtain ⟨c, q, rfl, solid, -⟩ := text.first
  simp only [List.append_assoc, List.cons_append, blanks.skip_cons solid]

/-- A line does not end where something else begins. -/
theorem readLineEnd_eq_none {c : Char} (skip : skipSpace s = c :: p) (other : c ∉ ['#', '\n', '\x0d']) :
    readLineEnd s = none := by
  simp only [List.mem_cons, List.not_mem_nil, or_false, not_or] at other
  rw [readLineEnd, skip]
  split
  next begins =>
    split at begins
    · next same => exact absurd (List.cons.inj same).1 other.1
    · contradiction
  next =>
    split
    · next same => exact absurd (List.cons.inj same).1 other.1
    · rw [readNewline]
      · exact fun _ same => other.2.1 (List.cons.inj same).1
      · exact fun _ same => other.2.2 (List.cons.inj same).1

theorem KeyLine.readLineEnd_eq (begins : KeyLine key mark raw line) (tail : List Char) :
    readLineEnd (line ++ tail) = none := by
  obtain ⟨p, between, skip, text, -⟩ := begins.skip tail
  obtain ⟨c, q, rfl, -, other⟩ := text.first
  exact readLineEnd_eq_none skip other

theorem KeyLine.readKey_eq (begins : KeyLine key mark raw line) (solid : isSpace mark = false)
    (other : isBareKeyChar mark = false) (tail : List Char) :
    ∃ behind, readKey (skipSpace (line ++ tail)) = some (key, behind) ∧ skipSpace behind = mark :: (raw ++ tail) := by
  obtain ⟨p, between, skip, text, blanks⟩ := begins.skip tail
  refine ⟨between ++ mark :: (raw ++ tail), ?_, blanks.skip_cons solid _⟩
  rw [skip, text.read]
  cases between with
  | nil =>
    rintro _ ⟨⟩
    exact other
  | cons c between =>
    rintro _ ⟨⟩
    rcases eq_of_isSpace (blanks c List.mem_cons_self) with rfl | rfl <;> rfl

inductive EntryText : List Char → Entry → Prop where
  | mk {line p before after : List Char} {e : Entry} (blanks : Blanks before) (text : ValueText p e.value)
      (trailer : Trailer after) (begins : KeyLine e.key '=' (before ++ (p ++ after)) line) : EntryText line e

/-- Lines, and the entries on them. -/
inductive LinesText : List (List Char) → List Entry → Prop where
  | nil : LinesText [] []
  | blank {line : List Char} {lines : List (List Char)} {entries : List Entry} (trailer : Trailer line)
      (more : LinesText lines entries) : LinesText (line :: lines) entries
  | entry {line : List Char} {lines : List (List Char)} {e : Entry} {entries : List Entry} (text : EntryText line e)
      (more : LinesText lines entries) : LinesText (line :: lines) (e :: entries)

theorem KeyLine.readEntry_eq (begins : KeyLine key '=' raw line) (tail : List Char) :
    readEntry (skipSpace (line ++ tail)) = (readValue (skipSpace (raw ++ tail))).bind fun (value, s) =>
      (readLineEnd s).map fun rest => ({ key, value }, rest) := by
  obtain ⟨behind, read, skip⟩ := begins.readKey_eq rfl rfl tail
  unfold readEntry
  simp only [read, skip]
  cases readValue (skipSpace (raw ++ tail)) <;> rfl

theorem KeyLine.of_readEntry {e : Entry} (begins : KeyLine key '=' raw line)
    (read : readEntry (skipSpace (line ++ tail)) = some (e, rest)) :
    e.key = key ∧ ∃ s, readValue (skipSpace (raw ++ tail)) = some (e.value, s) ∧ readLineEnd s = some rest := by
  rw [begins.readEntry_eq] at read
  obtain ⟨⟨value, s⟩, taken, read⟩ := Option.bind_eq_some_iff.mp read
  obtain ⟨rest, ends, same⟩ := Option.map_eq_some_iff.mp read
  obtain ⟨rfl, rfl⟩ := Prod.mk.inj same
  exact ⟨rfl, s, taken, ends⟩

theorem KeyLine.readEntry_dotted (begins : KeyLine key '.' raw line) (tail : List Char) :
    readEntry (skipSpace (line ++ tail)) = none := by
  obtain ⟨behind, read, skip⟩ := begins.readKey_eq rfl rfl tail
  rw [readEntry, read]
  dsimp only
  rw [skip]
  rfl

theorem Break.length_le (ends : Break tail rest) : rest.length ≤ tail.length - 1 := by
  cases ends <;> simp

/-- Nothing but an entry can be read from a line that begins with a key. -/
theorem KeyLine.readLines_eq (begins : KeyLine key mark raw line) (ends : Break tail rest) {fuel : Nat}
    (enough : (line ++ tail).length ≤ fuel) :
    ∃ fuel', rest.length ≤ fuel' ∧ readLines fuel (line ++ tail) =
      (readEntry (skipSpace (line ++ tail))).bind fun (entry, rest) => (readLines fuel' rest).map (entry :: ·) := by
  have noEnd := begins.readLineEnd_eq tail
  have some : line ≠ [] := by
    obtain @⟨_, p, _, _, text, _⟩ := begins
    obtain ⟨c, q, rfl, -⟩ := text.first
    simp
  have shorter := ends.length_le
  have one := List.length_pos_iff.mpr some
  rw [List.length_append] at enough
  obtain ⟨fuel, rfl⟩ := Nat.exists_eq_add_one.mpr (one.trans_le ((Nat.le_add_right _ _).trans enough))
  refine ⟨fuel, by omega, ?_⟩
  obtain ⟨c, s, whole⟩ := List.exists_cons_of_ne_nil (List.append_ne_nil_of_left_ne_nil some tail)
  rw [whole] at noEnd ⊢
  simp only [readLines, noEnd]
  cases readEntry (skipSpace (c :: s)) <;> rfl

theorem EntryText.readEntry_eq {e : Entry} (text : EntryText line e) (ends : Break tail rest) :
    readEntry (skipSpace (line ++ tail)) = if e.value.storable then some (e, rest) else none := by
  obtain @⟨p, before, after, _, blanks, value, trailer, begins⟩ := text
  have skip : skipSpace (before ++ (p ++ after) ++ tail) = p ++ (after ++ tail) := by
    obtain ⟨c, q, rfl, solid⟩ := value.first
    simp only [List.append_assoc, List.cons_append, blanks.skip_cons solid]
  rw [begins.readEntry_eq, skip, value.read (trailer.ends ends)]
  by_cases storable : e.value.storable = true
  · rw [if_pos storable, if_pos storable, Option.bind_some]
    dsimp only
    rw [trailer.readLineEnd_eq ends, Option.map_some]
  · rw [if_neg storable, if_neg storable, Option.bind_none]

theorem EntryText.readLines_eq {e : Entry} (text : EntryText line e) (storable : e.value.storable = true)
    (ends : Break tail rest) {fuel : Nat} (enough : (line ++ tail).length ≤ fuel) :
    ∃ fuel', rest.length ≤ fuel' ∧ readLines fuel (line ++ tail) = (readLines fuel' rest).map (e :: ·) := by
  have read := text.readEntry_eq ends
  obtain ⟨-, -, -, begins⟩ := text
  obtain ⟨fuel', left, lines⟩ := begins.readLines_eq ends enough
  refine ⟨fuel', left, ?_⟩
  rw [lines, read, if_pos storable]
  rfl

theorem Trailer.readLines_eq (trailer : Trailer line) (ends : Break tail rest) {fuel : Nat}
    (enough : (line ++ tail).length ≤ fuel) :
    ∃ fuel', rest.length ≤ fuel' ∧ readLines fuel (line ++ tail) = readLines fuel' rest := by
  have read := trailer.readLineEnd_eq ends
  have shorter := ends.length_le
  cases whole : line ++ tail with
  | nil =>
    rw [whole] at read
    obtain rfl := Option.some.inj read
    exact ⟨0, Nat.le_refl 0, by simp [readLines]⟩
  | cons c s =>
    rw [whole] at read enough
    obtain ⟨fuel, rfl⟩ := Nat.exists_eq_add_one.mpr (Nat.zero_lt_of_lt enough)
    have size := congrArg List.length whole
    rw [List.length_append, List.length_cons] at size
    rw [List.length_cons] at enough
    refine ⟨fuel, by omega, ?_⟩
    rw [readLines, read]
    exact nofun

end Lines

section Documents

/-- The lines of a document in a row, with a line feed between them. -/
def joined (lines : List (List Char)) : List Char := ['\n'].intercalate lines

def document (lines : List (List Char)) : String := String.ofList (joined lines)

theorem joined_cons (line : List Char) (lines : List (List Char)) :
    ∃ tail, joined (line :: lines) = line ++ tail ∧ Break tail (joined lines) := by
  cases lines with
  | nil => exact ⟨[], by simp [joined, List.intercalate], .last⟩
  | cons next lines => exact ⟨'\n' :: joined (next :: lines), by simp [joined, List.intercalate], .next _⟩

variable {lines after : List (List Char)} {entries : List Entry}

theorem LinesText.append (texts : LinesText (lines ++ after) entries) :
    ∃ front behind, entries = front ++ behind ∧ LinesText lines front ∧ LinesText after behind := by
  induction lines generalizing entries with
  | nil => exact ⟨[], entries, rfl, .nil, texts⟩
  | cons line lines ih =>
    cases texts with
    | blank trailer more =>
      obtain ⟨front, behind, rfl, before, later⟩ := ih more
      exact ⟨front, behind, rfl, .blank trailer before, later⟩
    | entry text more =>
      obtain ⟨front, behind, rfl, before, later⟩ := ih more
      exact ⟨_ :: front, behind, rfl, .entry text before, later⟩

/-- Lines are read one by one, whatever lines come behind them. -/
theorem LinesText.readLines_eq (texts : LinesText lines entries) (storable : ∀ e ∈ entries, e.value.storable = true)
    {fuel : Nat} (enough : (joined (lines ++ after)).length ≤ fuel) :
    ∃ fuel', (joined after).length ≤ fuel' ∧
      readLines fuel (joined (lines ++ after)) = (readLines fuel' (joined after)).map (entries ++ ·) := by
  induction texts generalizing fuel with
  | nil => exact ⟨fuel, enough, by simp⟩
  | @blank line lines entries trailer _ ih =>
    obtain ⟨tail, whole, ends⟩ := joined_cons line (lines ++ after)
    rw [List.cons_append, whole] at enough ⊢
    obtain ⟨fuel, enough, read⟩ := trailer.readLines_eq ends enough
    rw [read]
    exact ih storable enough
  | @entry line lines e entries text _ ih =>
    obtain ⟨front, others⟩ := List.forall_mem_cons.mp storable
    obtain ⟨tail, whole, ends⟩ := joined_cons line (lines ++ after)
    rw [List.cons_append, whole] at enough ⊢
    obtain ⟨fuel, enough, read⟩ := text.readLines_eq front ends enough
    obtain ⟨fuel, enough, behind⟩ := ih others enough
    refine ⟨fuel, enough, ?_⟩
    rw [read, behind, Option.map_map]
    rfl

theorem LinesText.readLines_all (texts : LinesText lines entries) (storable : ∀ e ∈ entries, e.value.storable = true)
    {fuel : Nat} (enough : (joined lines).length ≤ fuel) : readLines fuel (joined lines) = some entries := by
  rw [← List.append_nil lines] at enough
  obtain ⟨fuel', -, read⟩ := texts.readLines_eq storable enough
  rw [List.append_nil] at read
  rw [read]
  simp [joined, List.intercalate, readLines]

def byteOrderMark : Char := '\uFEFF'

theorem skipMark_joined (heads : ∀ line ∈ lines, line.head? ≠ some byteOrderMark) :
    skipMark (joined lines) = joined lines := by
  cases lines with
  | nil => rfl
  | cons line lines =>
    obtain ⟨tail, whole, ends⟩ := joined_cons line lines
    rw [whole]
    cases line with
    | nil =>
      generalize joined lines = rest at ends
      cases ends <;> rfl
    | cons c line =>
      rw [List.cons_append, skipMark]
      rintro s same
      exact heads _ List.mem_cons_self (congrArg some (List.cons.inj same).1)

theorem head_ne_of_space (blanks : Blanks p) (solid : s.head? ≠ some byteOrderMark) :
    (p ++ s).head? ≠ some byteOrderMark := by
  cases p with
  | nil => exact solid
  | cons c p =>
    rintro ⟨⟩
    exact absurd (blanks _ List.mem_cons_self) (by decide)

theorem Trailer.head_ne (trailer : Trailer p) : p.head? ≠ some byteOrderMark := by
  cases trailer with
  | blanks blanks => exact List.append_nil p ▸ head_ne_of_space blanks nofun
  | comment blanks => exact head_ne_of_space blanks (by simp [byteOrderMark])

theorem KeyLine.head_ne {line : List Char} (begins : KeyLine key mark raw line) : line.head? ≠ some byteOrderMark := by
  obtain ⟨blanks, text, -⟩ := begins
  refine head_ne_of_space blanks ?_
  cases text with
  | bare some chars =>
    obtain ⟨c, q, rfl⟩ := List.exists_cons_of_ne_nil some
    rintro ⟨⟩
    exact absurd (chars _ List.mem_cons_self) (by decide)
  | quoted | literal => exact nofun

theorem LinesText.head_ne (texts : LinesText lines entries) : ∀ line ∈ lines, line.head? ≠ some byteOrderMark := by
  induction texts with
  | nil => exact nofun
  | blank trailer _ ih => exact List.forall_mem_cons.mpr ⟨trailer.head_ne, ih⟩
  | entry text _ ih =>
    obtain ⟨-, -, -, begins⟩ := text
    exact List.forall_mem_cons.mpr ⟨begins.head_ne, ih⟩

theorem LinesText.readDocument?_eq (texts : LinesText lines entries)
    (storable : ∀ e ∈ entries, e.value.storable = true) : readDocument? (document lines) = some entries := by
  rw [readDocument?, document, String.toList_ofList, skipMark_joined texts.head_ne]
  exact texts.readLines_all storable (Nat.le_refl _)

/-- Every document that is written is one. -/
theorem linesText_write (bare : ∀ e ∈ entries, e.key.toList ≠ [] ∧ ∀ c ∈ e.key.toList, isBareKeyChar c = true) :
    ∃ lines, LinesText lines entries ∧ document lines = writeDocument entries := by
  have written : ∃ lines, LinesText lines entries ∧ lines ≠ [] ∧ joined lines = entries.flatMap Entry.toChars := by
    induction entries with
    | nil => exact ⟨[[]], .blank (.blanks nofun) .nil, List.cons_ne_nil _ _, rfl⟩
    | cons e entries ih =>
      obtain ⟨⟨some, chars⟩, others⟩ := List.forall_mem_cons.mp bare
      obtain ⟨lines, texts, more, same⟩ := ih others
      have text : EntryText (e.key.toList ++ " = ".toList ++ e.value.toChars) e := by
        have key := KeyText.bare some chars
        rw [String.ofList_toList] at key
        have none : Blanks [] := nofun
        have blanks : Blanks [' '] := by simp [Blanks, isSpace]
        have begins : KeyLine e.key '=' ([' '] ++ (e.value.toChars ++ [])) _ := .mk none key blanks
        have line := EntryText.mk blanks (valueText_toChars e.value) (.blanks none) begins
        simpa using line
      refine ⟨_, .entry text texts, List.cons_ne_nil _ _, ?_⟩
      obtain ⟨next, lines, rfl⟩ := List.exists_cons_of_ne_nil more
      rw [List.flatMap_cons, ← same, Entry.toChars]
      simp [joined, List.intercalate]
  obtain ⟨lines, texts, -, same⟩ := written
  exact ⟨lines, texts, congrArg String.ofList same⟩

end Documents

end Toml
end DeliveryProbe
