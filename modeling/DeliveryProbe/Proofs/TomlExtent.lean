import DeliveryProbe.Proofs.TomlLines
import DeliveryProbe.Text.Occurrence

/-! How far values reach, whether they are well formed or not. No value goes on in the next line but a string in triple
quotes that is still open, and what a value begins with tells of which kind it is. -/
namespace DeliveryProbe
namespace Toml

variable {p s r rest tail raw : List Char} {key : String} {v : Value}

/-- What is left behind some characters, none of which is a line feed. -/
def Within (s r : List Char) : Prop := ∃ front, s = front ++ r ∧ '\n' ∉ front

/-- What is left behind the first line. -/
def NextLine (s rest : List Char) : Prop := ∃ line tail, s = line ++ tail ∧ '\n' ∉ line ∧ Break tail rest

theorem Within.refl (s : List Char) : Within s s := ⟨[], rfl, List.not_mem_nil⟩

theorem Within.cons {c : Char} (other : c ≠ '\n') (within : Within s r) : Within (c :: s) r := by
  obtain ⟨front, rfl, free⟩ := within
  exact ⟨c :: front, rfl, List.not_mem_cons_of_ne_of_not_mem other.symm free⟩

theorem Within.trans (first : Within s r) (second : Within r rest) : Within s rest := by
  obtain ⟨front, rfl, free⟩ := first
  obtain ⟨front', rfl, free'⟩ := second
  exact ⟨front ++ front', (List.append_assoc ..).symm, List.not_mem_append free free'⟩

theorem Within.nextLine (within : Within s r) (next : NextLine r rest) : NextLine s rest := by
  obtain ⟨front, rfl, free⟩ := within
  obtain ⟨line, tail, rfl, free', ends⟩ := next
  exact ⟨front ++ line, tail, (List.append_assoc ..).symm, List.not_mem_append free free', ends⟩

theorem NextLine.unique {rest' : List Char} (next : NextLine s rest) (next' : NextLine s rest') : rest = rest' := by
  obtain ⟨line, tail, rfl, free, ends⟩ := next
  obtain ⟨line', tail', same, free', ends'⟩ := next'
  cases ends with
  | last =>
    cases ends' with
    | last => rfl
    | next =>
      rw [List.append_nil] at same
      exact absurd (same ▸ List.mem_append_right line' List.mem_cons_self) free
  | next =>
    cases ends' with
    | last =>
      rw [List.append_nil] at same
      exact absurd (same ▸ List.mem_append_right line List.mem_cons_self) free'
    | next => exact (Text.append_cons_inj_of_first free free' same).2

theorem within_dropWhile {q : Char → Bool} (other : q '\n' = false) (s : List Char) : Within s (s.dropWhile q) := by
  refine ⟨s.takeWhile q, (List.takeWhile_append_dropWhile).symm, ?_⟩
  intro member
  exact absurd (List.mem_takeWhile_imp member) (Bool.eq_false_iff.mp other)

theorem nextLine_of_readNewline (read : readNewline s = some rest) : NextLine s rest := by
  unfold readNewline at read
  split at read
  · obtain rfl := Option.some.inj read
    exact ⟨[], _, rfl, List.not_mem_nil, .next _⟩
  · obtain rfl := Option.some.inj read
    exact ⟨['\x0d'], _, rfl, by decide, .next _⟩
  · contradiction

theorem nextLine_of_readLineEnd (read : readLineEnd s = some rest) : NextLine s rest := by
  have blanks : Within s (skipSpace s) := within_dropWhile rfl s
  have comment {t : List Char} (begins : skipSpace s = '#' :: t) : Within s (t.dropWhile isPlain) := by
    rw [begins] at blanks
    exact blanks.trans ((within_dropWhile rfl t).cons (by decide))
  have last : NextLine [] [] := ⟨[], [], rfl, List.not_mem_nil, .last⟩
  unfold readLineEnd at read
  dsimp only at read
  split at read
  · next none =>
    obtain rfl := Option.some.inj read
    split at none
    · next begins => exact (none ▸ comment begins).nextLine last
    · exact (none ▸ blanks).nextLine last
  · split at read
    · next begins => exact (comment begins).nextLine (nextLine_of_readNewline read)
    · exact blanks.nextLine (nextLine_of_readNewline read)

/-- A reader that turns what another one reads into something else. -/
theorem read_of_map {α β : Type} {read : Option (α × List Char)} {f : α → β} {b : β}
    (same : (read.map fun (a, rest) => (f a, rest)) = some (b, r)) : ∃ a, read = some (a, r) ∧ b = f a := by
  obtain ⟨⟨a, left⟩, read, same⟩ := Option.map_eq_some_iff.mp same
  obtain ⟨rfl, rfl⟩ := Prod.mk.inj same
  exact ⟨a, read, rfl⟩

section Strings
variable {text : List Char}

theorem hexDigits_of_hexValue? {ds : List Char} {n : Nat} (value : hexValue? ds = some n) :
    ∀ c ∈ ds, digitValueIn? 16 c ≠ none := by
  have each {acc : Nat} (fold : ds.foldlM (fun acc c => (digitValueIn? 16 c).map (16 * acc + ·)) acc = some n) :
      ∀ c ∈ ds, digitValueIn? 16 c ≠ none := by
    clear value
    induction ds generalizing acc with
    | nil => exact nofun
    | cons c ds ih =>
      rw [List.foldlM_cons] at fold
      obtain ⟨next, digit, fold⟩ := Option.bind_eq_some_iff.mp fold
      obtain ⟨d, digit, -⟩ := Option.map_eq_some_iff.mp digit
      exact List.forall_mem_cons.mpr ⟨Option.ne_none_iff_exists'.mpr ⟨d, digit⟩, ih fold⟩
  exact each value

theorem readCode_within {width : Nat} {c : Char} (read : readEscape.readCode width s = some (c, r)) : Within s r := by
  obtain ⟨-, read⟩ := Option.ite_none_left_eq_some.mp read
  obtain ⟨c, value, same⟩ := Option.map_eq_some_iff.mp read
  obtain ⟨-, rfl⟩ := Prod.mk.inj same
  obtain ⟨n, value, -⟩ := Option.bind_eq_some_iff.mp value
  exact ⟨s.take width, (List.take_append_drop width s).symm, fun member => hexDigits_of_hexValue? value _ member rfl⟩

theorem readEscape_within {c : Char} (read : readEscape s = some (c, r)) : Within s r := by
  unfold readEscape at read
  split at read
  case h_10 => contradiction
  case h_8 | h_9 => exact (readCode_within read).cons (by decide)
  all_goals
    obtain ⟨-, rfl⟩ := Prod.mk.inj (Option.some.inj read)
    exact (Within.refl _).cons (by decide)

theorem readBasic_within {fuel : Nat} (read : readBasic fuel s = some (text, r)) : Within s r := by
  fun_induction readBasic fuel s generalizing text with
  | case1 | case2 | case5 | case7 => contradiction
  | case3 =>
    obtain ⟨-, rfl⟩ := Prod.mk.inj (Option.some.inj read)
    exact (Within.refl _).cons (by decide)
  | case4 fuel s c s' escape ih =>
    obtain ⟨more, read, -⟩ := read_of_map read
    exact ((readEscape_within escape).trans (ih read)).cons (by decide)
  | case6 fuel c s _ _ plain ih =>
    obtain ⟨more, read, -⟩ := read_of_map read
    exact (ih read).cons (by rintro rfl; contradiction)

theorem readLiteral_within (read : readLiteral s = some (text, r)) : Within s r := by
  fun_induction readLiteral s generalizing text with
  | case1 | case4 => contradiction
  | case2 =>
    obtain ⟨-, rfl⟩ := Prod.mk.inj (Option.some.inj read)
    exact (Within.refl _).cons (by decide)
  | case3 c s _ plain ih =>
    obtain ⟨more, read, -⟩ := read_of_map read
    exact (ih read).cons (by rintro rfl; contradiction)

end Strings

section Integers
variable {radix n : Nat}

/-- What is passed over in reading digits: those, and underscores. -/
def Passed (radix : Nat) (s r : List Char) : Prop :=
  ∃ front, s = front ++ r ∧ ∀ c ∈ front, c = '_' ∨ digitValueIn? radix c ≠ none

theorem spanDigits_passed (radix : Nat) (s : List Char) : Passed radix s (spanDigits radix s).2 := by
  have cons {c : Char} {s r : List Char} (digit : c = '_' ∨ digitValueIn? radix c ≠ none) (passed : Passed radix s r) :
      Passed radix (c :: s) r := by
    obtain ⟨front, rfl, all⟩ := passed
    exact ⟨c :: front, rfl, List.forall_mem_cons.mpr ⟨digit, all⟩⟩
  have refl (s : List Char) : Passed radix s s := ⟨[], rfl, nofun⟩
  fun_induction spanDigits radix s with
  | case1 c s d digit ds rest span ih =>
    rw [span] at ih
    exact cons (.inl rfl) (cons (.inr (Option.ne_none_iff_exists'.mpr ⟨d, digit⟩)) ih)
  | case3 c s _ d digit ds rest span ih =>
    rw [span] at ih
    exact cons (.inr (Option.ne_none_iff_exists'.mpr ⟨d, digit⟩)) ih
  | case2 | case4 | case5 => exact refl _

theorem readRadix_passed (read : readRadix radix s = some (n, r)) : Passed radix s r := by
  unfold readRadix at read
  split at read
  · contradiction
  · split at read
    · contradiction
    · next ds rest _ span =>
      obtain ⟨-, rfl⟩ := Prod.mk.inj (Option.some.inj read)
      have passed := spanDigits_passed radix s
      rw [span] at passed
      exact passed

theorem readDecimal_passed (read : readDecimal s = some (n, r)) : Passed 10 s r := by
  unfold readDecimal at read
  split at read
  · obtain ⟨-, rfl⟩ := Prod.mk.inj (Option.some.inj read)
    exact ⟨['0'], rfl, List.forall_mem_singleton.mpr (.inr nofun)⟩
  · exact readRadix_passed read

theorem Passed.within (passed : Passed radix s r) : Within s r := by
  obtain ⟨front, rfl, all⟩ := passed
  refine ⟨front, rfl, fun member => ?_⟩
  rcases all _ member with same | digit
  · contradiction
  · exact digit rfl

theorem readInteger_within {n : Int} (read : readInteger s = some (n, r)) : Within s r := by
  unfold readInteger at read
  obtain ⟨read, -⟩ := Option.filter_eq_some_iff.mp read
  split at read
  case h_1 | h_2 | h_3 =>
    obtain ⟨m, read, -⟩ := read_of_map read
    exact ((readRadix_passed read).within.cons (by decide)).cons (by decide)
  case h_4 =>
    obtain ⟨m, read, -⟩ := read_of_map read
    exact (readDecimal_passed read).within.cons (by decide)
  case h_5 =>
    obtain ⟨m, read, -⟩ := read_of_map (f := fun n : Nat => -(n : Int)) read
    exact (readDecimal_passed read).within.cons (by decide)
  case h_6 =>
    obtain ⟨m, read, -⟩ := read_of_map read
    exact (readDecimal_passed read).within

/-- Whatever decimal number comes first, a value of another kind goes on behind it. -/
theorem readDecimal_stops {digits : List Char} (all : ∀ c ∈ digits, c = '_' ∨ c.isDigit = true) {mark : Char}
    (other : mark ∈ ['.', 'e', 'E', '-', ':']) (read : readDecimal (digits ++ mark :: s) = some (n, r)) :
    readLineEnd r = none := by
  have solid {c : Char} {s : List Char} (space : isSpace c = false) (inside : c ∉ ['#', '\n', '\x0d']) :
      readLineEnd (c :: s) = none :=
    readLineEnd_eq_none (Blanks.skip_cons (p := []) nofun space s) inside
  obtain ⟨front, same, passed⟩ := readDecimal_passed read
  simp only [List.mem_cons, List.not_mem_nil, or_false] at other
  have free : mark ∉ front := by
    intro member
    rcases passed _ member with rfl | digit
    · simp at other
    · rcases other with rfl | rfl | rfl | rfl | rfl <;> exact digit rfl
  obtain ⟨behind, rfl, rfl⟩ := Text.behind_of_not_mem free same
  cases behind with
  | nil => rcases other with rfl | rfl | rfl | rfl | rfl <;> exact solid rfl (by decide)
  | cons c behind =>
    rcases all c (List.mem_append_right front List.mem_cons_self) with rfl | digit
    · exact solid rfl (by decide)
    · refine solid (unmarked_of_digit (digitValueIn?_of_isDigit digit)).2 fun member => ?_
      simp only [List.mem_cons, List.not_mem_nil, or_false] at member
      rcases member with rfl | rfl | rfl <;> contradiction

end Integers

section Extent
variable {quote : Char} {text : List Char}

/-- A value in which no string in triple quotes stays open. -/
def Closed (s : List Char) : Prop :=
  startsTriple '"' s = true ∨ startsTriple '\'' s = true → (readString s).isSome

theorem readValue_within (single : startsTriple '"' s = false) (single' : startsTriple '\'' s = false)
    (read : readValue s = some (v, r)) : Within s r := by
  have string {t : String} (read : readString s = some (t, r)) : Within s r := by
    unfold readString at read
    dsimp only at read
    rw [single, single', if_neg Bool.false_ne_true, if_neg Bool.false_ne_true] at read
    obtain ⟨text, read, -⟩ := read_of_map read
    split at read
    · exact (readBasic_within read).cons (by decide)
    · exact (readLiteral_within read).cons (by decide)
    · contradiction
  unfold readValue at read
  split at read
  case h_1 | h_2 =>
    obtain ⟨t, read, -⟩ := read_of_map read
    exact string read
  case h_3 =>
    obtain ⟨-, rfl⟩ := Prod.mk.inj (Option.some.inj read)
    exact ⟨"true".toList, rfl, by decide⟩
  case h_4 =>
    obtain ⟨-, rfl⟩ := Prod.mk.inj (Option.some.inj read)
    exact ⟨"false".toList, rfl, by decide⟩
  case h_5 =>
    obtain ⟨n, read, -⟩ := read_of_map read
    exact readInteger_within read

theorem readNewline_eq_none (free : '\n' ∉ s) : readNewline s = none := by
  cases read : readNewline s with
  | none => rfl
  | some rest =>
    unfold readNewline at read
    split at read
    · exact absurd List.mem_cons_self free
    · exact absurd (List.mem_cons_of_mem _ List.mem_cons_self) free
    · contradiction

theorem readNewline_plain {c : Char} (plain : isPlain c = true) (s : List Char) : readNewline (c :: s) = none := by
  rw [readNewline]
  · rintro _ same
    obtain ⟨rfl, -⟩ := List.cons.inj same
    contradiction
  · rintro _ same
    obtain ⟨rfl, -⟩ := List.cons.inj same
    contradiction

theorem startsTriple_iff : startsTriple quote s = true ↔ ∃ t, s = quote :: quote :: quote :: t := by
  rw [startsTriple, List.isPrefixOf_iff_prefix]
  exact exists_congr fun t => eq_comm

/-- The end of the line is no quote. -/
theorem startsTriple_append (other : quote ≠ '\n') (ends : Break tail rest) (s : List Char) :
    startsTriple quote (s ++ tail) = startsTriple quote s := by
  rcases s with _ | ⟨a, _ | ⟨b, _ | ⟨c, s⟩⟩⟩ <;> cases ends <;> simp [startsTriple, List.isPrefixOf, other]

theorem closingQuotes_append (other : quote ≠ '\n') (ends : Break tail rest) (s : List Char) :
    closingQuotes quote (s ++ tail) = ((closingQuotes quote s).1, (closingQuotes quote s).2 ++ tail) := by
  rcases s with _ | ⟨a, _ | ⟨b, s⟩⟩
  · cases ends with
    | last => rfl
    | next => cases rest <;> simp [closingQuotes, other.symm]
  · cases ends with
    | last => simp
    | next => by_cases same : a = quote <;> simp [closingQuotes, same, other.symm]
  · by_cases same : a = quote <;> by_cases same' : b = quote <;> simp [closingQuotes, same, same']

theorem closingQuotes_split (quote : Char) (s : List Char) :
    (closingQuotes quote s).1 ++ (closingQuotes quote s).2 = s := by
  rcases s with _ | ⟨a, _ | ⟨b, s⟩⟩
  · rfl
  · by_cases same : a = quote <;> simp [closingQuotes, same]
  · by_cases same : a = quote <;> by_cases same' : b = quote <;> simp [closingQuotes, same, same']

theorem readCode_append {width : Nat} {c : Char} (read : readEscape.readCode width s = some (c, r)) (tail : List Char) :
    readEscape.readCode width (s ++ tail) = some (c, r ++ tail) := by
  obtain ⟨long, read⟩ := Option.ite_none_left_eq_some.mp read
  obtain ⟨c, value, same⟩ := Option.map_eq_some_iff.mp read
  obtain ⟨rfl, rfl⟩ := Prod.mk.inj same
  have enough : width ≤ s.length := Nat.not_lt.mp long
  have longer : ¬ (s ++ tail).length < width := by
    rw [List.length_append]
    omega
  rw [readEscape.readCode, if_neg longer, List.take_append_of_le_length enough, List.drop_append_of_le_length enough,
    value]
  rfl

theorem readEscape_append {c : Char} (read : readEscape s = some (c, r)) (tail : List Char) :
    readEscape (s ++ tail) = some (c, r ++ tail) := by
  unfold readEscape at read
  split at read
  case h_10 => contradiction
  case h_8 | h_9 => exact readCode_append read tail
  all_goals
    obtain ⟨rfl, rfl⟩ := Prod.mk.inj (Option.some.inj read)
    rfl

theorem Within.free (within : Within s r) (free : '\n' ∉ s) : '\n' ∉ r := by
  obtain ⟨front, rfl, -⟩ := within
  exact fun member => free (List.mem_append_right front member)

/-- A string that is closed in its line is read for the same with other lines behind it. -/
theorem readMultiline_append {escapes : Bool} {fuel fuel' : Nat} (other : quote ≠ '\n') (free : '\n' ∉ s)
    (ends : Break tail rest) (read : readMultiline quote escapes fuel s = some (text, r)) (more : fuel ≤ fuel') :
    readMultiline quote escapes fuel' (s ++ tail) = some (text, r ++ tail) ∧ '\n' ∉ r := by
  fun_induction readMultiline quote escapes fuel s generalizing text fuel' with
  | case1 | case2 | case6 | case9 => contradiction
  | case3 fuel c s triple =>
    -- Up to five quotes are the end of the string, so that those in the next line must not be among them.
    obtain ⟨fuel', rfl⟩ := Nat.exists_eq_add_one.mpr (Nat.zero_lt_of_lt more)
    have enough : 2 ≤ s.length := by
      obtain ⟨t, same⟩ := startsTriple_iff.mp triple
      rw [(List.cons.inj same).2]
      exact Nat.le_add_left 2 t.length
    have same := Option.some.inj read
    have split := closingQuotes_split quote (s.drop 2)
    rw [same] at split
    refine ⟨?_, fun member => free ?_⟩
    · rw [List.cons_append, readMultiline, ← List.cons_append, startsTriple_append other ends, if_pos triple,
        List.drop_append_of_le_length enough, closingQuotes_append other ends, same]
    · exact List.mem_cons_of_mem c (List.mem_of_mem_drop (split ▸ List.mem_append_right text member))
  | case4 fuel c s kept escape e s' read' ih =>
    obtain ⟨fuel', rfl⟩ := Nat.exists_eq_add_one.mpr (Nat.zero_lt_of_lt more)
    obtain ⟨content, inner, rfl⟩ := read_of_map read
    have behind := (readEscape_within read').free fun member => free (List.mem_cons_of_mem c member)
    obtain ⟨longer, free⟩ := ih behind inner (Nat.le_of_succ_le_succ more)
    refine ⟨?_, free⟩
    rw [List.cons_append, readMultiline, ← List.cons_append, startsTriple_append other ends, if_neg kept, if_pos escape,
      readEscape_append read']
    dsimp only
    rw [longer]
    rfl
  | case5 fuel c s kept escape s' join _ ih =>
    have blanks : Within s (skipSpace s) := within_dropWhile rfl s
    have behind := blanks.free fun member => free (List.mem_cons_of_mem c member)
    rw [skipLineJoin, readNewline_eq_none behind] at join
    contradiction
  | case7 fuel c s kept plain s' newline ih =>
    rw [readNewline_eq_none free] at newline
    contradiction
  | case8 fuel c s kept unescaped newline plain ih =>
    obtain ⟨fuel', rfl⟩ := Nat.exists_eq_add_one.mpr (Nat.zero_lt_of_lt more)
    obtain ⟨content, inner, rfl⟩ := read_of_map read
    obtain ⟨longer, free⟩ := ih (fun member => free (List.mem_cons_of_mem c member)) inner (Nat.le_of_succ_le_succ more)
    refine ⟨?_, free⟩
    rw [List.cons_append, readMultiline, ← List.cons_append, startsTriple_append other ends, if_neg kept,
      if_neg unescaped, List.cons_append, readNewline_plain plain]
    dsimp only
    rw [if_pos plain, longer]
    rfl

/-- A string of more than one line begins with a plain character, if not with the end of a line. -/
theorem readMultiline_first {escapes : Bool} {fuel : Nat} (plain : isPlain quote = true) (free : '\n' ∉ s)
    (read : readMultiline quote escapes fuel s = some (text, r)) : ∃ c t, s = c :: t ∧ isPlain c = true := by
  fun_induction readMultiline quote escapes fuel s generalizing text with
  | case1 | case2 | case6 | case9 => contradiction
  | case3 fuel c s triple =>
    obtain ⟨t, same⟩ := startsTriple_iff.mp triple
    exact ⟨c, s, rfl, (List.cons.inj same).1 ▸ plain⟩
  | case4 fuel c s _ escape | case5 fuel c s _ escape => exact ⟨c, s, rfl, escape.2 ▸ rfl⟩
  | case7 fuel c s _ _ s' newline =>
    rw [readNewline_eq_none free] at newline
    contradiction
  | case8 fuel c s _ _ _ plain => exact ⟨c, s, rfl, plain⟩

theorem readString_triple (other : quote ∈ ['"', '\'']) :
    ∃ escapes, ∀ s, readString (quote :: quote :: quote :: s) =
      (readMultiline quote escapes ((skipFirstNewline s).length + 1) (skipFirstNewline s)).map
        fun (text, rest) => (String.ofList text, rest) := by
  simp only [List.mem_cons, List.not_mem_nil, or_false] at other
  rcases other with rfl | rfl
  · exact ⟨true, fun _ => rfl⟩
  · exact ⟨false, fun _ => rfl⟩

theorem readString_append (other : quote ∈ ['"', '\'']) (triple : startsTriple quote s = true) {t : String}
    (free : '\n' ∉ s) (ends : Break tail rest) (read : readString s = some (t, r)) :
    readString (s ++ tail) = some (t, r ++ tail) ∧ '\n' ∉ r := by
  obtain ⟨s, rfl⟩ := startsTriple_iff.mp triple
  have inside : '\n' ∉ s := fun member => free (by simp [member])
  have quotes : isPlain quote = true ∧ quote ≠ '\n' := by
    simp only [List.mem_cons, List.not_mem_nil, or_false] at other
    rcases other with rfl | rfl <;> decide
  have alone : skipFirstNewline s = s := by rw [skipFirstNewline, readNewline_eq_none inside, Option.getD_none]
  obtain ⟨escapes, same⟩ := readString_triple other
  rw [same, alone] at read
  obtain ⟨text, inner, rfl⟩ := read_of_map read
  obtain ⟨c, u, rfl, plain⟩ := readMultiline_first quotes.1 inside inner
  have followed : skipFirstNewline (c :: u ++ tail) = c :: u ++ tail := by
    rw [skipFirstNewline, List.cons_append, readNewline_plain plain, Option.getD_none]
  have more : (c :: u).length + 1 ≤ (c :: u ++ tail).length + 1 := by
    rw [List.length_append]
    omega
  obtain ⟨longer, free⟩ := readMultiline_append quotes.2 inside ends inner more
  have whole : quote :: quote :: quote :: c :: u ++ tail = quote :: quote :: quote :: (c :: u ++ tail) := rfl
  refine ⟨?_, free⟩
  rw [whole, same, followed, longer]
  rfl

theorem skipSpace_append (ends : Break tail rest) (s : List Char) : skipSpace (s ++ tail) = skipSpace s ++ tail := by
  rw [skipSpace, List.dropWhile_append]
  split
  · next none =>
    rw [skipSpace, List.isEmpty_iff.mp none]
    cases ends <;> rfl
  · rfl

theorem readValue_quoted (other : quote ∈ ['"', '\'']) (s : List Char) :
    readValue (quote :: s) = (readString (quote :: s)).map fun (text, rest) => (.string text, rest) := by
  simp only [List.mem_cons, List.not_mem_nil, or_false] at other
  rcases other with rfl | rfl <;> rfl

/-- A closed value, if it is read at all, is read within its line. -/
theorem eq_of_readValue (free : '\n' ∉ raw) (closed : Closed (skipSpace raw)) (ends : Break tail rest)
    (read : readValue (skipSpace (raw ++ tail)) = some (v, r)) {rest' : List Char} (after : readLineEnd r = some rest') :
    rest' = rest := by
  have blanks : Within raw (skipSpace raw) := within_dropWhile rfl raw
  have free := blanks.free free
  rw [skipSpace_append ends] at read
  generalize skipSpace raw = s at closed read free
  have next := nextLine_of_readLineEnd after
  have triple {quote : Char} (other : quote ∈ ['"', '\'']) (triple : startsTriple quote s = true)
      (closed : (readString s).isSome) : rest' = rest := by
    obtain ⟨⟨t, left⟩, alone⟩ := Option.isSome_iff_exists.mp closed
    obtain ⟨longer, kept⟩ := readString_append other triple free ends alone
    obtain ⟨u, rfl⟩ := startsTriple_iff.mp triple
    rw [List.cons_append, readValue_quoted other, ← List.cons_append, longer] at read
    obtain ⟨-, rfl⟩ := Prod.mk.inj (Option.some.inj read)
    exact next.unique ⟨left, tail, rfl, kept, ends⟩
  by_cases double : startsTriple '"' s = true
  · exact triple (by decide) double (closed (.inl double))
  by_cases single : startsTriple '\'' s = true
  · exact triple (by decide) single (closed (.inr single))
  have within : Within (s ++ tail) r := by
    refine readValue_within ?_ ?_ read
    · rw [startsTriple_append (by decide) ends]
      exact Bool.eq_false_iff.mpr double
    · rw [startsTriple_append (by decide) ends]
      exact Bool.eq_false_iff.mpr single
  exact (within.nextLine next).unique ⟨s, tail, rfl, free, ends⟩

end Extent

section Kinds

/-- The kinds of the values that TOML has. -/
inductive Kind where
  | string
  | integer
  | float
  | boolean
  | dateTime
  | array
  | table
  deriving DecidableEq

def Value.kind : Value → Kind
  | .string _ => .string
  | .integer _ => .integer
  | .boolean _ => .boolean

def signs : List (List Char) := [[], ['+'], ['-']]

/-- What every value of a kind begins with. -/
inductive Begins : Kind → List Char → Prop where
  | string {quote : Char} (either : quote ∈ ['"', '\'']) (s : List Char) : Begins .string (quote :: s)
  | integer {sign : List Char} (signed : sign ∈ signs) {c : Char} (digit : c.isDigit = true) (s : List Char) :
      Begins .integer (sign ++ c :: s)
  | float {sign digits : List Char} (signed : sign ∈ signs) {c : Char} (digit : c.isDigit = true)
      (all : ∀ c ∈ digits, c = '_' ∨ c.isDigit = true) {mark : Char} (goesOn : mark ∈ ['.', 'e', 'E']) (s : List Char) :
      Begins .float (sign ++ c :: (digits ++ mark :: s))
  | unbounded {sign : List Char} (signed : sign ∈ signs) {word : List Char}
      (listed : word ∈ ["inf".toList, "nan".toList]) (s : List Char) : Begins .float (sign ++ word ++ s)
  | boolean (b : Bool) (s : List Char) : Begins .boolean ((if b then "true" else "false").toList ++ s)
  | dateTime {digits : List Char} {c : Char} (digit : c.isDigit = true) (all : ∀ c ∈ digits, c.isDigit = true)
      {mark : Char} (goesOn : mark ∈ ['-', ':']) (s : List Char) : Begins .dateTime (c :: (digits ++ mark :: s))
  | array (s : List Char) : Begins .array ('[' :: s)
  | table (s : List Char) : Begins .table ('\x7b' :: s)

theorem Begins.append {kind : Kind} (begins : Begins kind s) (tail : List Char) : Begins kind (s ++ tail) := by
  cases begins with
  | string either => exact .string either _
  | integer signed digit =>
    rw [List.append_assoc]
    exact .integer signed digit _
  | float signed digit all goesOn =>
    simp only [List.append_assoc, List.cons_append]
    exact .float signed digit all goesOn _
  | unbounded signed listed =>
    rw [List.append_assoc]
    exact .unbounded signed listed _
  | boolean b =>
    rw [List.append_assoc]
    exact .boolean b _
  | dateTime digit all goesOn =>
    simp only [List.append_assoc, List.cons_append]
    exact .dateTime digit all goesOn _
  | array => exact .array _
  | table => exact .table _

theorem Begins.first {kind : Kind} (begins : Begins kind s) : ∃ c t, s = c :: t ∧ isSpace c = false := by
  have number {sign : List Char} (signed : sign ∈ signs) {c : Char} (digit : c.isDigit = true) (t : List Char) :
      ∃ d u, sign ++ c :: t = d :: u ∧ isSpace d = false := by
    simp only [signs, List.mem_cons, List.not_mem_nil, or_false] at signed
    rcases signed with rfl | rfl | rfl
    · exact ⟨c, t, rfl, (unmarked_of_digit (digitValueIn?_of_isDigit digit)).2⟩
    · exact ⟨_, _, rfl, rfl⟩
    · exact ⟨_, _, rfl, rfl⟩
  cases begins with
  | string either =>
    simp only [List.mem_cons, List.not_mem_nil, or_false] at either
    rcases either with rfl | rfl <;> exact ⟨_, _, rfl, rfl⟩
  | integer signed digit | float signed digit => exact number signed digit _
  | unbounded signed listed =>
    simp only [signs, List.mem_cons, List.not_mem_nil, or_false] at signed listed
    rcases signed with rfl | rfl | rfl <;> rcases listed with rfl | rfl <;> exact ⟨_, _, rfl, rfl⟩
  | boolean b => cases b <;> exact ⟨_, _, rfl, rfl⟩
  | dateTime digit =>
    have signless : [] ∈ signs := by decide
    exact number signless digit _
  | array | table => exact ⟨_, _, rfl, rfl⟩

theorem readInteger_signed {sign : List Char} (signed : sign ∈ signs) {c : Char} (digit : c.isDigit = true)
    (decimal : ∀ d ∈ s.head?, d ∉ ['x', 'o', 'b']) :
    ∃ f : Nat → Int, readInteger (sign ++ c :: s) = ((readDecimal (c :: s)).map fun (n, rest) => (f n, rest)).filter
      fun (n, _) => minInteger ≤ n && n ≤ maxInteger := by
  simp only [signs, List.mem_cons, List.not_mem_nil, or_false] at signed
  rcases signed with rfl | rfl | rfl
  · have unsigned : c ≠ '+' ∧ c ≠ '-' := by constructor <;> rintro rfl <;> contradiction
    exact ⟨_, readInteger_unsigned unsigned fun _ => decimal⟩
  · exact ⟨fun n => n, rfl⟩
  · exact ⟨fun n => -n, rfl⟩

/-- A sign and a digit begin a decimal number. -/
theorem readDecimal_of_readInteger {sign : List Char} (signed : sign ∈ signs) {c : Char} (digit : c.isDigit = true)
    (decimal : ∀ d ∈ s.head?, d ∉ ['x', 'o', 'b']) {n : Int} (read : readInteger (sign ++ c :: s) = some (n, r)) :
    ∃ m, readDecimal (c :: s) = some (m, r) := by
  obtain ⟨f, same⟩ := readInteger_signed signed digit decimal
  rw [same] at read
  obtain ⟨read, -⟩ := Option.filter_eq_some_iff.mp read
  obtain ⟨m, read, -⟩ := read_of_map read
  exact ⟨m, read⟩

/-- A sign and a digit begin a value that is read as an integer. -/
theorem readInteger_of_readValue {sign : List Char} (signed : sign ∈ signs) {c : Char} (digit : c.isDigit = true)
    (read : readValue (sign ++ c :: s) = some (v, r)) :
    ∃ n, v = .integer n ∧ readInteger (sign ++ c :: s) = some (n, r) := by
  have first : ∃ d t, sign ++ c :: s = d :: t ∧ d ∉ marked := by
    simp only [signs, List.mem_cons, List.not_mem_nil, or_false] at signed
    rcases signed with rfl | rfl | rfl
    · exact ⟨c, s, rfl, (unmarked_of_digit (digitValueIn?_of_isDigit digit)).1⟩
    · exact ⟨_, _, rfl, by decide⟩
    · exact ⟨_, _, rfl, by decide⟩
  obtain ⟨d, t, whole, unmarked⟩ := first
  rw [whole, readValue_integer unmarked] at read
  rw [whole]
  obtain ⟨n, number, rfl⟩ := read_of_map read
  exact ⟨n, rfl, number⟩

/-- A value that is read up to the end of its line is of the kind that its beginning shows. -/
theorem Begins.kind_eq {kind : Kind} (begins : Begins kind s) (read : readValue s = some (v, r))
    (ends : readLineEnd r ≠ none) : v.kind = kind := by
  -- What is read of a number ends in front of its mark, which does not end the line.
  have stops {sign digits s : List Char} (signed : sign ∈ signs) {c : Char} (digit : c.isDigit = true)
      (all : ∀ c ∈ digits, c = '_' ∨ c.isDigit = true) {mark : Char} (goesOn : mark ∈ ['.', 'e', 'E', '-', ':'])
      (read : readValue (sign ++ c :: (digits ++ mark :: s)) = some (v, r)) : False := by
    have decimal : ∀ d ∈ (digits ++ mark :: s).head?, d ∉ ['x', 'o', 'b'] := by
      intro d first member
      simp only [List.mem_cons, List.not_mem_nil, or_false] at goesOn member
      cases digits with
      | nil =>
        obtain rfl : mark = d := Option.some.inj first
        rcases member with rfl | rfl | rfl <;> simp at goesOn
      | cons c digits =>
        obtain rfl : c = d := Option.some.inj first
        rcases member with rfl | rfl | rfl <;> exact absurd (all _ List.mem_cons_self) (by decide)
    obtain ⟨n, -, read⟩ := readInteger_of_readValue signed digit read
    obtain ⟨m, read⟩ := readDecimal_of_readInteger signed digit decimal read
    have all : ∀ d ∈ c :: digits, d = '_' ∨ d.isDigit = true := List.forall_mem_cons.mpr ⟨.inr digit, all⟩
    exact ends (readDecimal_stops all goesOn read)
  cases begins with
  | string either =>
    rw [readValue_quoted either] at read
    obtain ⟨text, -, rfl⟩ := read_of_map read
    rfl
  | integer signed digit =>
    obtain ⟨n, rfl, -⟩ := readInteger_of_readValue signed digit read
    rfl
  | float signed digit all goesOn =>
    exact (stops signed digit all (List.mem_append_left ['-', ':'] goesOn) read).elim
  | unbounded signed listed =>
    simp only [signs, List.mem_cons, List.not_mem_nil, or_false] at signed listed
    rcases signed with rfl | rfl | rfl <;> rcases listed with rfl | rfl <;> contradiction
  | boolean b => cases b <;> obtain ⟨rfl, -⟩ := Prod.mk.inj (Option.some.inj read) <;> rfl
  | dateTime digit all goesOn =>
    have signless : [] ∈ signs := by decide
    have goesOn := List.mem_append_right ['.', 'e', 'E'] goesOn
    exact (stops signless digit (fun c member => .inr (all c member)) goesOn read).elim
  | array => contradiction
  | table => contradiction

end Kinds

end Toml
end DeliveryProbe
