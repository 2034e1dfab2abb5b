import DeliveryProbe.Proofs.Numerals
import DeliveryProbe.Toml.Reader
import DeliveryProbe.Toml.Writer

/-! The grammar of flat documents: how strings, integers, truth values and keys may be written. The reader takes each
for what it says, whatever comes behind it. -/
namespace DeliveryProbe
namespace Toml

variable {p s rest : List Char}

section Strings

def shortEscapes : List (Char × Char) :=
  [('b', '\x08'), ('t', '\t'), ('n', '\n'), ('f', '\x0c'), ('r', '\x0d'), ('"', '"'), ('\\', '\\')]

/-- What stands for a character between double quotes: most characters for themselves, and escapes by a letter, or by
the code of the character in four or eight hexadecimal digits. -/
inductive CharText : List Char → Char → Prop where
  | plain {c : Char} (plain : isPlain c = true) (quoteless : c ≠ '"') (unescaped : c ≠ '\\') : CharText [c] c
  | short {letter c : Char} (listed : (letter, c) ∈ shortEscapes) : CharText ['\\', letter] c
  | code {mark c : Char} {width : Nat} (listed : (mark, width) ∈ [('u', 4), ('U', 8)]) {digits : List Char}
      (size : digits.length = width) (value : hexValue? digits = some c.toNat) : CharText ('\\' :: mark :: digits) c

inductive CharsText : List Char → List Char → Prop where
  | nil : CharsText [] []
  | cons {p s : List Char} {c : Char} {text : List Char} (first : CharText p c) (more : CharsText s text) :
      CharsText (p ++ s) (c :: text)

theorem scalar?_toNat (c : Char) : scalar? c.toNat = some c := by
  have valid : c.toNat.isValidChar := c.valid
  rw [scalar?, if_pos valid, Char.ofNat_toNat]

theorem readCode_digits {c : Char} {digits : List Char} (value : hexValue? digits = some c.toNat) (s : List Char) :
    readEscape.readCode digits.length (digits ++ s) = some (c, s) := by
  have enough : ¬ (digits ++ s).length < digits.length := by
    rw [List.length_append]
    omega
  rw [readEscape.readCode, if_neg enough, List.take_left, List.drop_left, value, Option.bind_some, scalar?_toNat]
  rfl

theorem readBasic_char {c : Char} (stands : CharText p c) (fuel : Nat) (s : List Char) :
    readBasic (fuel + 1) (p ++ s) = (readBasic fuel s).map fun (text, rest) => (c :: text, rest) := by
  cases stands with
  | plain plain quoteless unescaped =>
    rw [List.singleton_append, readBasic]
    · exact if_pos plain
    · exact quoteless
    · exact unescaped
  | @short letter _ listed =>
    have read : readEscape (letter :: s) = some (c, s) := by
      simp only [shortEscapes, List.mem_cons, List.not_mem_nil, or_false, Prod.mk.injEq] at listed
      rcases listed with ⟨rfl, rfl⟩ | ⟨rfl, rfl⟩ | ⟨rfl, rfl⟩ | ⟨rfl, rfl⟩ | ⟨rfl, rfl⟩ | ⟨rfl, rfl⟩ | ⟨rfl, rfl⟩ <;> rfl
    rw [List.cons_append, List.singleton_append, readBasic, read]
  | @code mark _ width listed digits size value =>
    have read : readEscape (mark :: (digits ++ s)) = some (c, s) := by
      have long := readCode_digits value s
      rw [size] at long
      simp only [List.mem_cons, List.not_mem_nil, or_false, Prod.mk.injEq] at listed
      rcases listed with ⟨rfl, rfl⟩ | ⟨rfl, rfl⟩ <;> exact long
    rw [List.cons_append, List.cons_append, readBasic, read]

theorem readBasic_text {text : List Char} (stands : CharsText p text) {fuel : Nat} (enough : text.length < fuel)
    (rest : List Char) : readBasic fuel (p ++ '"' :: rest) = some (text, rest) := by
  induction stands generalizing fuel with
  | nil =>
    obtain ⟨fuel, rfl⟩ := Nat.exists_eq_add_one.mpr enough
    rfl
  | cons first _ ih =>
    obtain ⟨fuel, rfl⟩ := Nat.exists_eq_add_one.mpr (Nat.zero_lt_of_lt enough)
    rw [List.append_assoc, readBasic_char first, ih (Nat.lt_of_succ_lt_succ enough), Option.map_some]

theorem CharsText.length_le {text : List Char} (stands : CharsText p text) : text.length ≤ p.length := by
  induction stands with
  | nil => exact Nat.le_refl 0
  | @cons p _ _ _ first _ ih =>
    have one : 1 ≤ p.length := by cases first <;> exact Nat.le_add_left 1 _
    rw [List.length_cons, List.length_append]
    omega

/-- A text in double quotes is read with as much fuel as is taken for what follows the first of them. -/
theorem readBasic_enough {text : List Char} (stands : CharsText p text) (rest : List Char) :
    readBasic ((p ++ '"' :: rest).length + 1) (p ++ '"' :: rest) = some (text, rest) := by
  refine readBasic_text stands ?_ rest
  have shorter := stands.length_le
  rw [List.length_append]
  omega

theorem CharsText.head_ne_quote {text : List Char} (stands : CharsText p text) : p.head? ≠ some '"' := by
  cases stands with
  | nil => exact nofun
  | cons first _ =>
    cases first with
    | plain _ quoteless _ => exact fun same => quoteless (Option.some.inj same)
    | short | code => exact nofun

/-- Every text can be written. -/
theorem charsText_escape (text : List Char) : CharsText (text.flatMap escapeChar) text := by
  have one (c : Char) : CharText (escapeChar c) c := by
    unfold escapeChar
    split
    · next quote =>
      subst quote
      exact .short (by decide)
    · next quoteless =>
      split
      · next backslash =>
        subst backslash
        exact .short (by decide)
      · next unescaped =>
        split
        · next plain => exact .plain plain quoteless unescaped
        · next control =>
          have low : c.toNat < 128 := by
            by_contra high
            have blank : ' ' ≤ c := Nat.le_trans (by decide : 32 ≤ 128) (Nat.not_lt.mp high)
            have other : c ≠ '\x7f' := by
              rintro rfl
              exact high (by decide)
            simp [isPlain, blank, other] at control
          have codes : ∀ n < 128, hexValue? ['0', '0', hexDigit (n / 16), hexDigit (n % 16)] = some n := by decide
          exact .code (by decide : ('u', 4) ∈ [('u', 4), ('U', 8)]) rfl (codes _ low)
  induction text with
  | nil => exact .nil
  | cons c text ih => exact .cons (one c) ih

theorem readLiteral_text (chars : ∀ c ∈ p, isPlain c = true ∧ c ≠ '\'') (rest : List Char) :
    readLiteral (p ++ '\'' :: rest) = some (p, rest) := by
  induction p with
  | nil => rfl
  | cons c p ih =>
    obtain ⟨⟨plain, quoteless⟩, others⟩ := List.forall_mem_cons.mp chars
    rw [List.cons_append, readLiteral, if_pos plain, ih others, Option.map_some]
    exact quoteless

end Strings

/-- What stands behind a value begins with a blank, a comment or the end of the line. -/
def Ends (s : List Char) : Prop := ∀ c ∈ s.head?, c = ' ' ∨ c = '\t' ∨ c = '#' ∨ c = '\n'

section Integers
variable {radix n : Nat} {ds : List Nat}

/-- Digits of a radix, with an underscore between some of them. -/
inductive Digits (radix : Nat) : List Char → List Nat → Prop where
  | last {c : Char} {d : Nat} (digit : digitValueIn? radix c = some d) : Digits radix [c] [d]
  | next {c : Char} {d : Nat} {p : List Char} {ds : List Nat} (digit : digitValueIn? radix c = some d)
      (others : Digits radix p ds) : Digits radix (c :: p) (d :: ds)
  | apart {c : Char} {d : Nat} {p : List Char} {ds : List Nat} (digit : digitValueIn? radix c = some d)
      (others : Digits radix p ds) : Digits radix (c :: '_' :: p) (d :: ds)

inductive DecimalText : List Char → Nat → Prop where
  | zero : DecimalText ['0'] 0
  | digits {p : List Char} {ds : List Nat} (digits : Digits 10 p ds) (first : p.head? ≠ some '0') :
      DecimalText p (ofDigitsIn 10 ds)

/-- An integer: decimal, with or without a sign, or hexadecimal, octal or binary. -/
inductive IntegerText : List Char → Int → Prop where
  | plain {p : List Char} {n : Nat} (text : DecimalText p n) : IntegerText p n
  | positive {p : List Char} {n : Nat} (text : DecimalText p n) : IntegerText ('+' :: p) n
  | negative {p : List Char} {n : Nat} (text : DecimalText p n) : IntegerText ('-' :: p) (-n)
  | radix {mark : Char} {radix : Nat} (listed : (mark, radix) ∈ [('x', 16), ('o', 8), ('b', 2)]) {p : List Char}
      {ds : List Nat} (digits : Digits radix p ds) : IntegerText ('0' :: mark :: p) (ofDigitsIn radix ds)

theorem digitValueIn?_other {c : Char} (other : digitValueIn? 16 c = none) (small : radix ≤ 16) :
    digitValueIn? radix c = none := by
  unfold digitValueIn? at other ⊢
  dsimp only at other ⊢
  rw [Option.filter_eq_none_iff] at other ⊢
  intro d value within
  exact other d value (decide_eq_true ((of_decide_eq_true within).trans_le small))

theorem Ends.spanDigits (ends : Ends rest) (small : radix ≤ 16) : spanDigits radix rest = ([], rest) := by
  cases rest with
  | nil => rfl
  | cons c rest =>
    have other : c ≠ '_' ∧ digitValueIn? 16 c = none := by
      rcases ends c rfl with rfl | rfl | rfl | rfl <;> decide
    rw [Toml.spanDigits, digitValueIn?_other other.2 small]
    exact fun _ _ same => absurd same other.1

theorem digit_ne_underscore {c : Char} {d : Nat} (digit : digitValueIn? radix c = some d) : c ≠ '_' := by
  rintro rfl
  have none : digitValueIn? radix '_' = none := rfl
  rw [none] at digit
  contradiction

theorem spanDigits_cons {c : Char} {d : Nat} (digit : digitValueIn? radix c = some d) (s : List Char) :
    spanDigits radix (c :: s) = (d :: (spanDigits radix s).1, (spanDigits radix s).2) := by
  rw [spanDigits, digit]
  exact fun _ _ same => absurd same (digit_ne_underscore digit)

theorem spanDigits_underscore {c : Char} {d : Nat} (digit : digitValueIn? radix c = some d) (s : List Char) :
    spanDigits radix ('_' :: c :: s) = spanDigits radix (c :: s) := by
  rw [spanDigits_cons digit, spanDigits, digit]

theorem Digits.first (text : Digits radix p ds) :
    ∃ c q d es, p = c :: q ∧ ds = d :: es ∧ digitValueIn? radix c = some d := by
  cases text with
  | last digit | next digit _ | apart digit _ => exact ⟨_, _, _, _, rfl, rfl, digit⟩

theorem Digits.span (text : Digits radix p ds) (ends : spanDigits radix rest = ([], rest)) :
    spanDigits radix (p ++ rest) = (ds, rest) := by
  induction text with
  | last digit => rw [List.singleton_append, spanDigits_cons digit, ends]
  | next digit _ ih => rw [List.cons_append, spanDigits_cons digit, ih]
  | apart digit others ih =>
    obtain ⟨c, q, d, es, rfl, rfl, behind⟩ := others.first
    rw [List.cons_append, List.cons_append, spanDigits_cons digit, List.cons_append, spanDigits_underscore behind,
      ← List.cons_append, ih]

theorem Digits.read (text : Digits radix p ds) (small : radix ≤ 16) (ends : Ends rest) :
    readRadix radix (p ++ rest) = some (ofDigitsIn radix ds, rest) := by
  have span := text.span (ends.spanDigits small)
  obtain ⟨c, q, d, es, rfl, rfl, digit⟩ := text.first
  rw [List.cons_append] at span ⊢
  rw [readRadix, span]
  exact fun _ same => absurd (List.cons.inj same).1 (digit_ne_underscore digit)

theorem digitValueIn?_of_isDigit {c : Char} (digit : c.isDigit = true) :
    digitValueIn? 10 c = some (c.toNat - '0'.toNat) := by
  have range := digitValue?_eq c
  rw [if_pos digit] at range
  obtain ⟨within, -⟩ := Option.ite_none_right_eq_some.mp range
  rw [digitValueIn?, if_pos within]
  exact Option.filter_some_pos (decide_eq_true (digitValue?_lt range))

/-- A decimal number begins with a digit, and with a zero only if it is that. -/
theorem DecimalText.first (text : DecimalText p n) :
    p = ['0'] ∨ ∃ c q d, p = c :: q ∧ c ≠ '0' ∧ digitValueIn? 10 c = some d := by
  cases text with
  | zero => exact .inl rfl
  | digits digits first =>
    obtain ⟨c, q, d, es, rfl, rfl, digit⟩ := digits.first
    exact .inr ⟨c, q, d, rfl, fun same => first (congrArg some same), digit⟩

theorem DecimalText.read (text : DecimalText p n) (ends : Ends rest) : readDecimal (p ++ rest) = some (n, rest) := by
  cases text with
  | zero => rfl
  | digits digits first =>
    rw [readDecimal, digits.read (by decide) ends]
    intro s same
    obtain ⟨c, q, d, es, rfl, rfl, digit⟩ := digits.first
    exact first (congrArg some (List.cons.inj same).1)

def storable (n : Int) : Bool := minInteger ≤ n && n ≤ maxInteger

theorem decimalText_digits (n : Nat) : DecimalText (Numeral.digits n) n := by
  have digits {p : List Char} (some : p ≠ []) (all : ∀ c ∈ p, c.isDigit = true) : Digits 10 p (Numeral.values p) := by
    induction p with
    | nil => contradiction
    | cons c p ih =>
      obtain ⟨first, others⟩ := List.forall_mem_cons.mp all
      cases p with
      | nil => exact .last (digitValueIn?_of_isDigit first)
      | cons d p => exact .next (digitValueIn?_of_isDigit first) (ih (List.cons_ne_nil _ _) others)
  have value : ofDigitsIn 10 (Numeral.values (Numeral.digits n)) = n := by
    rw [ofDigitsIn, Numeral.values, List.foldl_map]
    exact Nat.ofDigitChars_ten_toDigits
  rcases Nat.eq_zero_or_pos n with rfl | some
  · exact .zero
  · have text := DecimalText.digits (digits (Numeral.digits_ne_nil n) (Numeral.digits_isDigit n)) (Numeral.head_digits some)
    rwa [value] at text

/-- Without a sign and the mark of a radix, an integer is a decimal number. -/
theorem readInteger_unsigned {c : Char} (unsigned : c ≠ '+' ∧ c ≠ '-')
    (decimal : c = '0' → ∀ d ∈ s.head?, d ∉ ['x', 'o', 'b']) :
    readInteger (c :: s) = ((readDecimal (c :: s)).map fun (n, rest) => ((n : Int), rest)).filter
      fun (n, _) => minInteger ≤ n && n ≤ maxInteger := by
  unfold readInteger
  split
  case h_6 => rfl
  case h_4 | h_5 =>
    rename_i begins
    obtain ⟨rfl, -⟩ := List.cons.inj begins
    simp at unsigned
  all_goals
    rename_i begins
    obtain ⟨rfl, rfl⟩ := List.cons.inj begins
    exact absurd (by decide) (decimal rfl _ rfl)

/-- An integer is read, if it has no more than sixty-four bits. -/
theorem IntegerText.read {n : Int} (text : IntegerText p n) (ends : Ends rest) :
    readInteger (p ++ rest) = if storable n then some (n, rest) else none := by
  cases text with
  | plain text =>
    have read := text.read ends
    have unsigned : readInteger (p ++ rest) = ((readDecimal (p ++ rest)).map fun (n, rest) => ((n : Int), rest)).filter
        fun (n, _) => minInteger ≤ n && n ≤ maxInteger := by
      rcases text.first with rfl | ⟨c, q, d, rfl, nonzero, digit⟩
      · refine readInteger_unsigned (by decide) fun _ c member => ?_
        rcases ends c member with rfl | rfl | rfl | rfl <;> decide
      · exact readInteger_unsigned (by constructor <;> rintro rfl <;> contradiction) (absurd · nonzero)
    rw [unsigned, read]
    rfl
  | positive text =>
    rw [List.cons_append, readInteger, text.read ends]
    rfl
  | negative text =>
    rw [List.cons_append, readInteger, text.read ends]
    rfl
  | radix listed digits =>
    simp only [List.mem_cons, List.not_mem_nil, or_false, Prod.mk.injEq] at listed
    rcases listed with ⟨rfl, rfl⟩ | ⟨rfl, rfl⟩ | ⟨rfl, rfl⟩
    all_goals
      rw [List.cons_append, List.cons_append, readInteger, digits.read (by decide) ends]
      rfl

end Integers

/-- The text of a string, an integer or a truth value. -/
inductive ValueText : List Char → Value → Prop where
  | string {p text : List Char} (stands : CharsText p text) : ValueText ('"' :: p ++ ['"']) (.string (String.ofList text))
  | integer {p : List Char} {n : Int} (text : IntegerText p n) : ValueText p (.integer n)
  | boolean (b : Bool) : ValueText (if b then "true" else "false").toList (.boolean b)

def Value.storable : Value → Bool
  | .integer n => Toml.storable n
  | _ => true

/-- The characters that strings and truth values begin with. -/
def marked : List Char := ['"', '\'', 't', 'f']

theorem readValue_integer {c : Char} (unmarked : c ∉ marked) (s : List Char) :
    readValue (c :: s) = (readInteger (c :: s)).map fun (n, rest) => (.integer n, rest) := by
  unfold readValue
  split
  case h_5 => rfl
  all_goals
    rename_i begins
    obtain ⟨rfl, -⟩ := List.cons.inj begins
    exact absurd (by decide) unmarked

theorem eq_of_isSpace {c : Char} (space : isSpace c = true) : c = ' ' ∨ c = '\t' :=
  (Bool.or_eq_true_iff.mp space).imp of_decide_eq_true of_decide_eq_true

theorem unmarked_of_digit {c : Char} {d : Nat} (digit : digitValueIn? 10 c = some d) :
    c ∉ marked ∧ isSpace c = false := by
  constructor
  · intro member
    simp only [marked, List.mem_cons, List.not_mem_nil, or_false] at member
    rcases member with rfl | rfl | rfl | rfl <;> contradiction
  · rw [Bool.eq_false_iff]
    intro space
    rcases eq_of_isSpace space with rfl | rfl <;> contradiction

theorem IntegerText.first {n : Int} (text : IntegerText p n) :
    ∃ c q, p = c :: q ∧ c ∉ marked ∧ isSpace c = false := by
  cases text with
  | plain text =>
    rcases text.first with rfl | ⟨c, q, d, rfl, -, digit⟩
    · exact ⟨_, _, rfl, by decide, rfl⟩
    · exact ⟨c, q, rfl, unmarked_of_digit digit⟩
  | positive | negative | radix => exact ⟨_, _, rfl, by decide, rfl⟩

theorem readString_text {text : List Char} (stands : CharsText p text) (ends : Ends rest) :
    readString ('"' :: (p ++ '"' :: rest)) = some (String.ofList text, rest) := by
  have single : startsTriple '"' ('"' :: (p ++ '"' :: rest)) = false := by
    rw [Bool.eq_false_iff, startsTriple, ne_eq, List.isPrefixOf_iff_prefix]
    rintro ⟨t, same⟩
    have front := stands.head_ne_quote
    cases p with
    | nil =>
      have behind : rest.head? = some '"' := by
        rw [← (List.cons.inj (List.cons.inj same).2).2]
        rfl
      exact absurd (ends '"' behind) (by decide)
    | cons c p => exact front (congrArg some (List.cons.inj (List.cons.inj same).2).1.symm)
  have other : startsTriple '\'' ('"' :: (p ++ '"' :: rest)) = false := rfl
  unfold readString
  dsimp only
  rw [single, other, if_neg Bool.false_ne_true, if_neg Bool.false_ne_true]
  change (readBasic ((p ++ '"' :: rest).length + 1) (p ++ '"' :: rest)).map _ = _
  rw [readBasic_enough stands]
  rfl

theorem ValueText.read {v : Value} (text : ValueText p v) (ends : Ends rest) :
    readValue (p ++ rest) = if v.storable then some (v, rest) else none := by
  cases text with
  | string stands =>
    rw [List.append_assoc, List.singleton_append, List.cons_append, readValue, readString_text stands ends]
    rfl
  | @integer _ n text =>
    have read := text.read ends
    obtain ⟨c, q, rfl, unmarked, -⟩ := text.first
    rw [List.cons_append] at read ⊢
    rw [readValue_integer unmarked, read, Value.storable]
    split <;> rfl
  | boolean b => cases b <;> rfl

theorem ValueText.first {v : Value} (text : ValueText p v) : ∃ c q, p = c :: q ∧ isSpace c = false := by
  cases text with
  | string => exact ⟨_, _, rfl, rfl⟩
  | integer text =>
    obtain ⟨c, q, rfl, -, solid⟩ := text.first
    exact ⟨c, q, rfl, solid⟩
  | boolean b => cases b <;> exact ⟨_, _, rfl, rfl⟩

theorem valueText_toChars (v : Value) : ValueText v.toChars v := by
  cases v with
  | string t =>
    have text := ValueText.string (charsText_escape t.toList)
    rw [String.ofList_toList] at text
    exact text
  | integer n =>
    refine .integer ?_
    by_cases negative : n < 0
    · have text := IntegerText.negative (decimalText_digits n.natAbs)
      have value : -(n.natAbs : Int) = n := by omega
      rw [value] at text
      rw [Value.toChars, if_pos negative]
      exact text
    · have text := IntegerText.plain (decimalText_digits n.natAbs)
      have value : (n.natAbs : Int) = n := by omega
      rw [value] at text
      rw [Value.toChars, if_neg negative]
      exact text
  | boolean b => exact .boolean b

/-- The text of a key: letters, digits, underscores and hyphens, or a string in quotes of either kind. -/
inductive KeyText : List Char → String → Prop where
  | bare {p : List Char} (some : p ≠ []) (chars : ∀ c ∈ p, isBareKeyChar c = true) : KeyText p (String.ofList p)
  | quoted {p text : List Char} (stands : CharsText p text) : KeyText ('"' :: p ++ ['"']) (String.ofList text)
  | literal {p : List Char} (chars : ∀ c ∈ p, isPlain c = true ∧ c ≠ '\'') : KeyText ('\'' :: p ++ ['\'']) (String.ofList p)

variable {key : String}

theorem KeyText.first (text : KeyText p key) :
    ∃ c q, p = c :: q ∧ isSpace c = false ∧ c ∉ ['#', '\n', '\x0d'] := by
  cases text with
  | bare some chars =>
    obtain ⟨c, q, rfl⟩ := List.exists_cons_of_ne_nil some
    have bare := chars c List.mem_cons_self
    refine ⟨c, q, rfl, Bool.eq_false_iff.mpr ?_, ?_⟩
    · intro space
      rcases eq_of_isSpace space with rfl | rfl <;> contradiction
    · intro member
      simp only [List.mem_cons, List.not_mem_nil, or_false] at member
      rcases member with rfl | rfl | rfl <;> contradiction
  | quoted | literal => exact ⟨_, _, rfl, by decide, by decide⟩

theorem KeyText.read (text : KeyText p key) (ends : ∀ c ∈ rest.head?, isBareKeyChar c = false) :
    readKey (p ++ rest) = some (key, rest) := by
  cases text with
  | bare some chars =>
    have stops : rest.takeWhile isBareKeyChar = [] ∧ rest.dropWhile isBareKeyChar = rest := by
      cases rest with
      | nil => exact ⟨rfl, rfl⟩
      | cons c rest =>
        have other : ¬ isBareKeyChar c = true := Bool.eq_false_iff.mp (ends c rfl)
        exact ⟨List.takeWhile_cons_of_neg other, List.dropWhile_cons_of_neg other⟩
    obtain ⟨c, q, rfl⟩ := List.exists_cons_of_ne_nil some
    unfold readKey
    split
    case h_3 =>
      rw [List.takeWhile_append_of_pos chars, List.dropWhile_append_of_pos chars, stops.1, stops.2, List.append_nil]
    all_goals
      rename_i begins
      obtain ⟨rfl, -⟩ := List.cons.inj begins
      exact absurd (chars _ List.mem_cons_self) (by decide)
  | quoted stands =>
    rw [List.append_assoc, List.singleton_append, List.cons_append, readKey, readBasic_enough stands]
    rfl
  | literal chars =>
    rw [List.append_assoc, List.singleton_append, List.cons_append, readKey, readLiteral_text chars]
    rfl

end Toml
end DeliveryProbe
