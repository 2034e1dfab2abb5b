import DeliveryProbe.Json.Token
import Mathlib.Data.List.Chain
import Mathlib.Data.List.TakeWhile

/-! The lexical grammar of JSON: strings with their escapes, numbers part by part, the other tokens, and the
blanks between. The reader of tokens agrees with it. It finds the tokens of a text where no two that hold
values of their own are neighbours, as in any text that has a value. -/
namespace DeliveryProbe.Json

structure Digits (s : List Char) : Prop where
  nonempty : s ≠ []
  each : ∀ c ∈ s, c.isDigit = true

/-- The digits in front of a point: a zero stands there only by itself. -/
structure WholeText (s : List Char) : Prop extends Digits s where
  bare : s.head? = some '0' → s = ['0']

inductive FractionText : List Char → List Char → Prop where
  | none : FractionText [] []
  | digits {s : List Char} (digits : Digits s) : FractionText ('.' :: s) s

inductive ExponentText : List Char → Int → Prop where
  | none : ExponentText [] 0
  | plain {e : Char} {s : List Char} (mark : e = 'e' ∨ e = 'E') (digits : Digits s) :
      ExponentText (e :: s) (Nat.ofDigitChars 10 s 0)
  | plus {e : Char} {s : List Char} (mark : e = 'e' ∨ e = 'E') (digits : Digits s) :
      ExponentText (e :: '+' :: s) (Nat.ofDigitChars 10 s 0)
  | minus {e : Char} {s : List Char} (mark : e = 'e' ∨ e = 'E') (digits : Digits s) :
      ExponentText (e :: '-' :: s) (-(Nat.ofDigitChars 10 s 0))

/-- The number with the given digits, of which only those count that its significand can hold. -/
def Number.ofParts (negative : Bool) (whole places : List Char) (exponent : Int) : Number :=
  let (significand, dropped) := takeWhole 0 (Numeral.values whole)
  let (significand, kept) := takeFraction significand (Numeral.values places)
  { negative, significand, exponent := dropped - kept + exponent }

inductive Magnitude (negative : Bool) : List Char → Number → Prop where
  | parts {whole fraction places exponent : List Char} {e : Int} (whole_ : WholeText whole)
      (fraction_ : FractionText fraction places) (exponent_ : ExponentText exponent e) :
      Magnitude negative (whole ++ (fraction ++ exponent)) (.ofParts negative whole places e)

def Digitless (s : List Char) : Prop := ∀ c ∈ s.head?, c.isDigit = false

/-- Nothing goes on with the number in front of this text. -/
def Apart (s : List Char) : Prop := ∀ c ∈ s.head?, c.isDigit = false ∧ c ≠ '.' ∧ c ≠ 'e' ∧ c ≠ 'E'

section Numbers
variable {s p rest : List Char}

theorem ofDigits_values (s : List Char) : Numeral.ofDigits (Numeral.values s) = Nat.ofDigitChars 10 s 0 := by
  rw [Numeral.ofDigits, Numeral.values, List.foldl_map]
  rfl

theorem span_digits {ds : List Nat} (some_ : ds ≠ []) (read : Numeral.span s = (ds, rest)) :
    ∃ p, s = p ++ rest ∧ Digits p ∧ ds = Numeral.values p := by
  rw [Numeral.span_eq, Prod.mk.injEq] at read
  obtain ⟨rfl, rfl⟩ := read
  refine ⟨_, List.takeWhile_append_dropWhile.symm, ⟨fun none => some_ ?_, fun c member => ?_⟩, rfl⟩
  · rw [none]
    rfl
  · exact List.mem_takeWhile_imp member

theorem Digits.ne_cons (digits : Digits s) {c : Char} (other : c.isDigit = false) (rest t : List Char) :
    s ++ rest ≠ c :: t := by
  intro same
  cases s with
  | nil => exact digits.nonempty rfl
  | cons d s =>
    have digit := digits.each d List.mem_cons_self
    rw [(List.cons.inj same).1, other] at digit
    contradiction

theorem exists_values (digits : Digits s) : ∃ d ds, Numeral.values s = d :: ds := by
  cases s with
  | nil => exact absurd rfl digits.nonempty
  | cons c s => exact ⟨_, _, rfl⟩

theorem readPlaces_sound {ds : List Nat} (read : readPlaces s = some (ds, rest)) :
    ∃ p places, s = p ++ rest ∧ FractionText p places ∧ ds = Numeral.values places := by
  unfold readPlaces at read
  split at read
  · split at read
    · contradiction
    · next some_ spanned =>
      obtain ⟨rfl, rfl⟩ := Prod.mk.inj (Option.some.inj read)
      obtain ⟨p, rfl, digits, value⟩ := span_digits some_ spanned
      exact ⟨'.' :: p, p, rfl, .digits digits, value⟩
  · obtain ⟨rfl, rfl⟩ := Prod.mk.inj (Option.some.inj read)
    exact ⟨[], [], rfl, .none, rfl⟩

theorem readPlaces_text {places : List Char} (text : FractionText p places) (digitless : Digitless rest)
    (pointless : rest.head? ≠ some '.') : readPlaces (p ++ rest) = some (Numeral.values places, rest) := by
  cases text with
  | none =>
    rw [List.nil_append]
    unfold readPlaces
    split
    · exact absurd rfl pointless
    · rfl
  | digits digits =>
    obtain ⟨d, ds, values⟩ := exists_values digits
    rw [List.cons_append, readPlaces, Numeral.span_append digits.each digitless, values]

theorem readExponent_sound {e : Int} (read : readExponent s = some (e, rest)) :
    ∃ p, s = p ++ rest ∧ ExponentText p e := by
  unfold readExponent at read
  split at read
  · next c s =>
    split at read
    · next mark =>
      split at read
      next negative unsigned signed =>
      split at read
      · contradiction
      · next ds left some_ spanned =>
        obtain ⟨rfl, rfl⟩ := Prod.mk.inj (Option.some.inj read)
        obtain ⟨p, rfl, digits, rfl⟩ := span_digits some_ spanned
        rw [ofDigits_values]
        split at signed
        · obtain ⟨rfl, rfl⟩ := Prod.mk.inj signed
          exact ⟨c :: '+' :: p, rfl, .plus mark digits⟩
        · obtain ⟨rfl, rfl⟩ := Prod.mk.inj signed
          exact ⟨c :: '-' :: p, rfl, .minus mark digits⟩
        · obtain ⟨rfl, rfl⟩ := Prod.mk.inj signed
          exact ⟨c :: p, rfl, .plain mark digits⟩
    · obtain ⟨rfl, rfl⟩ := Prod.mk.inj (Option.some.inj read)
      exact ⟨[], rfl, .none⟩
  · obtain ⟨rfl, rfl⟩ := Prod.mk.inj (Option.some.inj read)
    exact ⟨[], rfl, .none⟩

theorem readExponent_text {e : Int} (text : ExponentText p e) (apart : Apart rest) :
    readExponent (p ++ rest) = some (e, rest) := by
  have digitless : Digitless rest := fun c first => (apart c first).1
  have spanned {s : List Char} (digits : Digits s) :
      ∃ d ds, Numeral.span (s ++ rest) = (d :: ds, rest) ∧ Numeral.ofDigits (d :: ds) = Nat.ofDigitChars 10 s 0 := by
    obtain ⟨d, ds, values⟩ := exists_values digits
    rw [Numeral.span_append digits.each digitless, ← ofDigits_values, values]
    exact ⟨d, ds, rfl, rfl⟩
  cases text with
  | none =>
    rw [List.nil_append]
    unfold readExponent
    split
    · next c rest =>
      obtain ⟨-, -, small, capital⟩ := apart c rfl
      exact if_neg (not_or.mpr ⟨small, capital⟩)
    · rfl
  | plain mark digits =>
    obtain ⟨d, ds, read, value⟩ := spanned digits
    rw [List.cons_append, readExponent, if_pos mark]
    · simp only [read, value, Bool.false_eq_true, if_false]
    · exact digits.ne_cons (by decide) rest
    · exact digits.ne_cons (by decide) rest
  | plus mark digits =>
    obtain ⟨d, ds, read, value⟩ := spanned digits
    rw [List.cons_append, List.cons_append, readExponent, if_pos mark]
    simp only [read, value, Bool.false_eq_true, if_false]
  | minus mark digits =>
    obtain ⟨d, ds, read, value⟩ := spanned digits
    rw [List.cons_append, List.cons_append, readExponent, if_pos mark]
    simp only [read, value, if_true]

/-- In front of a number's exponent stands no digit that its fraction could take, and no point. -/
theorem ExponentText.apart {e : Int} (text : ExponentText p e) (apart : Apart rest) :
    Digitless (p ++ rest) ∧ (p ++ rest).head? ≠ some '.' := by
  have marked {c : Char} (mark : c = 'e' ∨ c = 'E') (s : List Char) :
      Digitless (c :: s) ∧ (c :: s).head? ≠ some '.' := by
    rcases mark with rfl | rfl
    · exact ⟨fun _ first => Option.some.inj first ▸ by decide, by simp⟩
    · exact ⟨fun _ first => Option.some.inj first ▸ by decide, by simp⟩
  cases text with
  | none => exact ⟨fun c first => (apart c first).1, fun point => (apart '.' point).2.1 rfl⟩
  | plain mark _ => exact marked mark _
  | plus mark _ => exact marked mark _
  | minus mark _ => exact marked mark _

theorem FractionText.digitless {places : List Char} (text : FractionText p places) (digitless : Digitless rest) :
    Digitless (p ++ rest) := by
  cases text with
  | none => exact digitless
  | digits _ => exact fun _ first => Option.some.inj first ▸ by decide

theorem eq_zero_of_value {c : Char} (digit : c.isDigit = true) (zero : c.toNat - '0'.toNat = 0) : c = '0' := by
  have least : '0'.toNat ≤ c.toNat := (Bool.and_eq_true_iff.mp digit).1 |> of_decide_eq_true
  exact Char.toNat_inj.mp (by omega)

theorem wholeText_iff (digits : Digits s) : WholeText s ↔ ∀ d ds, Numeral.values s ≠ 0 :: d :: ds := by
  constructor
  · intro whole d ds values
    cases s with
    | nil => contradiction
    | cons c s =>
      obtain ⟨zero, more⟩ := List.cons.inj values
      obtain rfl := eq_zero_of_value (digits.each c List.mem_cons_self) zero
      obtain rfl := (List.cons.inj (whole.bare rfl)).2
      contradiction
  · intro bare
    refine ⟨digits, fun zero => ?_⟩
    cases s with
    | nil => contradiction
    | cons c s =>
      obtain rfl := Option.some.inj zero
      cases s with
      | nil => rfl
      | cons d s => exact absurd rfl (bare _ _)

theorem readMagnitude_sound {negative : Bool} {x : Number} (read : readMagnitude negative s = some (x, rest)) :
    ∃ p, s = p ++ rest ∧ Magnitude negative p x ∧ x.inRange = true := by
  unfold readMagnitude at read
  split at read
  · contradiction
  · contradiction
  · next ds left some_ bare spanned =>
    obtain ⟨whole, rfl, digits, rfl⟩ := span_digits some_ spanned
    have whole_ := (wholeText_iff digits).mpr fun d ds => bare d ds
    split at read
    · contradiction
    · next placed =>
      obtain ⟨fraction, places, rfl, fraction_, rfl⟩ := readPlaces_sound placed
      split at read
      · contradiction
      · next powered =>
        obtain ⟨exponent, rfl, exponent_⟩ := readExponent_sound powered
        obtain ⟨range, same⟩ := Option.ite_none_right_eq_some.mp read
        obtain ⟨rfl, rfl⟩ := Prod.mk.inj (Option.some.inj same)
        exact ⟨_, by simp only [List.append_assoc], .parts whole_ fraction_ exponent_, range⟩

theorem readMagnitude_text {negative : Bool} {x : Number} (text : Magnitude negative p x)
    (range : x.inRange = true) (apart : Apart rest) : readMagnitude negative (p ++ rest) = some (x, rest) := by
  obtain @⟨whole, fraction, places, exponent, e, whole_, fraction_, exponent_⟩ := text
  obtain ⟨digitless, pointless⟩ := exponent_.apart apart
  rw [List.append_assoc, List.append_assoc]
  unfold readMagnitude
  rw [Numeral.span_append whole_.each (fraction_.digitless digitless)]
  split
  · next none =>
    have empty := (Prod.mk.inj none).1
    exact absurd (List.map_eq_nil_iff.mp empty) whole_.nonempty
  · next several => exact absurd (Prod.mk.inj several).1 ((wholeText_iff whole_.toDigits).mp whole_ _ _)
  · next same =>
    obtain ⟨rfl, rfl⟩ := Prod.mk.inj same
    rw [readPlaces_text fraction_ digitless pointless]
    dsimp only
    rw [readExponent_text exponent_ apart]
    exact if_pos range

end Numbers

/-- What stands for a character between the quotes: most characters for themselves, and escapes by a letter,
by a code unit, or by two of them that make a pair. -/
inductive CharText : List Char → Char → Prop where
  | plain {c : Char} (quoteless : c ≠ '"') (unescaped : c ≠ '\\') (printable : ¬ c < ' ') : CharText [c] c
  | short {e c : Char} (letter : escaped? e = some c) : CharText ['\\', e] c
  | unit {a b c d : Char} {u : Nat} (hex : codeUnit? a b c d = some u) (high : isHighSurrogate u = false)
      (low : isLowSurrogate u = false) : CharText ['\\', 'u', a, b, c, d] (Char.ofNat u)
  | pair {a b c d e f g h : Char} {u v : Nat} (hex : codeUnit? a b c d = some u)
      (hex' : codeUnit? e f g h = some v) (high : isHighSurrogate u = true) (low : isLowSurrogate v = true) :
      CharText ['\\', 'u', a, b, c, d, '\\', 'u', e, f, g, h]
        (Char.ofNat (0x10000 + (u - 0xD800) * 0x400 + (v - 0xDC00)))

inductive CharsText : List Char → List Char → Prop where
  | nil : CharsText [] []
  | cons {p s : List Char} {c : Char} {text : List Char} (first : CharText p c) (more : CharsText s text) :
      CharsText (p ++ s) (c :: text)

section Texts
variable {s p text rest : List Char}

theorem readText_char {c : Char} (stands : CharText p c) (s : List Char) :
    readText (p ++ s) = (readText s).map fun (text, rest) => (c :: text, rest) := by
  cases stands with
  | plain quoteless unescaped printable =>
    rw [List.singleton_append, readText]
    · exact if_neg printable
    · exact quoteless
    · exact fun _ _ _ _ _ same => absurd same unescaped
    · exact fun _ _ same => absurd same unescaped
  | short letter =>
    rename_i e
    have other : e ≠ 'u' := by
      rintro rfl
      contradiction
    rw [List.cons_append, List.singleton_append, readText, letter]
    exact fun _ _ _ _ _ same => absurd same other
  | unit hex high low =>
    simp only [List.cons_append, List.nil_append]
    rw [readText, hex]
    simp only [high, low, Bool.false_eq_true, if_false]
  | pair hex hex' high low =>
    simp only [List.cons_append, List.nil_append]
    rw [readText, hex]
    simp only [high, low, hex', if_true]

theorem readText_text (stands : CharsText p text) (rest : List Char) :
    readText (p ++ '"' :: rest) = some (text, rest) := by
  induction stands with
  | nil => rw [List.nil_append, readText]
  | cons first _ ih => rw [List.append_assoc, readText_char first, ih, Option.map_some]

theorem readText_sound (read : readText s = some (text, rest)) :
    ∃ p, s = p ++ '"' :: rest ∧ CharsText p text := by
  have extend {p s : List Char} {c : Char} (first : CharText p c)
      (ih : ∀ text rest, readText s = some (text, rest) → ∃ p, s = p ++ '"' :: rest ∧ CharsText p text)
      {text rest : List Char}
      (read : (readText s).map (fun (text, rest) => (c :: text, rest)) = some (text, rest)) :
      ∃ q, p ++ s = q ++ '"' :: rest ∧ CharsText q text := by
    obtain ⟨⟨more, left⟩, reads, same⟩ := Option.map_eq_some_iff.mp read
    obtain ⟨rfl, rfl⟩ := Prod.mk.inj same
    obtain ⟨q, rfl, stands⟩ := ih more left reads
    exact ⟨p ++ q, (List.append_assoc ..).symm, .cons first stands⟩
  fun_induction readText s generalizing text rest with
  | case1 => contradiction
  | case2 s =>
    obtain ⟨rfl, rfl⟩ := Prod.mk.inj (Option.some.inj read)
    exact ⟨[], rfl, .nil⟩
  | case3 | case5 | case6 | case7 | case8 | case11 | case12 => contradiction
  | case4 a b c d u hex high e f g h s v hex' low char =>
    rename_i ih
    exact extend (.pair hex hex' high low) (fun _ _ => ih) read
  | case9 a b c d s u hex high low ih =>
    exact extend (.unit hex (Bool.eq_false_iff.mpr high) (Bool.eq_false_iff.mpr low)) (fun _ _ => ih) read
  | case10 e s _ c letter ih => exact extend (.short letter) (fun _ _ => ih) read
  | case13 c s quoteless _ cut printable ih =>
    have unescaped : c ≠ '\\' := by
      rintro rfl
      cases s with
      | nil => contradiction
      | cons e s => exact cut e s rfl rfl
    exact extend (.plain quoteless unescaped printable) (fun _ _ => ih) read

end Texts

/-- The texts of the tokens. A number is one only within the range of doubles. -/
inductive TokenText : List Char → Token → Prop where
  | openObject : TokenText ['\x7b'] .openObject
  | closeObject : TokenText ['\x7d'] .closeObject
  | openArray : TokenText ['['] .openArray
  | closeArray : TokenText [']'] .closeArray
  | colon : TokenText [':'] .colon
  | comma : TokenText [','] .comma
  | null : TokenText ['n', 'u', 'l', 'l'] (.scalar .null)
  | isTrue : TokenText ['t', 'r', 'u', 'e'] (.scalar (.bool true))
  | isFalse : TokenText ['f', 'a', 'l', 's', 'e'] (.scalar (.bool false))
  | string {p text : List Char} (stands : CharsText p text) :
      TokenText ('"' :: (p ++ ['"'])) (.scalar (.string (String.ofList text)))
  | negative {p : List Char} {x : Number} (magnitude : Magnitude true p x) (range : x.inRange = true) :
      TokenText ('-' :: p) (.scalar (.number x))
  | number {p : List Char} {x : Number} (magnitude : Magnitude false p x) (range : x.inRange = true) :
      TokenText p (.scalar (.number x))

def Token.isScalar : Token → Bool
  | .scalar _ => true
  | _ => false

/-- A text consists of tokens, with any number of blanks before, between and behind them. -/
inductive Lexed : List Char → List Token → Prop where
  | done : Lexed [] []
  | blank {c : Char} {s : List Char} {ts : List Token} (space : isSpace c = true) (rest : Lexed s ts) :
      Lexed (c :: s) ts
  | token {p s : List Char} {t : Token} {ts : List Token} (first : TokenText p t) (rest : Lexed s ts) :
      Lexed (p ++ s) (t :: ts)

section Tokens
variable {s p rest : List Char} {t : Token} {ts : List Token}

theorem readToken_sound (read : readToken s = some (t, rest)) : ∃ p, s = p ++ rest ∧ TokenText p t := by
  have marked {q : List Char} {u : Token} (text : TokenText q u) {left : List Char}
      (read : some (u, left) = some (t, rest)) : ∃ p, q ++ left = p ++ rest ∧ TokenText p t := by
    obtain ⟨rfl, rfl⟩ := Prod.mk.inj (Option.some.inj read)
    exact ⟨q, rfl, text⟩
  unfold readToken at read
  split at read
  · exact marked .openObject read
  · exact marked .closeObject read
  · exact marked .openArray read
  · exact marked .closeArray read
  · exact marked .colon read
  · exact marked .comma read
  · exact marked .null read
  · exact marked .isTrue read
  · exact marked .isFalse read
  · obtain ⟨⟨text, left⟩, reads, same⟩ := Option.map_eq_some_iff.mp read
    obtain ⟨rfl, rfl⟩ := Prod.mk.inj same
    obtain ⟨q, rfl, stands⟩ := readText_sound reads
    exact ⟨_, by simp, .string stands⟩
  · obtain ⟨⟨x, left⟩, reads, same⟩ := Option.map_eq_some_iff.mp read
    obtain ⟨rfl, rfl⟩ := Prod.mk.inj same
    obtain ⟨q, rfl, magnitude, range⟩ := readMagnitude_sound reads
    exact ⟨'-' :: q, rfl, .negative magnitude range⟩
  · obtain ⟨⟨x, left⟩, reads, same⟩ := Option.map_eq_some_iff.mp read
    obtain ⟨rfl, rfl⟩ := Prod.mk.inj same
    obtain ⟨q, rfl, magnitude, range⟩ := readMagnitude_sound reads
    exact ⟨q, rfl, .number magnitude range⟩

theorem Magnitude.digits {negative : Bool} {x : Number} (text : Magnitude negative p x) :
    ∃ c q, p = c :: q ∧ c.isDigit = true := by
  obtain @⟨whole, fraction, places, exponent, e, whole_, -, -⟩ := text
  cases whole with
  | nil => exact absurd rfl whole_.nonempty
  | cons c whole => exact ⟨c, _, rfl, whole_.each c List.mem_cons_self⟩

/-- A token is read from its text in front of anything that does not go on with it. -/
theorem readToken_text (text : TokenText p t) (apart : t.isScalar = true → Apart rest) :
    readToken (p ++ rest) = some (t, rest) := by
  cases text with
  | openObject | closeObject | openArray | closeArray | colon | comma | null | isTrue | isFalse => rfl
  | string stands =>
    rw [List.cons_append, readToken, List.append_assoc, List.singleton_append, readText_text stands,
      Option.map_some]
  | negative magnitude range =>
    rw [List.cons_append, readToken, readMagnitude_text magnitude range (apart rfl), Option.map_some]
  | number magnitude range =>
    obtain ⟨c, q, rfl, digit⟩ := magnitude.digits
    have other (d : Char) (plain : d.isDigit = false) (s : List Char) : c :: q ++ rest ≠ d :: s := by
      intro same
      rw [(List.cons.inj same).1, plain] at digit
      contradiction
    rw [readToken, readMagnitude_text magnitude range (apart rfl), Option.map_some]
    all_goals
      intro s
      exact other _ (by decide) _

theorem tokensWith_sound {fuel : Nat} (read : tokensWith fuel s = some ts) : Lexed s ts := by
  fun_induction tokensWith fuel s generalizing ts with
  | case1 fuel =>
    obtain rfl := Option.some.inj read
    exact .done
  | case2 => contradiction
  | case3 fuel c s space ih => exact .blank space (ih read)
  | case4 fuel c s solid t rest reads ih =>
    obtain ⟨us, reads', rfl⟩ := Option.map_eq_some_iff.mp read
    obtain ⟨p, split, text⟩ := readToken_sound reads
    rw [split]
    exact .token text (ih reads')
  | case5 => contradiction

theorem apart_of_space {c : Char} (space : isSpace c = true) : c.isDigit = false ∧ c ≠ '.' ∧ c ≠ 'e' ∧ c ≠ 'E' := by
  simp only [isSpace, Bool.or_eq_true, decide_eq_true_eq] at space
  rcases space with ((rfl | rfl) | rfl) | rfl <;> decide

theorem TokenText.solid (text : TokenText p t) : ∃ c q, p = c :: q ∧ isSpace c = false := by
  cases text with
  | openObject | closeObject | openArray | closeArray | colon | comma | null | isTrue | isFalse =>
    exact ⟨_, _, rfl, rfl⟩
  | string stands => exact ⟨'"', _, rfl, rfl⟩
  | negative magnitude range => exact ⟨'-', _, rfl, rfl⟩
  | number magnitude range =>
    obtain ⟨c, q, rfl, digit⟩ := magnitude.digits
    refine ⟨c, q, rfl, ?_⟩
    by_contra space
    obtain ⟨plain, -⟩ := apart_of_space (Bool.not_eq_false _ ▸ space)
    rw [plain] at digit
    contradiction

theorem TokenText.apart (text : TokenText p t) (structural : t.isScalar = false) : Apart (p ++ rest) := by
  cases text with
  | openObject | closeObject | openArray | closeArray | colon | comma =>
    exact fun _ first => Option.some.inj first ▸ by decide
  | null | isTrue | isFalse | string _ | negative _ _ | number _ _ => contradiction

/-- No two tokens that hold values of their own are neighbours. -/
abbrev Separated (ts : List Token) : Prop := ts.IsChain fun t u => t.isScalar = true → u.isScalar = false

theorem Lexed.apart (lexed : Lexed s ts) (structural : ∀ t ∈ ts.head?, t.isScalar = false) : Apart s := by
  cases lexed with
  | done => exact fun _ first => nomatch first
  | blank space _ => exact fun _ first => Option.some.inj first ▸ apart_of_space space
  | token text _ => exact text.apart (structural _ rfl)

theorem tokensWith_text (lexed : Lexed s ts) (separated : Separated ts) {fuel : Nat} (enough : s.length ≤ fuel) :
    tokensWith fuel s = some ts := by
  induction lexed generalizing fuel with
  | done => cases fuel <;> rfl
  | blank space rest ih =>
    cases fuel with
    | zero => contradiction
    | succ fuel =>
      rw [tokensWith, if_pos space]
      exact ih separated (Nat.le_of_succ_le_succ enough)
  | @token p s t ts text rest ih =>
    obtain ⟨c, q, rfl, solid⟩ := text.solid
    have apart : t.isScalar = true → Apart s := fun scalar =>
      rest.apart fun u first => (List.isChain_cons.mp separated).1 u first scalar
    have read := readToken_text text apart
    cases fuel with
    | zero => contradiction
    | succ fuel =>
      have short : s.length ≤ fuel := by
        simp only [List.cons_append, List.length_cons, List.length_append] at enough
        omega
      rw [List.cons_append] at read ⊢
      rw [tokensWith, solid, read]
      simp only [Bool.false_eq_true, if_false, ih (List.isChain_cons.mp separated).2 short, Option.map_some]

end Tokens
end DeliveryProbe.Json
