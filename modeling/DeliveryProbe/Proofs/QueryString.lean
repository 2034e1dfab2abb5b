import DeliveryProbe.Endpoint
import DeliveryProbe.Proofs.Spelling
import Mathlib.Data.List.Flatten

/-! What the store reads in the query of a URL. Blanks and controls around a URL and line breaks within it are dropped,
a fragment is not sent, and the query is a list of parameters in which a plus sign stands for a blank and a percent sign
with two digits for a byte. The name of the system is put at the end of the query as it is, so that it arrives exactly
if it has none of what means something else there. -/
namespace DeliveryProbe
namespace Query

def bytes (s : List Char) : Utf8.Bytes := s.flatMap String.utf8EncodeChar

def isHexDigit (c : Char) : Bool := (digitValueIn? 16 c).isSome

/-- The byte that a percent sign and two digits stand for. -/
def escape? (c high low : Char) : Option UInt8 :=
  match digitValueIn? 16 high, digitValueIn? 16 low with
  | some h, some l => if c = '%' then some (UInt8.ofNat (16 * h + l)) else none
  | _, _ => none

def unescaped (c : Char) : Utf8.Bytes := String.utf8EncodeChar (if c = '+' then ' ' else c)

def decoded : List Char → Utf8.Bytes
  | [] => []
  | [c] => unescaped c
  | [c, d] => unescaped c ++ unescaped d
  | c :: h :: l :: s =>
    match escape? c h l with
    | some b => b :: decoded s
    | none => unescaped c ++ decoded (h :: l :: s)

/-- Controls and blanks, which do not count at the ends of a URL. -/
def isPadding (c : Char) : Bool := c ≤ ' '

/-- Tabs and line breaks, which do not count anywhere in a URL. -/
def isBreak (c : Char) : Bool := c = '\t' || c = '\n' || c = '\r'

def cleaned (url : List Char) : List Char :=
  (Text.dropTrailing isPadding (url.dropWhile isPadding)).filter (!isBreak ·)

/-- What stands between the question mark of a URL and its fragment. -/
def query (url : List Char) : List Char := (((cleaned url).takeWhile (· ≠ '#')).dropWhile (· ≠ '?')).tail

def parameter (text : List Char) : Utf8.Bytes × Utf8.Bytes :=
  (decoded (text.takeWhile (· ≠ '=')), decoded (text.dropWhile (· ≠ '=')).tail)

def parameters (url : String) : List (Utf8.Bytes × Utf8.Bytes) :=
  (((query url.toList).splitOn '&').filter (· ≠ [])).map parameter

section Decoding

def Escaping (s : List Char) : Prop :=
  ∃ h l, isHexDigit h = true ∧ isHexDigit l = true ∧ ['%', h, l] <:+: s

theorem escape?_eq_none {c h l : Char} :
    escape? c h l = none ↔ ¬(c = '%' ∧ isHexDigit h = true ∧ isHexDigit l = true) := by
  unfold escape? isHexDigit
  cases digitValueIn? 16 h <;> cases digitValueIn? 16 l <;> simp

theorem escaping_cons {c h l : Char} {s : List Char} :
    Escaping (c :: h :: l :: s) ↔ escape? c h l ≠ none ∨ Escaping (h :: l :: s) := by
  rw [Ne, escape?_eq_none, not_not]
  constructor
  · rintro ⟨h', l', high, low, part⟩
    rcases List.infix_cons_iff.mp part with first | later
    · simp only [List.cons_prefix_cons, List.nil_prefix, and_true] at first
      obtain ⟨rfl, rfl, rfl⟩ := first
      exact .inl ⟨rfl, high, low⟩
    · exact .inr ⟨h', l', high, low, later⟩
  · rintro (⟨rfl, high, low⟩ | ⟨h', l', high, low, part⟩)
    · exact ⟨h, l, high, low, [], s, rfl⟩
    · exact ⟨h', l', high, low, List.infix_cons part⟩

theorem not_escaping_of_short {s : List Char} (short : s.length < 3) : ¬Escaping s := by
  rintro ⟨h, l, -, -, part⟩
  exact absurd part.length_le (Nat.not_le.mpr short)

theorem not_escaping_of_not_mem {s : List Char} (absent : '%' ∉ s) : ¬Escaping s := by
  rintro ⟨h, l, -, -, part⟩
  exact absent (part.subset List.mem_cons_self)

theorem bytes_cons (c : Char) (s : List Char) : bytes (c :: s) = String.utf8EncodeChar c ++ bytes s := rfl

theorem length_unescaped (c : Char) : (unescaped c).length = (if c = '+' then ' ' else c).utf8Size :=
  String.length_utf8EncodeChar _

theorem length_unescaped_le (c : Char) : (unescaped c).length ≤ (String.utf8EncodeChar c).length := by
  rw [length_unescaped, String.length_utf8EncodeChar]
  split
  · next plus =>
    subst plus
    decide
  · exact Nat.le_refl _

theorem unescaped_append_eq {c : Char} {s t : Utf8.Bytes} :
    unescaped c ++ s = String.utf8EncodeChar c ++ t ↔ c ≠ '+' ∧ s = t := by
  unfold unescaped
  by_cases plus : c = '+'
  · subst plus
    have blank : String.utf8EncodeChar ' ' = [32] := by decide
    have sign : String.utf8EncodeChar '+' = [43] := by decide
    simp [blank, sign]
  · simp [plus]

theorem length_bytes_pos (c : Char) : 0 < (String.utf8EncodeChar c).length := by
  rw [String.length_utf8EncodeChar]
  exact c.utf8Size_pos

theorem length_decoded_le (s : List Char) : (decoded s).length ≤ (bytes s).length := by
  induction s using decoded.induct with
  | case1 => exact Nat.le_refl 0
  | case2 c => simpa [decoded, bytes] using length_unescaped_le c
  | case3 c d =>
    have first := length_unescaped_le c
    have second := length_unescaped_le d
    simp only [decoded, bytes, List.flatMap_cons, List.flatMap_nil, List.length_append, List.append_nil]
    omega
  | case4 c h l s b escape ih =>
    have first := length_bytes_pos c
    have second := length_bytes_pos h
    have third := length_bytes_pos l
    simp only [decoded, escape, bytes_cons, List.length_append, List.length_cons]
    omega
  | case5 c h l s none ih =>
    have first := length_unescaped_le c
    rw [decoded, none, bytes_cons]
    simp only [List.length_append]
    omega

/-- A text stands for itself if and only if it has no plus signs and no escapes. -/
theorem decoded_eq_bytes_iff (s : List Char) : decoded s = bytes s ↔ '+' ∉ s ∧ ¬Escaping s := by
  induction s using decoded.induct with
  | case1 => simp [decoded, bytes, not_escaping_of_short]
  | case2 c =>
    have free : ¬Escaping [c] := not_escaping_of_short (by simp)
    rw [decoded, ← List.append_nil (unescaped c), bytes_cons, unescaped_append_eq]
    simp [bytes, free, eq_comm]
  | case3 c d =>
    have free : ¬Escaping [c, d] := not_escaping_of_short (by simp)
    rw [decoded, ← List.append_nil (unescaped d), bytes_cons, bytes_cons, unescaped_append_eq, unescaped_append_eq]
    simp [bytes, free, eq_comm]
  | case4 c h l s b escape ih =>
    have longer : decoded (c :: h :: l :: s) ≠ bytes (c :: h :: l :: s) := by
      intro same
      have shorter := congrArg List.length same
      have rest := length_decoded_le s
      have first := length_bytes_pos c
      have second := length_bytes_pos h
      have third := length_bytes_pos l
      simp only [decoded, escape, bytes_cons, List.length_append, List.length_cons] at shorter
      omega
    refine iff_of_false longer ?_
    rintro ⟨-, free⟩
    exact free (escaping_cons.mpr (.inl (by simp [escape])))
  | case5 c h l s none ih =>
    rw [decoded, none, bytes_cons, unescaped_append_eq, ih, escaping_cons, List.mem_cons (l := h :: l :: s)]
    simp only [none, ne_eq, not_true_eq_false, false_or, not_or, and_assoc, eq_comm]

end Decoding

section Arriving

/-- What of a text at the end of a query is read at all. -/
def arriving (text : List Char) : List Char :=
  ((Text.dropTrailing isPadding text).filter (!isBreak ·)).takeWhile (· ≠ '#')

theorem dropWhile_append_cons {p : Char → Bool} {c : Char} (stays : p c = false) (s t : List Char) :
    (s ++ c :: t).dropWhile p = s.dropWhile p ++ c :: t := by
  rw [List.dropWhile_append]
  split
  · next empty =>
    rw [List.isEmpty_iff.mp empty, List.nil_append, List.dropWhile_cons, if_neg (by simp [stays])]
  · rfl

theorem dropTrailing_append_cons {p : Char → Bool} {c : Char} (stays : p c = false) (s t : List Char) :
    Text.dropTrailing p (s ++ c :: t) = s ++ c :: Text.dropTrailing p t := by
  simp [Text.dropTrailing, dropWhile_append_cons stays]

/-- The query of a URL with one question mark, up to what does not arrive of the text at its end. -/
theorem query_append {front mid : List Char} (bare : ∀ c ∈ front, c ≠ '?' ∧ c ≠ '#')
    (clean : ∀ c ∈ mid, isBreak c = false ∧ c ≠ '#') (text : List Char) :
    query (front ++ '?' :: (mid ++ '=' :: text)) = mid ++ '=' :: arriving text := by
  have kept : mid.filter (!isBreak ·) = mid := by
    rw [List.filter_eq_self]
    intro c member
    rw [(clean c member).1, Bool.not_false]
  have cleaned_eq : cleaned (front ++ '?' :: (mid ++ '=' :: text)) =
      (front.dropWhile isPadding).filter (!isBreak ·) ++
        '?' :: (mid ++ '=' :: (Text.dropTrailing isPadding text).filter (!isBreak ·)) := by
    have last (s : List Char) : Text.dropTrailing isPadding (s ++ '?' :: (mid ++ '=' :: text)) =
        s ++ '?' :: (mid ++ '=' :: Text.dropTrailing isPadding text) := by
      have split (t : List Char) : s ++ '?' :: (mid ++ '=' :: t) = (s ++ '?' :: mid) ++ '=' :: t := by simp
      rw [split, split, dropTrailing_append_cons (by decide)]
    rw [cleaned, dropWhile_append_cons (by decide), last, List.filter_append, List.filter_cons_of_pos (by decide),
      List.filter_append, List.filter_cons_of_pos (by decide), kept]
  have front' : ∀ c ∈ (front.dropWhile isPadding).filter (!isBreak ·), c ≠ '?' ∧ c ≠ '#' := by
    intro c member
    exact bare c ((List.dropWhile_sublist _).subset (List.mem_of_mem_filter member))
  rw [query, cleaned_eq, List.takeWhile_append_of_pos fun c member => by simpa using (front' c member).2,
    List.takeWhile_cons_of_pos (by decide),
    List.takeWhile_append_of_pos fun c member => by simpa using (clean c member).2,
    List.takeWhile_cons_of_pos (by decide),
    List.dropWhile_append_of_pos fun c member => by simpa using (front' c member).1,
    List.dropWhile_cons_of_neg (by decide), List.tail_cons, ← arriving]

theorem forall_ne {a : Char} {s : List Char} (absent : a ∉ s) : ∀ c ∈ s, decide (c ≠ a) = true := by
  intro c member
  rw [decide_eq_true_eq]
  rintro rfl
  exact absent member

theorem splitOn_eq (s : List Char) :
    ∃ more, s.splitOn '&' = s.takeWhile (· ≠ '&') :: more ∧ ('&' ∉ s → more = []) := by
  by_cases separated : '&' ∈ s
  · obtain ⟨first, rest, rfl, free⟩ := List.eq_append_cons_of_mem separated
    refine ⟨rest.splitOn '&', ?_, fun absent => absurd separated absent⟩
    rw [List.splitOn_append_cons_self_of_not_mem free, List.takeWhile_append_of_pos (forall_ne free),
      List.takeWhile_cons_of_neg (by decide), List.append_nil]
  · rw [List.takeWhile_eq_self_iff.mpr (forall_ne separated)]
    exact ⟨[], List.splitOn_eq_singleton separated, fun _ => rfl⟩

theorem parameter_append {name : List Char} (clean : '=' ∉ name) (value : List Char) :
    parameter (name ++ '=' :: value) = (decoded name, decoded value) := by
  rw [parameter, List.takeWhile_append_of_pos (forall_ne clean), List.takeWhile_cons_of_neg (by decide),
    List.append_nil, List.dropWhile_append_of_pos (forall_ne clean), List.dropWhile_cons_of_neg (by decide),
    List.tail_cons]

/-- What of a name at the end of a query is read as the value of the last parameter that the query is meant to have. -/
def arrived (name : List Char) : List Char := (arriving name).takeWhile (· ≠ '&')

theorem sublist_arriving (name : List Char) : (arriving name).Sublist name := by
  refine (List.takeWhile_sublist _).trans (List.filter_sublist.trans ?_)
  rw [Text.dropTrailing_eq]
  exact (List.rdropWhile_prefix _ _).sublist

theorem sublist_arrived (name : List Char) : (arrived name).Sublist name :=
  (List.takeWhile_sublist _).trans (sublist_arriving name)

theorem arrived_eq_iff (name : List Char) :
    arrived name = name ↔
      (∀ c ∈ name, c ≠ '&' ∧ c ≠ '#' ∧ isBreak c = false) ∧ ∀ c ∈ name.getLast?, isPadding c = false := by
  have trimmed : (Text.dropTrailing isPadding name).Sublist name := by
    rw [Text.dropTrailing_eq]
    exact (List.rdropWhile_prefix _ _).sublist
  constructor
  · intro same
    -- each of the four steps only takes away, so that none has taken anything
    have kept : (Text.dropTrailing isPadding name).filter (!isBreak ·) = name := by
      refine (List.filter_sublist.trans trimmed).eq_of_length_le ?_
      calc name.length = (arrived name).length := congrArg List.length same.symm
        _ ≤ (arriving name).length := (List.takeWhile_sublist _).length_le
        _ ≤ _ := (List.takeWhile_sublist _).length_le
    have ending : Text.dropTrailing isPadding name = name := by
      refine trimmed.eq_of_length_le ?_
      have shorter := (List.filter_sublist (p := (!isBreak ·)) (l := Text.dropTrailing isPadding name)).length_le
      rwa [kept] at shorter
    refine ⟨?_, Text.dropTrailing_eq_self_iff.mp ending⟩
    intro c member
    rw [← same] at member
    have read := (List.takeWhile_sublist _).subset member
    have sent := (List.takeWhile_sublist _).subset read
    refine ⟨of_decide_eq_true (List.mem_takeWhile_imp (p := (· ≠ '&')) member),
      of_decide_eq_true (List.mem_takeWhile_imp (p := (· ≠ '#')) read), ?_⟩
    simpa using (List.mem_filter.mp sent).2
  · rintro ⟨free, last⟩
    have ending := Text.dropTrailing_eq_self_iff.mpr last
    have kept : name.filter (!isBreak ·) = name := by
      rw [List.filter_eq_self]
      intro c member
      rw [(free c member).2.2, Bool.not_false]
    have whole : name.takeWhile (· ≠ '#') = name := by
      rw [List.takeWhile_eq_self_iff]
      exact fun c member => decide_eq_true (free c member).2.1
    rw [arrived, arriving, ending, kept, whole, List.takeWhile_eq_self_iff]
    exact fun c member => decide_eq_true (free c member).1

end Arriving

section Write

/-- A text that a parameter at the end of a query can have for its value as it is: nothing in it separates parameters
or begins a fragment, is dropped, or stands for something else. -/
structure Transparent (text : List Char) : Prop where
  whole : ∀ c ∈ text, c ≠ '&' ∧ c ≠ '#' ∧ isBreak c = false
  last : ∀ c ∈ text.getLast?, isPadding c = false
  literal : '+' ∉ text ∧ ¬Escaping text

theorem length_bytes_le {s t : List Char} (part : s.Sublist t) : (bytes s).length ≤ (bytes t).length :=
  (part.flatMap _).length_le

theorem eq_of_length_bytes {s t : List Char} (part : s.Sublist t) (long : (bytes t).length ≤ (bytes s).length) :
    s = t := by
  induction part with
  | slnil => rfl
  | @cons s t c part ih =>
    have shorter := length_bytes_le part
    have pos := length_bytes_pos c
    rw [bytes_cons, List.length_append] at long
    omega
  | @cons_cons s t c part ih =>
    rw [bytes_cons, bytes_cons, List.length_append, List.length_append] at long
    rw [ih (by omega)]

/-- A name is what its value is decoded to if and only if it is transparent. -/
theorem decoded_arrived_iff (name : List Char) : decoded (arrived name) = bytes name ↔ Transparent name := by
  constructor
  · intro same
    have all : arrived name = name := by
      apply eq_of_length_bytes (sublist_arrived name)
      rw [← same]
      exact length_decoded_le _
    rw [all, decoded_eq_bytes_iff] at same
    obtain ⟨whole, last⟩ := (arrived_eq_iff name).mp all
    exact ⟨whole, last, same⟩
  · rintro ⟨whole, last, literal⟩
    rw [(arrived_eq_iff name).mpr ⟨whole, last⟩]
    exact (decoded_eq_bytes_iff name).mpr literal

variable {base : String} (bare : ∀ c ∈ base.toList, c ≠ '?' ∧ c ≠ '#') (system : String)
include bare

theorem query_write : query (Endpoint.write base system).toList =
    "db=logmonitor".toList ++ '&' :: ("_http_tag".toList ++ '=' :: arriving system.toList) := by
  have text : (Endpoint.write base system).toList =
      ((trimSlashes base).toList ++ "/write".toList) ++
        '?' :: ("db=logmonitor&_http_tag".toList ++ '=' :: system.toList) := by
    simp [Endpoint.write]
  have path : ∀ c ∈ "/write".toList, c ≠ '?' ∧ c ≠ '#' := by simp
  have front : ∀ c ∈ (trimSlashes base).toList ++ "/write".toList, c ≠ '?' ∧ c ≠ '#' := by
    intro c member
    rcases List.mem_append.mp member with own | segment
    · rw [trimSlashes, String.toList_ofList, Text.dropTrailing_eq] at own
      exact bare c ((List.rdropWhile_prefix _ _).subset own)
    · exact path c segment
  rw [text, query_append front (by simp [isBreak])]
  simp

/-- The query of a write has the two parameters that it is meant to have, and no more, if and only if the name of the
system is transparent. -/
theorem parameters_write_iff :
    parameters (Endpoint.write base system) =
        [(bytes "db".toList, bytes "logmonitor".toList), (bytes "_http_tag".toList, bytes system.toList)] ↔
      Transparent system.toList := by
  obtain ⟨more, split, alone⟩ := splitOn_eq ("_http_tag".toList ++ '=' :: arriving system.toList)
  have value : ("_http_tag".toList ++ '=' :: arriving system.toList).takeWhile (· ≠ '&') =
      "_http_tag".toList ++ '=' :: arrived system.toList := by
    rw [List.takeWhile_append_of_pos (forall_ne (by decide)), List.takeWhile_cons_of_pos (by decide), ← arrived]
  have database : parameter "db=logmonitor".toList = (bytes "db".toList, bytes "logmonitor".toList) := by decide
  have name : decoded "_http_tag".toList = bytes "_http_tag".toList := by decide
  have read : parameters (Endpoint.write base system) =
      (bytes "db".toList, bytes "logmonitor".toList) ::
        (bytes "_http_tag".toList, decoded (arrived system.toList)) :: (more.filter (· ≠ [])).map parameter := by
    rw [parameters, query_write bare, List.splitOn_append_cons_self_of_not_mem (by decide), split, value]
    rw [List.filter_cons_of_pos (by decide), List.filter_cons_of_pos (by simp), List.map_cons, List.map_cons, database,
      parameter_append (by decide), name]
  rw [read]
  constructor
  · intro same
    have values := (List.cons.inj (List.cons.inj same).2).1
    exact (decoded_arrived_iff _).mp (Prod.mk.inj values).2
  · intro transparent
    have absent : '&' ∉ "_http_tag".toList ++ '=' :: arriving system.toList := by
      intro member
      have own : '&' ∈ system.toList := (sublist_arriving _).subset (by simpa using member)
      exact (transparent.whole _ own).1 rfl
    rw [alone absent, (decoded_arrived_iff _).mpr transparent, List.filter_nil, List.map_nil]

end Write

end Query
end DeliveryProbe
