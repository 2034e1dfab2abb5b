/-! Where one text occurs in another, and cutting a text to a number of bytes. -/
namespace DeliveryProbe
namespace Text

def occursIn (needle : List Char) : List Char → Bool
  | [] => needle.isEmpty
  | c :: s => needle.isPrefixOf (c :: s) || occursIn needle s

theorem occursIn_iff {needle s : List Char} : occursIn needle s = true ↔ needle <:+: s := by
  induction s with
  | nil => simp [occursIn]
  | cons c s ih => rw [occursIn, Bool.or_eq_true, List.isPrefixOf_iff_prefix, ih, List.infix_cons_iff]

def contains (s needle : String) : Bool := occursIn needle.toList s.toList

theorem behind_of_not_mem {α : Type} {c : α} {a front s rest : List α} (free : c ∉ front)
    (same : a ++ c :: s = front ++ rest) : ∃ behind, a = front ++ behind ∧ rest = behind ++ c :: s := by
  rcases List.append_eq_append_iff.mp same with ⟨more, rfl, begins⟩ | behind
  · cases more with
    | nil => exact ⟨[], by simp, begins.symm⟩
    | cons d more =>
      obtain ⟨rfl, -⟩ := List.cons.inj begins
      exact absurd (List.mem_append_right a List.mem_cons_self) free
  · exact behind

/-- A text is split in one way at the first of some characters. -/
theorem append_cons_inj_of_first {α : Type} {c : α} {a b s t : List α} (first : c ∉ a) (first' : c ∉ b)
    (same : a ++ c :: s = b ++ c :: t) : a = b ∧ s = t := by
  obtain ⟨behind, rfl, begins⟩ := behind_of_not_mem first' same
  cases behind with
  | nil => exact ⟨List.append_nil b, (List.cons.inj begins).2.symm⟩
  | cons d behind =>
    obtain ⟨rfl, -⟩ := List.cons.inj begins
    exact absurd (List.mem_append_right b List.mem_cons_self) first

theorem append_cons_inj_of_last {α : Type} {c : α} {a b s t : List α} (last : c ∉ s) (last' : c ∉ t)
    (same : a ++ c :: s = b ++ c :: t) : a = b ∧ s = t := by
  have turned := congrArg List.reverse same
  simp only [List.reverse_append, List.reverse_cons, List.append_assoc, List.singleton_append] at turned
  obtain ⟨behind, front⟩ :=
    append_cons_inj_of_first (mt List.mem_reverse.mp last) (mt List.mem_reverse.mp last') turned
  exact ⟨List.reverse_inj.mp front, List.reverse_inj.mp behind⟩

/-- The longest run of leading characters that needs at most `limit` bytes of UTF-8. -/
def takeBytes : Nat → List Char → List Char
  | _, [] => []
  | limit, c :: s => if c.utf8Size ≤ limit then c :: takeBytes (limit - c.utf8Size) s else []

/-- Goes back from a byte to the nearest one at which a character begins or the text ends. Without one it would go
back beyond the first byte. -/
def boundaryFrom? (s : String) (byte : Nat) : Option s.Pos :=
  if valid : String.Pos.Raw.isValid s ⟨byte⟩ then some (s.pos ⟨byte⟩ (String.Pos.Raw.isValid_eq_true_iff.mp valid))
  else
    match byte with
    | 0 => none
    | byte + 1 => boundaryFrom? s byte

theorem boundaryFrom?_isSome (s : String) (byte : Nat) : (boundaryFrom? s byte).isSome := by
  induction byte with
  | zero =>
    have start : String.Pos.Raw.isValid s ⟨0⟩ = true := String.Pos.Raw.isValid_eq_true_iff.mpr String.Pos.Raw.isValid_zero
    rw [boundaryFrom?, dif_pos start]
    rfl
  | succ byte ih =>
    rw [boundaryFrom?]
    split
    · rfl
    · exact ih

/-- The text itself if it fits the limit, else what stands before the last boundary within it, and three points. -/
def truncate (limit : Nat) (s : String) : String :=
  if s.utf8ByteSize ≤ limit then s
  else (s.sliceTo ((boundaryFrom? s limit).get (boundaryFrom?_isSome s limit))).copy ++ "..."

end Text
end DeliveryProbe
