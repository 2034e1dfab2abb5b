import DeliveryProbe.Search

/-! Cutting a text to a number of bytes. The walk back from the limit ends at the last boundary between characters that
lies within it, so that no character is cut in two and at most three bytes are left unused. -/
namespace DeliveryProbe

namespace Text
open String.Pos.Raw (IsValid isValid_eq_true_iff)

structure LastWithin (limit : Nat) {s : String} (stop : s.Pos) : Prop where
  within : stop.offset.byteIdx ≤ limit
  last : ∀ byte ≤ limit, IsValid s ⟨byte⟩ → byte ≤ stop.offset.byteIdx

theorem boundaryFrom?_spec (s : String) (byte : Nat) :
    ∃ stop, boundaryFrom? s byte = some stop ∧ LastWithin byte stop := by
  induction byte with
  | zero =>
    have start : String.Pos.Raw.isValid s ⟨0⟩ = true := isValid_eq_true_iff.mpr String.Pos.Raw.isValid_zero
    rw [boundaryFrom?, dif_pos start]
    exact ⟨_, rfl, Nat.le_refl _, fun _ within _ => within⟩
  | succ byte ih =>
    rw [boundaryFrom?]
    split
    · exact ⟨_, rfl, Nat.le_refl _, fun _ within _ => within⟩
    · next between =>
      obtain ⟨stop, found, within, last⟩ := ih
      refine ⟨stop, found, Nat.le_succ_of_le within, fun other most boundary => ?_⟩
      rcases Nat.le_succ_iff.mp most with before | rfl
      · exact last other before boundary
      · exact absurd (isValid_eq_true_iff.mpr boundary) between

variable {limit : Nat} {s p back : String}

/-- The character behind the last boundary does not fit any more. -/
theorem LastWithin.next {stop : s.Pos} (last : LastWithin limit stop) (splits : stop.Splits p back)
    (long : limit < s.utf8ByteSize) :
    ∃ c rest, back.toList = c :: rest ∧ limit < p.utf8ByteSize + c.utf8Size := by
  have size : stop.offset.byteIdx = p.utf8ByteSize := congrArg String.Pos.Raw.byteIdx splits.offset_eq_rawEndPos
  have within := last.within
  have whole := congrArg String.utf8ByteSize splits.eq_append
  rw [String.utf8ByteSize_append] at whole
  cases chars : back.toList with
  | nil =>
    rw [String.toList_eq_nil_iff.mp chars, String.utf8ByteSize_empty] at whole
    omega
  | cons c rest =>
    refine ⟨c, rest, rfl, ?_⟩
    have back_eq : back = String.singleton c ++ String.ofList rest := by
      rw [← String.ofList_cons, ← chars, String.ofList_toList]
    have boundary : IsValid s ⟨p.utf8ByteSize + c.utf8Size⟩ := by
      refine String.Pos.Raw.isValid_iff_exists_append.mpr ⟨p ++ String.singleton c, String.ofList rest, ?_, ?_⟩
      · rw [String.append_assoc, ← back_eq]
        exact splits.eq_append
      · rw [String.Pos.Raw.ext_iff, String.byteIdx_rawEndPos, String.utf8ByteSize_append, String.utf8ByteSize_singleton]
    rcases Nat.lt_or_ge limit (p.utf8ByteSize + c.utf8Size) with full | fits
    · exact full
    · have farther := last.last _ fits boundary
      have some := c.utf8Size_pos
      omega

theorem truncate_short (fits : s.utf8ByteSize ≤ limit) : truncate limit s = s := if_pos fits

theorem truncate_long {stop : s.Pos} (found : boundaryFrom? s limit = some stop) (long : limit < s.utf8ByteSize) :
    truncate limit s = (s.sliceTo stop).copy ++ "..." := by
  have same : (boundaryFrom? s limit).get (boundaryFrom?_isSome s limit) = stop := Option.get_of_eq_some _ found
  rw [truncate, if_neg (Nat.not_le_of_lt long), same]

/-- A beginning of a text: the longest of at most so many bytes that cuts no character in two. -/
structure Longest (limit : Nat) (s p : String) : Prop where
  start : ∃ rest, s = p ++ rest
  fits : p.utf8ByteSize ≤ limit
  longest : ∀ size ≤ limit, (s.toByteArray.extract 0 size).IsValidUTF8 → size ≤ p.utf8ByteSize

theorem LastWithin.longest {stop : s.Pos} (last : LastWithin limit stop) (splits : stop.Splits p back)
    (long : limit < s.utf8ByteSize) : Longest limit s p := by
  have size : stop.offset.byteIdx = p.utf8ByteSize := congrArg String.Pos.Raw.byteIdx splits.offset_eq_rawEndPos
  refine ⟨⟨back, splits.eq_append⟩, size ▸ last.within, fun bytes most whole => ?_⟩
  have inside : bytes ≤ s.utf8ByteSize := Nat.le_trans most (Nat.le_of_lt long)
  rw [← size]
  exact last.last bytes most (String.Pos.Raw.isValid_iff_isValidUTF8_extract_zero.mpr ⟨inside, whole⟩)

theorem LastWithin.nearly {stop : s.Pos} (last : LastWithin limit stop) (splits : stop.Splits p back)
    (long : limit < s.utf8ByteSize) : limit ≤ p.utf8ByteSize + 3 := by
  obtain ⟨c, -, -, full⟩ := last.next splits long
  have most := c.utf8Size_le_four
  omega

end Text

namespace Search

theorem result_ofBody {body : String} {failure : Failure} (failed : (Reply.ofBody body).result = .error failure) :
    failure = .malformedSearch (Text.truncate quotedBytes body) := by
  unfold Reply.ofBody at failed
  split at failed
  · exact nomatch failed
  · exact (Except.error.inj failed).symm

/-- A text is cut between two characters. The walk back from the limit always comes to a boundary, and what stands
before it is the longest beginning of the text that fits and is well formed. So a malformed body is quoted in at most
515 bytes, which are those of the body up to the cut. -/
theorem cut_between_characters :
    (∀ (limit : Nat) (s : String),
      (s.utf8ByteSize ≤ limit → Text.truncate limit s = s) ∧
      ∃ stop, Text.boundaryFrom? s limit = some stop ∧ stop.offset.byteIdx ≤ limit ∧
        (limit < s.utf8ByteSize → ∃ p rest, stop.Splits p rest ∧ Text.truncate limit s = p ++ "..." ∧
          Text.Longest limit s p ∧ limit ≤ p.utf8ByteSize + 3)) ∧
    ∀ body failure, (Reply.ofBody body).result = .error failure → ∃ quoted, failure = .malformedSearch quoted ∧
      quoted.toByteArray.IsValidUTF8 ∧ quoted.utf8ByteSize ≤ 515 ∧
        (quoted = body ∨ ∃ p, quoted = p ++ "..." ∧ Text.Longest 512 body p) := by
  have cut (limit : Nat) (s : String) :
      (s.utf8ByteSize ≤ limit → Text.truncate limit s = s) ∧
      ∃ stop, Text.boundaryFrom? s limit = some stop ∧ stop.offset.byteIdx ≤ limit ∧
        (limit < s.utf8ByteSize → ∃ p rest, stop.Splits p rest ∧ Text.truncate limit s = p ++ "..." ∧
          Text.Longest limit s p ∧ limit ≤ p.utf8ByteSize + 3) := by
    obtain ⟨stop, found, last⟩ := Text.boundaryFrom?_spec s limit
    refine ⟨Text.truncate_short, stop, found, last.within, fun long => ?_⟩
    exact ⟨_, _, stop.splits, Text.truncate_long found long, last.longest stop.splits long,
      last.nearly stop.splits long⟩
  refine ⟨cut, fun body failure failed => ⟨_, result_ofBody failed, String.isValidUTF8 _, ?_⟩⟩
  obtain ⟨whole, stop, -, -, short⟩ := cut quotedBytes body
  rcases Nat.lt_or_ge quotedBytes body.utf8ByteSize with long | fits
  · obtain ⟨p, -, -, same, longest, -⟩ := short long
    have size : p.utf8ByteSize + 3 ≤ 515 := Nat.add_le_add_right longest.fits 3
    rw [same]
    exact ⟨by rwa [String.utf8ByteSize_append], .inr ⟨p, rfl, longest⟩⟩
  · rw [whole fits]
    exact ⟨Nat.le_trans fits (by decide), .inl rfl⟩

/-- Of letters with two bytes each, three bytes hold one; and a page of markup is quoted as a whole. -/
theorem half_letter_left_out :
    3 < "ééééé".utf8ByteSize ∧ Text.truncate 3 "ééééé" = "é..." ∧ Text.Longest 3 "ééééé" "é" ∧
      (Reply.ofBody "<html>").result = .error (.malformedSearch "<html>") ∧ "<html>".utf8ByteSize ≤ 515 := by
  obtain ⟨cut, malformed⟩ := cut_between_characters
  have long : 3 < "ééééé".utf8ByteSize := by decide
  have page : (Reply.ofBody "<html>").result = .error (.malformedSearch "<html>") := rfl
  obtain ⟨-, stop, -, -, short⟩ := cut 3 "ééééé"
  obtain ⟨p, -, -, same, longest, -⟩ := short long
  obtain rfl : p = "é" := (String.append_left_inj "...").mp same.symm
  obtain ⟨quoted, failure, -, size, -⟩ := malformed "<html>" _ page
  rw [← Failure.malformedSearch.inj failure] at size
  exact ⟨long, rfl, longest, page, size⟩

end Search
end DeliveryProbe
