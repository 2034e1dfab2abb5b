import DeliveryProbe.Proofs.RunHistory
import Mathlib.Data.List.Infix

/-! Which lines mention a marker. Between blanks and slashes there is only one place in a line that has room
for a number of eight digits, apart from the monitored address; so a line that mentions a marker is the one
that was written with its number. -/
namespace DeliveryProbe

def EightDigits (text : String) : Prop := text.toList.length = 8 ∧ text.toList.all Char.isDigit = true

instance (text : String) : Decidable (EightDigits text) := inferInstanceAs (Decidable (_ ∧ _))

theorem infix_of_separated {α : Type} {needle left right : List α} {separator : α} (none : separator ∉ needle)
    (within : needle <:+: left ++ separator :: right) : needle <:+: left ∨ needle <:+: right := by
  have empty {part : List α} (missing : separator ∉ part) (begins : part <+: separator :: right) : part = [] := by
    cases part with
    | nil => rfl
    | cons c part =>
      obtain ⟨rfl, -⟩ := List.cons_prefix_cons.mp begins
      exact absurd List.mem_cons_self missing
  rcases List.infix_append_iff.mp within with before | after | ⟨first, second, rfl, ends, begins⟩
  · exact .inl before
  · rcases List.infix_cons_iff.mp after with begins | later
    · rw [empty none begins]
      exact .inl List.nil_infix
    · exact .inr later
  · have nothing := empty (fun member => none (List.mem_append_right first member)) begins
    rw [nothing, List.append_nil]
    exact .inl ends.isInfix

theorem trimSlashes_isPrefix (url : String) : (trimSlashes url).toList <+: url.toList := by
  rw [trimSlashes, String.toList_ofList, Text.dropTrailing, ← List.reverse_suffix, List.reverse_reverse]
  exact List.dropWhile_suffix _

section EightDigits
variable {number other : String} (digits : EightDigits number)
include digits

theorem not_mem_of_not_digit {c : Char} (plain : c.isDigit = false) : c ∉ number.toList := by
  intro member
  rw [List.all_eq_true.mp digits.2 c member] at plain
  contradiction

theorem not_infix_of_short {s : List Char} (short : s.length < 8) : ¬ number.toList <:+: s := by
  intro within
  have length := within.length_le
  rw [digits.1] at length
  omega

theorem eq_of_infix (digits' : EightDigits other) (within : number.toList <:+: other.toList) : other = number := by
  have same := within.eq_of_length (digits.1.trans digits'.1.symm)
  exact (String.toList_inj.mp same).symm

/-- In a line of the application there is no number but its own. -/
theorem eq_of_appMessage (digits' : EightDigits other)
    (within : number.toList <:+: (Pipeline.appMessage other).toList) : other = number := by
  have blank := not_mem_of_not_digit digits (c := ' ') (by decide)
  have line : (Pipeline.appMessage other).toList = "id".toList ++ ' ' :: (other.toList ++ ' ' :: "time".toList) := by
    simp [Pipeline.appMessage]
  rw [line] at within
  rcases infix_of_separated blank within with before | within
  · exact absurd before (not_infix_of_short digits (by decide))
  · rcases infix_of_separated blank within with own | after
    · exact eq_of_infix digits digits' own
    · exact absurd after (not_infix_of_short digits (by decide))

/-- In an access-log line there is no number but its own and those of the address. -/
theorem eq_of_accessMessage (digits' : EightDigits other) {base : String} (absent : ¬ number.toList <:+: base.toList)
    (within : number.toList <:+: (Pipeline.accessMessage (Endpoint.sample base other)).toList) :
    other = number := by
  have blank := not_mem_of_not_digit digits (c := ' ') (by decide)
  have slash := not_mem_of_not_digit digits (c := '/') (by decide)
  have line : (Pipeline.accessMessage (Endpoint.sample base other)).toList =
      "GET".toList ++ ' ' :: ((trimSlashes base).toList ++
        '/' :: ("samples".toList ++ '/' :: (other.toList ++ ' ' :: "200".toList))) := by
    simp [Pipeline.accessMessage, Endpoint.sample, Marker.samplePath]
  rw [line] at within
  rcases infix_of_separated blank within with before | within
  · exact absurd before (not_infix_of_short digits (by decide))
  rcases infix_of_separated slash within with address | within
  · exact absurd (address.trans (trimSlashes_isPrefix base).isInfix) absent
  rcases infix_of_separated slash within with path | within
  · exact absurd path (not_infix_of_short digits (by decide))
  rcases infix_of_separated blank within with own | after
  · exact eq_of_infix digits digits' own
  · exact absurd after (not_infix_of_short digits (by decide))

end EightDigits

namespace Monitor
variable {s : Setup} {c d : Channel} {o o' : Origin}

theorem number_infix_id : (s.number c o.call).toList <:+: (s.marker c o).id.toList := by
  cases c with
  | app => exact List.infix_refl _
  | http =>
    have id : (s.marker .http o).id.toList = "/samples/".toList ++ (s.number .http o.call).toList :=
      String.toList_append
    rw [id]
    exact (List.suffix_append _ _).isInfix

/-- A line that mentions a marker is the one with its number. -/
theorem number_eq_of_mentions (digits : EightDigits (s.number c o.call)) (digits' : EightDigits (s.number d o'.call))
    (absent : Text.contains s.config.monitoredUrl (s.number c o.call) = false)
    (mentions : Text.contains (s.line d o').message (s.marker c o).id = true) :
    s.number d o'.call = s.number c o.call := by
  have within := number_infix_id.trans (Text.occursIn_iff.mp mentions)
  have absent : ¬ (s.number c o.call).toList <:+: s.config.monitoredUrl.toList := by
    rw [← Text.occursIn_iff]
    exact Bool.eq_false_iff.mp absent
  cases d with
  | app => exact eq_of_appMessage digits digits' within
  | http => exact eq_of_accessMessage digits digits' absent within

end Monitor
end DeliveryProbe
