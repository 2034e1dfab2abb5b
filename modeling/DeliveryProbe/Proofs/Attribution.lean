import DeliveryProbe.Proofs.Mention
import DeliveryProbe.Proofs.Timestamp
import DeliveryProbe.Proofs.Verdict

/-! Which markers a log line can be taken for. A marker is looked for as plain text, so the line of one number
is found for another exactly where the digits of the other stand in it: within its own number, in its time
stamp, or in the status of the answer. -/
namespace DeliveryProbe

section Infix
variable {α : Type} {needle left right : List α} {separator : α}

theorem infix_separated_iff (none : separator ∉ needle) :
    needle <:+: left ++ separator :: right ↔ needle <:+: left ∨ needle <:+: right := by
  refine ⟨infix_of_separated none, fun either => ?_⟩
  rcases either with before | after
  · exact before.trans (List.prefix_append _ _).isInfix
  · exact after.trans ((List.suffix_cons _ _).trans (List.suffix_append _ _)).isInfix

theorem infix_past (some : needle ≠ []) (foreign : ∀ c ∈ left, c ∉ needle) :
    needle <:+: left ++ right ↔ needle <:+: right := by
  induction left with
  | nil => exact Iff.rfl
  | cons c left ih =>
    rw [List.forall_mem_cons] at foreign
    have past : needle <:+: [] ++ c :: (left ++ right) ↔ _ := infix_separated_iff foreign.1
    rw [List.nil_append, List.infix_nil, or_iff_right some] at past
    exact past.trans (ih foreign.2)

theorem prefix_separated_iff (none : separator ∉ needle) :
    needle <+: left ++ separator :: right ↔ needle <+: left := by
  refine ⟨fun begins => ?_, fun begins => begins.trans (List.prefix_append _ _)⟩
  rcases Nat.lt_or_ge left.length needle.length with long | short
  · have reaches : left ++ [separator] <+: left ++ separator :: right :=
      (List.prefix_append_right_inj left).mpr (List.prefix_append [separator] right)
    have within := List.prefix_of_prefix_length_le reaches begins (by simpa [Nat.succ_le_iff] using long)
    exact absurd (within.subset (by simp)) none
  · exact List.prefix_of_prefix_length_le begins (List.prefix_append _ _) short

end Infix

namespace Numeral

theorem foreign_of_digitless {s : List Char} (plain : ∀ c ∈ s, c.isDigit = false) (n : Nat) :
    ∀ c ∈ s, c ∉ digits n := fun c member => not_mem_digits (plain c member) n

theorem not_infix_digitless {s : List Char} (plain : ∀ c ∈ s, c.isDigit = false) (n : Nat) :
    ¬ digits n <:+: s := by
  have past : digits n <:+: s ++ [] ↔ _ := infix_past (digits_ne_nil n) (foreign_of_digitless plain n)
  rw [List.append_nil, List.infix_nil] at past
  exact fun within => digits_ne_nil n (past.mp within)

end Numeral

theorem Instant.slash_not_mem_stamp (t : Instant) : '/' ∉ t.rfc3339Millis.toList := by
  have fixed (width n : Nat) : '/' ∉ Numeral.fixed width n :=
    Numeral.not_mem_of_isDigit (Numeral.fixed_isDigit width n) (by decide)
  have year (y : Int) : '/' ∉ yearText y := by
    unfold yearText
    split
    · exact fixed _ _
    · have padded : '/' ∉ Numeral.padded 4 y.natAbs := by
        simp [Numeral.padded, Numeral.not_mem_digits (c := '/') (by decide)]
      split <;> simp [padded]
  simp [rfc3339Millis, localText, dateText, timeText, fractionText, fixed, year]

namespace Marker

def numbered : Channel → Nat → Instant → Marker
  | .app, n, t => ofApp (toString n) t
  | .http, n, t => ofHttp (toString n) t

/-- The log line of a number on a channel: one of the application's own, or that of a request below an address
which is answered with success. -/
def line (base : String) : Channel → Nat → Instant → String
  | .app, n, t => appLine (toString n) t
  | .http, n, _ => Pipeline.accessMessage (base ++ samplePath (toString n))

/-- The line of the number `n` on the first channel can be taken for the marker of `k` on the second. -/
def Mistakable (n k : Nat) (t : Instant) : Channel → Channel → Prop
  | .app, .app => Numeral.digits k <:+: Numeral.digits n ∨ Numeral.digits k <:+: t.rfc3339Millis.toList
  | .app, .http => False
  | .http, .app => Numeral.digits k <:+: Numeral.digits n ∨ Numeral.digits k <:+: "200".toList
  | .http, .http => Numeral.digits k <+: Numeral.digits n

instance (n k : Nat) (t : Instant) : (c d : Channel) → Decidable (Mistakable n k t c d)
  | .app, .app => inferInstanceAs (Decidable (_ ∨ _))
  | .app, .http => inferInstanceAs (Decidable False)
  | .http, .app => inferInstanceAs (Decidable (_ ∨ _))
  | .http, .http => inferInstanceAs (Decidable (_ <+: _))

theorem mentions_app_app (n k : Nat) (t : Instant) :
    Numeral.digits k <:+: (appLine (toString n) t).toList ↔ Mistakable n k t .app .app := by
  have blank := Numeral.not_mem_digits (c := ' ') (by decide) k
  have split : (appLine (toString n) t).toList =
      "id".toList ++ ' ' :: (Numeral.digits n ++ ' ' :: ("time:".toList ++ ' ' :: t.rfc3339Millis.toList)) := by
    simp [appLine, Numeral.digits]
  rw [split, infix_separated_iff blank, infix_separated_iff blank, infix_separated_iff blank,
    or_iff_right (Numeral.not_infix_digitless (s := "id".toList) (by simp) k),
    or_iff_right (Numeral.not_infix_digitless (s := "time:".toList) (by simp) k)]
  exact Iff.rfl

theorem accessLine_split (base : String) (n : Nat) (t : Instant) :
    (line base .http n t).toList =
      ("GET ".toList ++ base.toList ++ "/samples/".toList) ++ (Numeral.digits n ++ ' ' :: "200".toList) := by
  simp [line, Pipeline.accessMessage, samplePath, Numeral.digits]

section Access
variable {base : String} (digitless : ∀ c ∈ base.toList, c.isDigit = false) (n k : Nat) (t : Instant)
include digitless

theorem digitless_front : ∀ c ∈ "GET ".toList ++ base.toList ++ "/samples/".toList, c.isDigit = false := by
  simp only [List.forall_mem_append]
  exact ⟨⟨by simp, digitless⟩, by simp⟩

theorem mentions_http_app :
    Numeral.digits k <:+: (line base .http n t).toList ↔ Mistakable n k t .http .app := by
  have blank := Numeral.not_mem_digits (c := ' ') (by decide) k
  have foreign := Numeral.foreign_of_digitless (digitless_front digitless) k
  rw [accessLine_split, infix_past (Numeral.digits_ne_nil k) foreign, infix_separated_iff blank]
  exact Iff.rfl

theorem mentions_http_http :
    (samplePath (toString k)).toList <:+: (line base .http n t).toList ↔ Mistakable n k t .http .http := by
  have blank := Numeral.not_mem_digits (c := ' ') (by decide) k
  have path : (samplePath (toString k)).toList = "/samples/".toList ++ Numeral.digits k := by
    simp [samplePath, Numeral.digits]
  have own : Mistakable n k t .http .http ↔
      Numeral.digits k <+: Numeral.digits n ++ ' ' :: "200".toList := (prefix_separated_iff blank).symm
  rw [path, accessLine_split, own]
  constructor
  · rintro ⟨before, after, same⟩
    rw [← List.append_assoc, List.append_assoc _ (Numeral.digits k)] at same
    -- The path ends where the number begins: no digit stands in front of it, and no slash behind.
    rcases List.append_eq_append_iff.mp same with ⟨rest, front, begins⟩ | ⟨rest, front, begins⟩
    · cases rest with
      | nil => exact ⟨after, begins⟩
      | cons c rest =>
        have first : c ∈ Numeral.digits k := by
          obtain ⟨d, ds, digits⟩ := List.exists_cons_of_ne_nil (Numeral.digits_ne_nil k)
          rw [digits] at begins ⊢
          exact (List.cons.inj begins).1 ▸ List.mem_cons_self
        have plain := digitless_front digitless c (by rw [front]; simp)
        exact absurd first (Numeral.not_mem_digits plain k)
    · rcases List.eq_nil_or_concat rest with rfl | ⟨rest, c, rfl⟩
      · exact ⟨after, begins.symm⟩
      · have slash : c = '/' := by
          have last : (before ++ "/samples/".toList).getLast? = some '/' := by simp
          rw [front, List.concat_eq_append, ← List.append_assoc, List.getLast?_concat] at last
          exact Option.some.inj last
        have member : '/' ∈ Numeral.digits n ++ ' ' :: "200".toList := by
          rw [begins, slash]
          simp
        simp [Numeral.not_mem_digits (c := '/') (by decide)] at member
  · rintro ⟨after, begins⟩
    exact ⟨"GET ".toList ++ base.toList, after, by rw [← begins]; simp⟩

end Access

/-- A line holds the id of a marker exactly where it can be taken for it. -/
theorem mentions_iff {base : String} (digitless : ∀ c ∈ base.toList, c.isDigit = false) (c d : Channel)
    (n k : Nat) (t t' : Instant) :
    Text.contains (line base c n t) (numbered d k t').id = true ↔ Mistakable n k t c d := by
  have digits : (toString k).toList = Numeral.digits k := Nat.toList_repr
  rw [Text.contains, Text.occursIn_iff]
  cases d with
  | app =>
    change (toString k).toList <:+: _ ↔ _
    rw [digits]
    cases c with
    | app => exact mentions_app_app n k t
    | http => exact mentions_http_app digitless n k t
  | http =>
    cases c with
    | app =>
      have number : '/' ∉ Nat.toDigits 10 n := Numeral.not_mem_digits (by decide) n
      have slash : '/' ∉ (line base .app n t).toList := by
        simp [line, appLine, Instant.slash_not_mem_stamp, number]
      exact ⟨fun within => slash (within.subset (by simp [numbered, ofHttp, samplePath])), False.elim⟩
    | http => exact mentions_http_http digitless n k t

theorem retained_iff {m : Marker} {pending : List Marker} (waits : m ∈ pending) {now : Instant}
    {limits : Thresholds} (young : ¬ m.Expired now limits) (e : Event) :
    m ∈ (reconcile pending [e] now limits).retained ↔ ¬ e.Usable m.id := by
  have decided : m.DecidedBy [e] now limits ↔ e.Usable m.id := by
    rw [DecidedBy, or_iff_right young]
    simp
  rw [reconcile, List.mem_filter, and_iff_right waits, Option.isNone_iff_eq_none, judge_eq_none, decided]

/-- With an event whose message is the line of one number, a search keeps an unexpired marker of any number,
its own or another, unless the line can be taken for that marker and the event says when it was received. -/
theorem retained_unless_mistakable {base : String} (digitless : ∀ c ∈ base.toList, c.isDigit = false)
    (c d : Channel) (n k : Nat) (t t' : Instant) (receivedAt : Option String) {pending : List Marker}
    (waits : numbered d k t' ∈ pending) {now : Instant} {limits : Thresholds}
    (young : ¬ (numbered d k t').Expired now limits) :
    let e : Event := { message := line base c n t, receivedAt }
    numbered d k t' ∈ (reconcile pending [e] now limits).retained ↔
      ¬ (Mistakable n k t c d ∧ e.receipt?.isSome = true) := by
  intro e
  rw [retained_iff waits young e, Event.Usable, Event.mentions, mentions_iff digitless]

namespace Noon

def after (seconds : Nat) : Instant := { second := 1709294400 + seconds, nano := 0 }

def limits : Thresholds := { searchTimeout := 3600, timeToFailure := 60 }

/-- At noon both numbers are emitted, each on its channel; the line of the first is received a second later,
and searched for the marker of the second after another. -/
def searched (c d : Channel) (n k : Nat) : Reconciliation :=
  reconcile [numbered d k (after 0)] [Event.received (line "http://svc.local" c n (after 0)) (after 1)] (after 2)
    limits

def Misread (c d : Channel) (n k : Nat) : Prop :=
  n ≤ maxNumber ∧ k ≤ maxNumber ∧ n ≠ k ∧ (searched c d n k).retained = [] ∧
    (searched c d n k).resolved.map (fun r => (r.marker, r.outcome)) = [(numbered d k (after 0), .delivered)]

instance (c d : Channel) (n k : Nat) : Decidable (Misread c d n k) := inferInstanceAs (Decidable (_ ∧ _))

/-- A line resolves the marker of a number that begins its own, that is the year of its time stamp, or that is
the status of its answer. -/
theorem other_markers_resolved :
    Misread .app .app 12 1 ∧ Misread .app .app 12 2024 ∧ Misread .http .http 12 1 ∧
      Misread .http .app 12 200 := by
  decide +kernel

/-- The marker of a number that stands nowhere in the line keeps waiting. -/
theorem other_marker_retained :
    (∀ c ∈ "http://svc.local".toList, c.isDigit = false) ∧
      ¬ (numbered .app 34 (after 0)).Expired (after 2) limits ∧
      ¬ Mistakable 12 34 (after 0) .app .app ∧
      numbered .app 34 (after 0) ∈ (searched .app .app 12 34).retained := by
  have digitless : ∀ c ∈ "http://svc.local".toList, c.isDigit = false := by simp
  have young : ¬ (numbered .app 34 (after 0)).Expired (after 2) limits := by decide +kernel
  have distinct : ¬ Mistakable 12 34 (after 0) .app .app := by decide +kernel
  have waits : numbered .app 34 (after 0) ∈ [numbered .app 34 (after 0)] := List.mem_singleton_self _
  have kept := retained_unless_mistakable digitless .app .app 12 34 (after 0) (after 0)
    (some (after 1).rfc3339) waits young
  exact ⟨digitless, young, distinct, kept.mpr fun both => distinct both.1⟩

end Noon

end Marker
end DeliveryProbe
