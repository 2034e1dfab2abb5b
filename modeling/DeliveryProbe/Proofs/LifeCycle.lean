import DeliveryProbe.Proofs.WatcherRun
import Mathlib.Data.Nat.Init

/-! The life cycle of a marker in a run of a watcher. From its first pass on it is pending, whatever
becomes of the searches, until the first pass whose search decides it; that pass resolves it, and no other
pass ever does. -/
namespace DeliveryProbe.Watcher
open Ledger

/-- A pass with a successful search by which a marker of the channel has expired or is found. -/
def Step.Decides (w : Watcher) (c : Channel) (m : Marker) (s : Step) : Prop :=
  ∃ events now, s.evidence? c = some (events, now) ∧ m.DecidedBy events now w.limits

/-- Some step after the `i`-th and before the `n`-th has a property. -/
def Between (steps : List Step) (i n : Nat) (P : Step → Prop) : Prop :=
  ∃ k s, i < k ∧ k < n ∧ steps[k]? = some s ∧ P s

/-- Where a marker registered by the `i`-th step stands after `n` steps: it waits until there is a pass,
is pending until there is one that decides it, and is then resolved by the first of these, as the rule
has it. -/
structure Stands (w : Watcher) (c : Channel) (m : Marker) (steps : List Step) (i n : Nat)
    (standing : Standing) : Prop where
  waiting : ¬ Between steps i n Step.IsPass → standing = .waiting
  pending : Between steps i n Step.IsPass → ¬ Between steps i n (Step.Decides w c m) → standing = .pending
  resolved : ∀ j s events now, i < j → j < n → steps[j]? = some s →
    s.evidence? c = some (events, now) → m.DecidedBy events now w.limits →
    ¬ Between steps i j (Step.Decides w c m) →
    ∃ r, standing = .resolved j r ∧ m.Verdict events now w.limits r

variable {w : Watcher} {c : Channel} {m : Marker} {steps : List Step} {i n : Nat} {standing : Standing}
  {s : Step}

theorem not_between_next (i : Nat) (P : Step → Prop) : ¬ Between steps i (i + 1) P := by
  rintro ⟨k, _, after, before, _⟩
  exact absurd (Nat.lt_of_lt_of_le after (Nat.le_of_lt_succ before)) (Nat.lt_irrefl i)

theorem between_succ {P : Step → Prop} (later : i < n) (reached : steps[n]? = some s) :
    Between steps i (n + 1) P ↔ Between steps i n P ∨ P s := by
  constructor
  · rintro ⟨k, s', after, before, found, holds⟩
    rcases Nat.lt_succ_iff_lt_or_eq.mp before with earlier | rfl
    · exact .inl ⟨k, s', after, earlier, found, holds⟩
    · rw [reached] at found
      exact .inr (Option.some.inj found ▸ holds)
  · rintro (⟨k, s', after, before, found, holds⟩ | holds)
    · exact ⟨k, s', after, Nat.lt_succ_of_lt before, found, holds⟩
    · exact ⟨n, s, later, Nat.lt_succ_self n, reached, holds⟩

theorem Stands.undecided (stands : Stands w c m steps i n standing)
    (undecided : ¬ Between steps i n (Step.Decides w c m)) : standing = .waiting ∨ standing = .pending := by
  by_cases passed : Between steps i n Step.IsPass
  · exact .inr (stands.pending passed undecided)
  · exact .inl (stands.waiting passed)

theorem drained_outstanding (outstanding : standing = .waiting ∨ standing = .pending) :
    Entry.drained ⟨m, standing⟩ = ⟨m, .pending⟩ := by
  rcases outstanding with rfl | rfl <;> rfl

theorem judged_outstanding (outstanding : standing = .waiting ∨ standing = .pending) (call : Nat)
    (m : Marker) (rule : Marker → Option Resolution) :
    (Entry.drained ⟨m, standing⟩).judged call rule = ⟨m, .ofVerdict call (rule m)⟩ := by
  rw [drained_outstanding outstanding, Entry.judged_pending]

theorem onEntry_idle (call : Nat) (idle : ¬ s.IsPass) : s.onEntry w c call = id := by
  cases s with
  | register => rfl
  | pass => exact absurd trivial idle

theorem onEntry_blind (call : Nat) (passes : s.IsPass) (blind : s.evidence? c = none) :
    s.onEntry w c call = Entry.drained := by
  cases s with
  | register => contradiction
  | pass search now sink firstWrite =>
    cases answer : search.result with
    | error => exact onEntry_failed w c call now sink firstWrite answer
    | ok => simp [Step.evidence?, answer] at blind

theorem onEntry_seeing (call : Nat) {events : List Event} {now : Instant}
    (evidence : s.evidence? c = some (events, now)) :
    s.onEntry w c call =
      Entry.judged call (fun m => m.judge events now w.limits) ∘ Entry.drained := by
  cases s with
  | register => contradiction
  | pass search clock sink firstWrite =>
    cases answer : search.result with
    | error => simp [Step.evidence?, answer] at evidence
    | ok found =>
      simp only [Step.evidence?, answer, Option.some.injEq, Prod.mk.injEq] at evidence
      obtain ⟨rfl, rfl⟩ := evidence
      exact onEntry_found w c call clock sink firstWrite answer

theorem onEntry_marker (w : Watcher) (c : Channel) (call : Nat) (s : Step) (e : Entry) :
    (s.onEntry w c call e).marker = e.marker := by
  by_cases passes : s.IsPass
  · cases evidence : s.evidence? c with
    | none => rw [onEntry_blind call passes evidence, Entry.drained_marker]
    | some =>
      rw [onEntry_seeing call evidence, Function.comp_apply, Entry.judged_marker, Entry.drained_marker]
  · rw [onEntry_idle call passes, id]

theorem onEntry_resolved (w : Watcher) (c : Channel) (call : Nat) (s : Step) (m : Marker) (k : Nat)
    (r : Resolution) : s.onEntry w c call ⟨m, .resolved k r⟩ = ⟨m, .resolved k r⟩ := by
  by_cases passes : s.IsPass
  · cases evidence : s.evidence? c with
    | none => rw [onEntry_blind call passes evidence]; rfl
    | some => rw [onEntry_seeing call evidence]; rfl
  · rw [onEntry_idle call passes, id]

/-- One more step keeps every marker where it should stand. -/
theorem stands_step (stands : Stands w c m steps i n standing) (later : i < n)
    (reached : steps[n]? = some s) :
    Stands w c m steps i (n + 1) (s.onEntry w c n ⟨m, standing⟩).standing where
  waiting quiet := by
    rw [between_succ later reached, not_or] at quiet
    rw [onEntry_idle n quiet.2]
    exact stands.waiting quiet.1
  pending passed undecided := by
    rw [between_succ later reached, not_or] at undecided
    have outstanding := stands.undecided undecided.1
    by_cases passes : s.IsPass
    · cases evidence : s.evidence? c with
      | none => rw [onEntry_blind n passes evidence, drained_outstanding outstanding]
      | some found =>
        obtain ⟨events, now⟩ := found
        have unjudged : m.judge events now w.limits = none :=
          Marker.judge_eq_none.mpr fun decided => undecided.2 ⟨events, now, evidence, decided⟩
        rw [onEntry_seeing n evidence, Function.comp_apply, judged_outstanding outstanding, unjudged]
        rfl
    · have before := ((between_succ later reached).mp passed).resolve_right passes
      rw [onEntry_idle n passes]
      exact stands.pending before undecided.1
  resolved j s' events now after before found evidence decided first := by
    -- A verdict of an earlier pass stays as it is; this pass gives one only to what is still outstanding.
    rcases Nat.lt_succ_iff_lt_or_eq.mp before with earlier | rfl
    · obtain ⟨r, rfl, verdict⟩ :=
        stands.resolved j s' events now after earlier found evidence decided first
      exact ⟨r, by rw [onEntry_resolved], verdict⟩
    · obtain rfl : s = s' := Option.some.inj (reached.symm.trans found)
      obtain ⟨r, judged⟩ := Option.isSome_iff_exists.mp (Marker.judge_isSome.mpr decided)
      refine ⟨r, ?_, Marker.judge_correct.mp judged⟩
      rw [onEntry_seeing j evidence, Function.comp_apply, judged_outstanding (stands.undecided first),
        judged]
      rfl

theorem stands_registered (w : Watcher) (c : Channel) (m : Marker) (steps : List Step) (i : Nat) :
    Stands w c m steps i (i + 1) .waiting where
  waiting _ := rfl
  pending passed := absurd passed (not_between_next i _)
  resolved j _ _ _ after before := by omega

theorem ledger_length (w : Watcher) (c : Channel) (steps : List Step) :
    (w.ledger c steps).length = (registered c steps).length := by
  have markers := (balanced_ledger w c steps).markers
  rw [← markers, List.length_map]

theorem ledger_take_succ (reached : steps[n]? = some s) (within : n < steps.length) :
    w.ledger c (steps.take (n + 1)) = s.onLedger w c n (w.ledger c (steps.take n)) := by
  rw [List.take_add_one, reached, Option.toList_some, ledger_concat, List.length_take,
    Nat.min_eq_left (Nat.le_of_lt within)]

theorem ledger_stands (registers : steps[i]? = some (.register c m)) (later : i < n)
    (within : n ≤ steps.length) :
    ∃ standing, (w.ledger c (steps.take n))[(registered c (steps.take i)).length]? =
        some { marker := m, standing } ∧
      Stands w c m steps i n standing := by
  induction n, later using Nat.le_induction with
  | base =>
    refine ⟨.waiting, ?_, stands_registered w c m steps i⟩
    rw [ledger_take_succ registers within, Step.onLedger, List.getElem?_append_right]
    · simp [ledger_length, Step.registered]
    · simp [ledger_length]
  | succ n later ih =>
    obtain ⟨standing, placed, stands⟩ := ih (Nat.le_of_lt within)
    have reached : steps[n]? = some steps[n] := List.getElem?_eq_getElem within
    refine ⟨_, ?_, stands_step stands later reached⟩
    have bound := (List.getElem?_eq_some_iff.mp placed).1
    rw [ledger_take_succ reached within, Step.onLedger,
      List.getElem?_append_left (by rw [List.length_map]; exact bound), List.getElem?_map, placed]
    exact congrArg some (Entry.ext (onEntry_marker w c n _ _) rfl)

/-- Every registered marker is pending after each pass before the first one that decides it, failed passes
included; that pass resolves it, and no other ever does. One ledger tells this of all registrations of the
channel, and agrees throughout with the tracker and with what the passes return. -/
theorem marker_life_cycle (w : Watcher) (steps : List Step) (c : Channel) :
    ∃ book : Nat → Ledger,
      (∀ n, n ≤ steps.length →
        Balanced c (registered c (steps.take n)) (w.returned c (steps.take n)) (w.after (steps.take n))
          (book n)) ∧
      ∀ i m, steps[i]? = some (.register c m) → ∀ n, i < n → n ≤ steps.length →
        ∃ standing, (book n)[(registered c (steps.take i)).length]? = some { marker := m, standing } ∧
          Stands w c m steps i n standing :=
  ⟨fun n => w.ledger c (steps.take n), fun n _ => balanced_ledger w c (steps.take n),
    fun _ _ registers _ later within => ledger_stands registers later within⟩

namespace Outage

def marker : Marker := { id := "7", emittedAt := { second := 1709294400, nano := 0 } }

def arrival : Event := { message := "id 7", receivedAt := some "2024-03-01T12:00:05Z" }

/-- The search is down for one pass, and finds the marker in the next. -/
def course : List Step :=
  let now : Instant := { second := 1709294460, nano := 0 }
  let sink : Sink := { announces := false, answer := fun _ => .ok () }
  [.register .app marker, .pass (.failed .http) (fun _ => now) sink 0,
    .pass (.found [arrival]) (fun _ => now) sink 0]

def watcher : Watcher :=
  { system := "shop", limits := { searchTimeout := 3600, timeToFailure := 60 }, dryRun := false }

theorem undecided : ¬ Between course 0 2 (Step.Decides watcher .app marker) := by
  rintro ⟨k, s, after, before, found, events, now, evidence, _⟩
  obtain rfl : k = 1 := by omega
  obtain rfl := Option.some.inj found
  contradiction

/-- The marker is pending after the pass that failed, and the next one resolves it. -/
theorem resolved_after_failure :
    ∃ (book : Nat → Ledger) (r : Resolution),
      (book 2)[0]? = some { marker, standing := .pending } ∧
        (book 3)[0]? = some { marker, standing := .resolved 2 r } := by
  obtain ⟨book, _, lives⟩ := marker_life_cycle watcher course .app
  obtain ⟨interim, placed, stands⟩ := lives 0 marker rfl 2 (by decide) (by decide)
  obtain ⟨final, placed', stands'⟩ := lives 0 marker rfl 3 (by decide) (by decide)
  have passed : Between course 0 2 Step.IsPass := ⟨1, _, by decide, by decide, rfl, trivial⟩
  have decided : marker.DecidedBy [arrival] { second := 1709294460, nano := 0 } watcher.limits :=
    .inr ⟨arrival, List.mem_singleton_self _, by decide, by decide⟩
  obtain rfl := stands.pending passed undecided
  obtain ⟨r, rfl, _⟩ := stands'.resolved 2 _ _ _ (by decide) (by decide) rfl rfl decided undecided
  exact ⟨book, r, placed, placed'⟩

end Outage
end DeliveryProbe.Watcher
