import DeliveryProbe.Proofs.Ledger
import Mathlib.Data.List.Induction

/-! Conservation of markers over the runs of a tracker. Registrations, drains and reconciliations may
follow each other in any order, with any arguments: each registration of a channel waits, is pending, or
has been returned by one reconciliation of that channel. -/
namespace DeliveryProbe.Tracker
open Ledger

def Step.registered (c : Channel) : Step → List Marker
  | .register d m => if d = c then [m] else []
  | _ => []

/-- The resolutions of a channel in the reply to a step: only its own reconciliations have any. -/
def Step.returned (c : Channel) : Step → Reply → List Resolution
  | .reconcile d _ _ _, .resolved rs => if d = c then rs else []
  | _, _ => []

def registered (c : Channel) (steps : List Step) : List Marker := steps.flatMap (Step.registered c)

def returned (c : Channel) (steps : List Step) (call : Nat) : List Resolution :=
  match steps[call]?, (run (some empty) steps)[call]? with
  | some s, some (reply, _) => s.returned c reply
  | _, _ => []

theorem after_concat (t? : Option Tracker) (steps : List Step) (s : Step) :
    after t? (steps ++ [s]) = (step (after t? steps) s).2 := by
  rw [after, List.foldl_concat, after]

theorem registered_concat (c : Channel) (steps : List Step) (s : Step) :
    registered c (steps ++ [s]) = registered c steps ++ s.registered c := by
  rw [registered, List.flatMap_append, List.flatMap_singleton, registered]

theorem returned_eq (c : Channel) (steps : List Step) :
    returned c steps =
      numbered (fun before s => s.returned c (step (after (some empty) before) s).1) steps := by
  funext call
  rw [returned, getElem?_run, numbered]
  cases steps[call]? <;> rfl

/-- What a step makes of an entry of the ledger of a channel. -/
def Step.onEntry (c : Channel) (call : Nat) : Step → Entry → Entry
  | .drain => Entry.drained
  | .reconcile d events now limits =>
    if d = c then Entry.judged call fun m => m.judge events now limits else id
  | .register .. | .drop => id

def Step.onLedger (c : Channel) (call : Nat) (s : Step) (book : Ledger) : Ledger :=
  book.map (s.onEntry c call) ++ (s.registered c).map fun m => { marker := m, standing := .waiting }

theorem balanced_step {c : Channel} {markers : List Marker} {given : Nat → List Resolution}
    {t : Tracker} {book : Ledger} {call : Nat} (balanced : Balanced c markers given t book)
    (fresh : given call = []) (s : Step) (kept : s ≠ .drop) :
    ∃ t', (step (some t) s).2 = some t' ∧
      Balanced c (markers ++ s.registered c)
        (Function.update given call (s.returned c (step (some t) s).1)) t' (s.onLedger c call book) := by
  have silent : Function.update given call [] = given := by rw [← fresh, Function.update_eq_self]
  cases s with
  | register d m =>
    refine ⟨t.register d m, rfl, ?_⟩
    simp only [Step.returned, silent, Step.onLedger, Step.onEntry, List.map_id]
    by_cases same : d = c
    · subst same
      simpa [Step.registered] using balanced.register m
    · simpa [Step.registered, same] using balanced.register_of_ne same m
  | drain =>
    refine ⟨t.drain, rfl, ?_⟩
    simpa only [Step.returned, silent, Step.registered, Step.onLedger, Step.onEntry, List.map_nil,
      List.append_nil] using balanced.drain
  | reconcile d events now limits =>
    refine ⟨(t.reconcile d events now limits).2, rfl, ?_⟩
    by_cases same : d = c
    · subst same
      have judged := balanced.reconcile fresh events now limits
      simpa [Step.registered, Step.returned, step, Step.onLedger, Step.onEntry] using judged
    · have judged := balanced.reconcile_of_ne same events now limits
      simpa only [Step.registered, Step.returned, step, same, if_false, silent, Step.onLedger, Step.onEntry,
        List.map_id, List.map_nil, List.append_nil] using judged
  | drop => contradiction

theorem balanced_run (steps : List Step) (kept : Step.drop ∉ steps) (c : Channel) :
    ∃ t book, after (some empty) steps = some t ∧
      Balanced c (registered c steps) (returned c steps) t book := by
  induction steps using List.reverseRecOn with
  | nil => exact ⟨empty, [], rfl, Balanced.empty c⟩
  | append_singleton steps s ih =>
    simp only [List.mem_append, List.mem_singleton, not_or] at kept
    obtain ⟨t, book, reached, balanced⟩ := ih kept.1
    obtain ⟨t', stepped, balanced'⟩ :=
      balanced_step balanced (by rw [returned_eq, numbered_length]) s (Ne.symm kept.2)
    refine ⟨t', s.onLedger c steps.length book, ?_, ?_⟩
    · rw [after_concat, reached, stepped]
    · rw [registered_concat, returned_eq, numbered_concat, reached, ← returned_eq]
      exact balanced'

/-- No marker is lost, duplicated or moved between channels, and the drains count what they take. -/
theorem registrations_partitioned (steps : List Step) (kept : Step.drop ∉ steps) (c : Channel) :
    ∃ t book, after (some empty) steps = some t ∧
      Balanced c (registered c steps) (returned c steps) t book ∧
      (t.pending c ++ t.waitingOn c).Sublist (registered c steps) ∧
      ∀ n, steps[n]? = some .drain → ∃ before left,
        after (some empty) (steps.take n) = some before ∧
          (run (some empty) steps)[n]? = some (.drained before.waiting.length, some left) ∧
          left.waiting = [] := by
  obtain ⟨t, book, reached, balanced⟩ := balanced_run steps kept c
  refine ⟨t, book, reached, balanced, balanced.outstanding_sublist, ?_⟩
  intro n drains
  obtain ⟨before, _, earlier, _⟩ :=
    balanced_run (steps.take n) (fun member => kept (List.mem_of_mem_take member)) c
  refine ⟨before, before.drain, earlier, ?_, before.waiting_drain⟩
  rw [getElem?_run, drains, earlier, Option.map_some]
  simp only [step, drainCounting_count, drain]

/-- One marker registered twice, with a drain and a reconciliation between the two. -/
def registeredTwice : List Step :=
  let m : Marker := { id := "7", emittedAt := { second := 0, nano := 0 } }
  [.register .app m, .drain,
    .reconcile .app [.received "id 7" { second := 1, nano := 0 }] { second := 2, nano := 0 }
      { searchTimeout := 3600, timeToFailure := 60 },
    .register .app m, .register .http m, .drain]

theorem registeredTwice_partitioned :
    Step.drop ∉ registeredTwice ∧ ∃ t book, after (some empty) registeredTwice = some t ∧
      Balanced .app (registered .app registeredTwice) (returned .app registeredTwice) t book ∧
      (t.pending .app ++ t.waitingOn .app).Sublist (registered .app registeredTwice) ∧
      ∀ n, registeredTwice[n]? = some .drain → ∃ before left,
        after (some empty) (registeredTwice.take n) = some before ∧
          (run (some empty) registeredTwice)[n]? = some (.drained before.waiting.length, some left) ∧
          left.waiting = [] :=
  have kept : Step.drop ∉ registeredTwice := by simp [registeredTwice]
  ⟨kept, registrations_partitioned registeredTwice kept .app⟩

end DeliveryProbe.Tracker
