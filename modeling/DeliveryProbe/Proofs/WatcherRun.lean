import DeliveryProbe.Proofs.Ledger
import DeliveryProbe.Watcher
import Mathlib.Data.List.Induction

/-! Runs of a watcher: registrations and passes in any order, each pass with a search, clock readings and
write answers of its own. The ledger of a channel is kept through such a run step by step, so that every
registration keeps its place in it. -/
namespace DeliveryProbe

namespace Pass

def returned (p : Pass) : List (Channel × Resolution) :=
  match p.result with
  | .ok rs => rs
  | .error _ => []

def resolutions (p : Pass) (c : Channel) : List Resolution :=
  p.returned.filterMap fun (d, r) => if d = c then some r else none

theorem mem_resolutions {p : Pass} {c : Channel} {r : Resolution} : r ∈ p.resolutions c ↔ (c, r) ∈ p.returned := by
  constructor
  · intro resolved
    obtain ⟨⟨d, r'⟩, returned, same⟩ := List.mem_filterMap.mp resolved
    obtain ⟨rfl, found⟩ := Option.ite_none_right_eq_some.mp same
    obtain rfl := Option.some.inj found
    exact returned
  · exact fun returned => List.mem_filterMap.mpr ⟨(c, r), returned, if_pos rfl⟩

end Pass

namespace Watcher
open Ledger

/-- The reading of the clock by which a pass with a successful search judges a channel. -/
def reading (w : Watcher) (t : Tracker) (events : List Event) (clock : Channel → Nat → Instant) :
    Channel → Instant
  | .app => clock .app 0
  | .http => clock .http (t.drain.reconcile .app events (clock .app 0) w.limits).1.length

section Pass
variable (w : Watcher) (t : Tracker) {search : Search.Reply} (clock : Channel → Nat → Instant) (sink : Sink)
  (firstWrite : Nat)

theorem pass_failed {f : Failure} (failed : search.result = .error f) :
    w.pass t search clock sink firstWrite =
      { result := .error f
        tracker := t.drain
        trace := w.opening t.drain search ++ .metric .searchFailed :: searchComplaint f } := by
  simp only [pass, failed]

theorem returned_failed {f : Failure} (failed : search.result = .error f) :
    (w.pass t search clock sink firstWrite).returned = [] := by
  rw [pass_failed w t clock sink firstWrite failed, Pass.returned]

theorem resolutions_failed {f : Failure} (failed : search.result = .error f) (c : Channel) :
    (w.pass t search clock sink firstWrite).resolutions c = [] := by
  rw [Pass.resolutions, returned_failed w t clock sink firstWrite failed, List.filterMap_nil]

/-- The app channel is judged first, and the http channel by what is left of the tracker. -/
theorem pass_tracker {events : List Event} (found : search.result = .ok events) :
    (w.pass t search clock sink firstWrite).tracker =
      ((t.drain.reconcile .app events (w.reading t events clock .app) w.limits).2.reconcile .http events
        (w.reading t events clock .http) w.limits).2 := by
  simp only [pass, found, reading]

theorem returned_found {events : List Event} (found : search.result = .ok events) :
    (w.pass t search clock sink firstWrite).returned =
      (t.drain.reconcile .app events (w.reading t events clock .app) w.limits).1.map (Prod.mk .app) ++
        ((t.drain.reconcile .app events (w.reading t events clock .app) w.limits).2.reconcile .http events
          (w.reading t events clock .http) w.limits).1.map (Prod.mk .http) := by
  simp only [pass, found, reading, Pass.returned]

theorem filterMap_channel (c d : Channel) (rs : List Resolution) :
    (rs.map (Prod.mk d)).filterMap (fun (e, r) => if e = c then some r else none) =
      if d = c then rs else [] := by
  by_cases same : d = c <;> simp [same, List.filterMap_map]

theorem resolutions_app {events : List Event} (found : search.result = .ok events) :
    (w.pass t search clock sink firstWrite).resolutions .app =
      (t.drain.reconcile .app events (w.reading t events clock .app) w.limits).1 := by
  rw [Pass.resolutions, returned_found w t clock sink firstWrite found]
  simp only [List.filterMap_append, filterMap_channel, reduceCtorEq, if_true, if_false, List.append_nil]

theorem resolutions_http {events : List Event} (found : search.result = .ok events) :
    (w.pass t search clock sink firstWrite).resolutions .http =
      ((t.drain.reconcile .app events (w.reading t events clock .app) w.limits).2.reconcile .http events
        (w.reading t events clock .http) w.limits).1 := by
  rw [Pass.resolutions, returned_found w t clock sink firstWrite found]
  simp only [List.filterMap_append, filterMap_channel, reduceCtorEq, if_true, if_false, List.nil_append]

theorem resolutions_found {events : List Event} (found : search.result = .ok events) (c : Channel) :
    (w.pass t search clock sink firstWrite).resolutions c =
      (t.outstanding c).filterMap fun m => m.judge events (w.reading t events clock c) w.limits := by
  cases c with
  | app =>
    rw [resolutions_app w t clock sink firstWrite found, Tracker.resolutions_reconcile, Tracker.pending_drain]
  | http =>
    rw [resolutions_http w t clock sink firstWrite found, Tracker.resolutions_reconcile,
      Tracker.pending_reconcile_of_ne _ (by decide), Tracker.pending_drain]

theorem outstanding_found {events : List Event} (found : search.result = .ok events) (c : Channel) :
    (w.pass t search clock sink firstWrite).tracker.outstanding c =
      (t.outstanding c).filter fun m => (m.judge events (w.reading t events clock c) w.limits).isNone := by
  rw [pass_tracker w t clock sink firstWrite found, Tracker.outstanding, Tracker.waitingOn_reconcile,
    Tracker.waitingOn_reconcile, Tracker.waitingOn_drain, List.append_nil]
  cases c with
  | app =>
    rw [Tracker.pending_reconcile_of_ne _ (by decide), Tracker.pending_reconcile, Tracker.pending_drain]
  | http =>
    rw [Tracker.pending_reconcile, Tracker.pending_reconcile_of_ne _ (by decide), Tracker.pending_drain]

theorem returned_eq :
    (w.pass t search clock sink firstWrite).returned =
      ((w.pass t search clock sink firstWrite).resolutions .app).map (Prod.mk .app) ++
        ((w.pass t search clock sink firstWrite).resolutions .http).map (Prod.mk .http) := by
  cases answer : search.result with
  | error f =>
    rw [resolutions_failed w t clock sink firstWrite answer, resolutions_failed w t clock sink firstWrite answer,
      returned_failed w t clock sink firstWrite answer, List.map_nil, List.map_nil, List.append_nil]
  | ok events =>
    rw [resolutions_app w t clock sink firstWrite answer, resolutions_http w t clock sink firstWrite answer,
      returned_found w t clock sink firstWrite answer]

variable {t} {c : Channel} {markers : List Marker} {given : Nat → List Resolution} {book : Ledger}

theorem balanced_failed (balanced : Balanced c markers given t book) {f : Failure}
    (failed : search.result = .error f) :
    Balanced c markers given (w.pass t search clock sink firstWrite).tracker (book.map Entry.drained) := by
  rw [pass_failed w t clock sink firstWrite failed]
  exact balanced.drain

theorem balanced_found (balanced : Balanced c markers given t book) {call : Nat} (fresh : given call = [])
    {events : List Event} (found : search.result = .ok events) :
    Balanced c markers
      (Function.update given call ((w.pass t search clock sink firstWrite).resolutions c))
      (w.pass t search clock sink firstWrite).tracker
      ((book.map Entry.drained).map
        (Entry.judged call fun m => m.judge events (w.reading t events clock c) w.limits)) := by
  rw [pass_tracker w t clock sink firstWrite found]
  cases c with
  | app =>
    rw [resolutions_app w t clock sink firstWrite found]
    exact (balanced.drain.reconcile fresh _ _ _).reconcile_of_ne (by decide) _ _ _
  | http =>
    rw [resolutions_http w t clock sink firstWrite found]
    exact (balanced.drain.reconcile_of_ne (by decide) _ _ _).reconcile fresh _ _ _

end Pass

/-- What can happen to a watcher. A pass reads the clock once for each channel; between any two readings
the clock may have been moved, forwards or backwards. -/
inductive Step where
  | register (channel : Channel) (marker : Marker)
  | pass (search : Search.Reply) (now : Channel → Instant) (sink : Sink) (firstWrite : Nat)

namespace Step

def registered (c : Channel) : Step → List Marker
  | .register d m => if d = c then [m] else []
  | .pass .. => []

def IsPass : Step → Prop
  | .register .. => False
  | .pass .. => True

/-- What a pass with a successful search judges the markers of a channel by. -/
def evidence? (c : Channel) : Step → Option (List Event × Instant)
  | .register .. => none
  | .pass search now _ _ =>
    match search.result with
    | .ok events => some (events, now c)
    | .error _ => none

end Step

def step (w : Watcher) (t : Tracker) : Step → Tracker
  | .register c m => t.register c m
  | .pass search now sink firstWrite => (w.pass t search (fun c _ => now c) sink firstWrite).tracker

def after (w : Watcher) (steps : List Step) : Tracker := steps.foldl w.step .empty

def Step.returned (w : Watcher) (t : Tracker) (c : Channel) : Step → List Resolution
  | .register .. => []
  | .pass search now sink firstWrite => (w.pass t search (fun c _ => now c) sink firstWrite).resolutions c

def registered (c : Channel) (steps : List Step) : List Marker := steps.flatMap (Step.registered c)

def returned (w : Watcher) (c : Channel) (steps : List Step) : Nat → List Resolution :=
  numbered (fun before s => s.returned w (w.after before) c) steps

/-- What a step makes of an entry of the ledger of a channel. -/
def Step.onEntry (w : Watcher) (c : Channel) (call : Nat) : Step → Entry → Entry
  | .register .., e => e
  | .pass search now _ _, e =>
    match search.result with
    | .ok events => e.drained.judged call fun m => m.judge events (now c) w.limits
    | .error _ => e.drained

section OnEntry
variable (w : Watcher) (c : Channel) (call : Nat) {search : Search.Reply} (now : Channel → Instant)
  (sink : Sink) (firstWrite : Nat)

theorem onEntry_register (d : Channel) (m : Marker) : (Step.register d m).onEntry w c call = id := rfl

theorem onEntry_failed {f : Failure} (failed : search.result = .error f) :
    (Step.pass search now sink firstWrite).onEntry w c call = Entry.drained := by
  funext e
  simp only [Step.onEntry, failed]

theorem onEntry_found {events : List Event} (found : search.result = .ok events) :
    (Step.pass search now sink firstWrite).onEntry w c call =
      Entry.judged call (fun m => m.judge events (now c) w.limits) ∘ Entry.drained := by
  funext e
  simp only [Step.onEntry, found, Function.comp_def]

end OnEntry

def Step.onLedger (w : Watcher) (c : Channel) (call : Nat) (s : Step) (book : Ledger) : Ledger :=
  book.map (s.onEntry w c call) ++ (s.registered c).map fun m => { marker := m, standing := .waiting }

/-- The ledger of a channel after a run; a step goes by its number. -/
def ledger (w : Watcher) (c : Channel) (steps : List Step) : Ledger :=
  steps.zipIdx.foldl (fun book (s, call) => s.onLedger w c call book) []

theorem after_concat (w : Watcher) (steps : List Step) (s : Step) :
    w.after (steps ++ [s]) = w.step (w.after steps) s := by
  rw [after, List.foldl_concat, after]

theorem registered_concat (c : Channel) (steps : List Step) (s : Step) :
    registered c (steps ++ [s]) = registered c steps ++ s.registered c := by
  rw [registered, List.flatMap_append, List.flatMap_singleton, registered]

theorem ledger_concat (w : Watcher) (c : Channel) (steps : List Step) (s : Step) :
    w.ledger c (steps ++ [s]) = s.onLedger w c steps.length (w.ledger c steps) := by
  rw [ledger, List.zipIdx_append, List.foldl_append, Nat.zero_add]
  rfl

theorem reading_const (w : Watcher) (t : Tracker) (events : List Event) (now : Channel → Instant)
    (c : Channel) : w.reading t events (fun c _ => now c) c = now c := by cases c <;> rfl

theorem balanced_step {w : Watcher} {c : Channel} {markers : List Marker} {given : Nat → List Resolution}
    {t : Tracker} {book : Ledger} {call : Nat} (balanced : Balanced c markers given t book)
    (fresh : given call = []) (s : Step) :
    Balanced c (markers ++ s.registered c) (Function.update given call (s.returned w t c)) (w.step t s)
      (s.onLedger w c call book) := by
  have silent : Function.update given call [] = given := by rw [← fresh, Function.update_eq_self]
  cases s with
  | register d m =>
    rw [Step.returned, silent, Step.onLedger, onEntry_register, List.map_id]
    by_cases same : d = c
    · subst same
      simpa [Step.registered, step] using balanced.register m
    · simpa [Step.registered, step, same] using balanced.register_of_ne same m
  | pass search now sink firstWrite =>
    simp only [Step.registered, List.append_nil, Step.onLedger, List.map_nil, Step.returned]
    cases answer : search.result with
    | error f =>
      rw [resolutions_failed w t _ sink firstWrite answer, silent, onEntry_failed w c call now _ _ answer]
      exact balanced_failed w _ sink firstWrite balanced answer
    | ok events =>
      have judged := balanced_found w (fun c _ => now c) sink firstWrite balanced fresh answer
      rw [reading_const, List.map_map] at judged
      rw [onEntry_found w c call now _ _ answer]
      exact judged

theorem balanced_ledger (w : Watcher) (c : Channel) (steps : List Step) :
    Balanced c (registered c steps) (w.returned c steps) (w.after steps) (w.ledger c steps) := by
  induction steps using List.reverseRecOn with
  | nil => exact Balanced.empty c
  | append_singleton steps s ih =>
    rw [registered_concat, returned, numbered_concat, after_concat, ledger_concat]
    exact balanced_step ih (numbered_length _ steps) s

/-- What a pass returns in a run is the verdict on a marker that was registered before. -/
theorem verdict_of_returned {w : Watcher} {steps : List Step} {search : Search.Reply} {now : Channel → Instant}
    {sink : Sink} {firstWrite : Nat} {c : Channel} {r : Resolution}
    (returned : (c, r) ∈ (w.pass (w.after steps) search (fun c _ => now c) sink firstWrite).returned) :
    ∃ events, search.result = .ok events ∧ ∃ m ∈ registered c steps, m.Verdict events (now c) w.limits r := by
  have resolved := Pass.mem_resolutions.mpr returned
  cases answer : search.result with
  | error f =>
    rw [resolutions_failed w _ _ sink firstWrite answer] at resolved
    contradiction
  | ok events =>
    rw [resolutions_found w _ _ sink firstWrite answer, reading_const] at resolved
    obtain ⟨m, waits, judged⟩ := List.mem_filterMap.mp resolved
    exact ⟨events, rfl, m, (balanced_ledger w c steps).outstanding_sublist.subset waits,
      Marker.judge_correct.mp judged⟩

end Watcher
end DeliveryProbe
