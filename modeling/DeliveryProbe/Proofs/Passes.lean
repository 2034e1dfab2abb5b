import DeliveryProbe.Proofs.Consistency
import Mathlib.Data.List.TakeWhile

/-! The passes of a run, read off its moments. What a pass shows stands between its search and the search
after it, whatever the emitters do in between. Each pass that shows is that of a state to which the run had
come when it began, and the samples of a run are numbered through its passes. -/
namespace DeliveryProbe.Monitor

namespace Moment

def search? (m : Moment) : Option Nat :=
  match m.action with
  | .search => some m.time
  | _ => none

def isWrite (m : Moment) : Bool :=
  match m.action with
  | .write _ => true
  | _ => false

/-- Whether a moment is one of a pass that has begun: a write, or the end. -/
def ofPass (m : Moment) : Bool :=
  match m.action with
  | .write _ | .passEnded .. => true
  | _ => false

end Moment

/-- A pass as it shows: when it began, and then its writes and its end. -/
structure PassRecord where
  begun : Nat
  shown : List Moment

def PassRecord.writes (p : PassRecord) : Nat := p.shown.countP Moment.isWrite

/-- What still shows of the pass that has begun last. -/
def following (ms : List Moment) : List Moment :=
  (ms.takeWhile fun m => m.search?.isNone).filter Moment.ofPass

def passes : List Moment → List PassRecord
  | [] => []
  | m :: ms =>
    match m.search? with
    | some begun => { begun, shown := following ms } :: passes ms
    | none => passes ms

def writesBefore (ms : List Moment) (n : Nat) : Nat :=
  (((passes ms).take n).flatMap (·.shown)).countP Moment.isWrite

/-- How long a pass of a run lasts: its search and then its writes, which follow those of the passes before. -/
def Setup.passLasts (s : Setup) (ms : List Moment) (n : Nat) : Nat :=
  s.pipeline.searchTakes n + s.pipeline.writing (writesBefore ms n) ((passes ms)[n]?.elim 0 (·.writes))

section Views
variable {ms ms' : List Moment}

theorem passes_begun (ms : List Moment) : (passes ms).map (·.begun) = ms.filterMap Moment.search? := by
  induction ms with
  | nil => rfl
  | cons m ms ih =>
    rw [passes]
    cases begins : m.search? with
    | none => rw [List.filterMap_cons_none begins, ← ih]
    | some begun => rw [List.filterMap_cons_some begins, ← ih, List.map_cons]

theorem following_append (quiet : following ms' = []) : following (ms ++ ms') = following ms := by
  unfold following at quiet ⊢
  rw [List.takeWhile_append]
  split
  · next whole =>
    have all : ms.takeWhile (fun m => m.search?.isNone) = ms :=
      (List.takeWhile_prefix _).eq_of_length whole
    rw [List.filter_append, quiet, List.append_nil, all]
  · rfl

theorem passes_append (quiet : following ms' = []) : passes (ms ++ ms') = passes ms ++ passes ms' := by
  induction ms with
  | nil => rfl
  | cons m ms ih =>
    rw [List.cons_append, passes, passes]
    cases m.search? with
    | none => exact ih
    | some begun => rw [following_append quiet, ih, List.cons_append]

theorem passes_nil (silent : ∀ m ∈ ms, m.search? = none) : passes ms = [] := by
  have nothing : (passes ms).map (·.begun) = [] := by
    rw [passes_begun]
    exact List.filterMap_eq_nil_iff.mpr silent
  exact List.map_eq_nil_iff.mp nothing

theorem passes_quiet (others : ∀ m ∈ ms', m.search? = none ∧ m.ofPass = false) :
    passes (ms ++ ms') = passes ms := by
  have none : following ms' = [] := by
    apply List.filter_eq_nil_iff.mpr
    intro m member
    rw [(others m ((List.takeWhile_sublist _).subset member)).2]
    exact Bool.false_ne_true
  rw [passes_append none, passes_nil fun m member => (others m member).1, List.append_nil]

end Views

section PassMoments
variable (s : Setup) (st : State)

theorem mem_writeMoments {p : Pipeline} {call time : Nat} {samples : List Sample} {m : Moment}
    (member : m ∈ writeMoments p call time samples) :
    (∃ sample, m.action = .write sample) ∧ time ≤ m.time ∧ m.time ≤ time + p.writing call samples.length := by
  induction samples generalizing call time with
  | nil => contradiction
  | cons sample samples ih =>
    rw [List.length_cons, Pipeline.writing]
    rcases List.mem_cons.mp member with rfl | later
    · exact ⟨⟨sample, rfl⟩, Nat.le_refl _, Nat.le_add_right _ _⟩
    · obtain ⟨write, after, before⟩ := ih later
      exact ⟨write, by omega, by omega⟩

theorem length_writeMoments (p : Pipeline) (call time : Nat) (samples : List Sample) :
    (writeMoments p call time samples).length = samples.length := by
  induction samples generalizing call time with
  | nil => rfl
  | cons sample samples ih => rw [writeMoments, List.length_cons, ih, List.length_cons]

def passRecord (t : Tracker) : PassRecord :=
  { begun := st.watch.next
    shown :=
      writeMoments s.pipeline st.writes (searched s st) (samples s st) ++
        [{ time := st.watch.next + passTakes s st, action := .passEnded (answered s st) t }] }

theorem mem_shown {t : Tracker} {m : Moment} (member : m ∈ (passRecord s st t).shown) :
    m.search? = none ∧ m.ofPass = true ∧ searched s st ≤ m.time ∧ m.time ≤ st.watch.next + passTakes s st := by
  have bounds : st.watch.next + passTakes s st =
      searched s st + s.pipeline.writing st.writes (samples s st).length := (Nat.add_assoc _ _ _).symm
  rcases List.mem_append.mp member with write | last
  · obtain ⟨⟨sample, action⟩, after, before⟩ := mem_writeMoments write
    refine ⟨?_, ?_, after, by omega⟩
    · rw [Moment.search?, action]
    · rw [Moment.ofPass, action]
  · obtain rfl := List.mem_singleton.mp last
    refine ⟨rfl, rfl, ?_, Nat.le_refl _⟩
    change _ ≤ st.watch.next + passTakes s st
    omega

theorem writes_passRecord (t : Tracker) : (passRecord s st t).writes = (samples s st).length := by
  have all : (writeMoments s.pipeline st.writes (searched s st) (samples s st)).countP Moment.isWrite =
      (samples s st).length := by
    rw [← length_writeMoments s.pipeline st.writes (searched s st)]
    apply List.countP_eq_length.mpr
    intro m member
    obtain ⟨⟨sample, action⟩, -⟩ := mem_writeMoments member
    rw [Moment.isWrite, action]
  rw [PassRecord.writes, passRecord, List.countP_append, all]
  rfl

theorem passes_passMoments (t : Tracker) : passes (passMoments s st t) = [passRecord s st t] := by
  have shown : following (passRecord s st t).shown = (passRecord s st t).shown := by
    have whole : (passRecord s st t).shown.takeWhile (fun m => m.search?.isNone) = (passRecord s st t).shown := by
      apply List.takeWhile_eq_self_iff.mpr
      intro m member
      rw [(mem_shown s st member).1]
      rfl
    rw [following, whole]
    exact List.filter_eq_self.mpr fun m member => (mem_shown s st member).2.1
  have rest : passes (passRecord s st t).shown = [] :=
    passes_nil fun m member => (mem_shown s st member).1
  change { begun := st.watch.next, shown := following (passRecord s st t).shown } ::
    passes (passRecord s st t).shown = _
  rw [shown, rest]
  rfl

theorem passes_watchTick (ms : List Moment) (t : Tracker) :
    passes (ms ++ passMoments s st t) = passes ms ++ [passRecord s st t] := by
  have quiet : following (passMoments s st t) = [] := rfl
  rw [passes_append quiet, passes_passMoments]

end PassMoments

section Steps
variable {s : Setup} {ms : List Moment} {st : State}

/-- What the step of another task leaves to the watcher. -/
structure Unwatched (st : State) (out : List Moment × State) : Prop where
  others : ∀ m ∈ out.1, m.search? = none ∧ m.ofPass = false
  watch : out.2.watch = st.watch
  searches : out.2.searches = st.searches
  writes : out.2.writes = st.writes

/-- The watcher's whole pass in one step. -/
structure Passed (s : Setup) (st : State) (t : Tracker) (out : List Moment × State) : Prop where
  turn : Turn s st st.watch
  kept : ∀ c, t.outstanding c =
    (st.tracker.outstanding c).filter fun m => (verdict? s st (reading s st c) m).isNone
  effect : out =
    (passMoments s st t,
      { st with
        watch := st.watch.tick (passTakes s st)
        tracker := t
        searches := st.searches + 1
        writes := st.writes + (samples s st).length })

theorem mem_registrations {time : Nat} {c : Channel} {e : Emission} {m : Moment}
    (member : m ∈ registrations time c e) : m.time = time ∧ m.search? = none ∧ m.ofPass = false := by
  unfold registrations at member
  split at member
  · obtain rfl := List.mem_singleton.mp member
    exact ⟨rfl, rfl, rfl⟩
  · contradiction

theorem unwatched_or_passed {out : List Moment × State} (next : Next s st out) :
    Unwatched st out ∨ ∃ t, Passed s st t out := by
  cases next with
  | httpTick =>
    left
    refine ⟨?_, rfl, rfl, rfl⟩
    intro m member
    obtain rfl := List.mem_singleton.mp member
    exact ⟨rfl, rfl⟩
  | appTick =>
    left
    refine ⟨?_, rfl, rfl, rfl⟩
    intro m member
    rcases List.mem_cons.mp member with rfl | registers
    · exact ⟨rfl, rfl⟩
    · exact (mem_registrations registers).2
  | watchTick turn =>
    right
    obtain ⟨t, kept, effect⟩ := watchTick_eq s st
    exact ⟨t, turn, kept, effect⟩
  | requestEnd =>
    left
    refine ⟨?_, rfl, rfl, rfl⟩
    intro m member
    exact (mem_registrations member).2

/-- The counts of a state are those of the passes that have begun and of the samples that they wrote. -/
structure Counted (ms : List Moment) (st : State) : Prop where
  searches : (passes ms).length = st.searches
  writes : writesBefore ms st.searches = st.writes

theorem writesBefore_watchTick (counted : Counted ms st) (t : Tracker) {n : Nat} (listed : n ≤ st.searches) :
    writesBefore (ms ++ passMoments s st t) n = writesBefore ms n := by
  rw [← counted.searches] at listed
  rw [writesBefore, passes_watchTick, List.take_append_of_le_length listed, writesBefore]

theorem counted_step (counted : Counted ms st) {out : List Moment × State} (next : Next s st out) :
    Counted (ms ++ out.1) out.2 := by
  rcases unwatched_or_passed next with idle | ⟨t, passed⟩
  · constructor
    case searches => rw [passes_quiet idle.others, idle.searches, counted.searches]
    case writes =>
      rw [writesBefore, passes_quiet idle.others, idle.searches, idle.writes]
      exact counted.writes
  · have count := counted.searches
    rw [passed.effect]
    constructor
    case searches =>
      rw [passes_watchTick, List.length_append, count]
      rfl
    case writes =>
      have old : ((passes ms).flatMap (·.shown)).countP Moment.isWrite = st.writes := by
        have all := counted.writes
        rwa [writesBefore, List.take_of_length_le (Nat.le_of_eq count)] at all
      have whole : (passes ms ++ [passRecord s st t]).length ≤ st.searches + 1 := by
        rw [List.length_append, count]
        exact Nat.le_refl _
      rw [writesBefore, passes_watchTick, List.take_of_length_le whole, List.flatMap_append,
        List.flatMap_singleton, List.countP_append, old]
      exact congrArg (st.writes + ·) (writes_passRecord s st t)

theorem counted_reached (reached : Reached s ms st) : Counted ms st := by
  induction reached with
  | start starts =>
    have fresh := fresh_of_start starts
    refine ⟨fresh.searches.symm, ?_⟩
    rw [fresh.searches, fresh.writes]
    rfl
  | step _ taken ih => exact counted_step ih (next_of_step taken)

theorem passLasts_unwatched {out : List Moment × State} (idle : Unwatched st out) (n : Nat) :
    s.passLasts (ms ++ out.1) n = s.passLasts ms n := by
  simp only [Setup.passLasts, writesBefore, passes_quiet idle.others]

/-- A pass takes its place behind those that have ended, and moves none of them. -/
theorem passLasts_watchTick (counted : Counted ms st) (t : Tracker) :
    s.passLasts (ms ++ passMoments s st t) st.searches = passTakes s st ∧
      ∀ n < st.searches, s.passLasts (ms ++ passMoments s st t) n = s.passLasts ms n := by
  have count := counted.searches
  constructor
  · have last : (passes ms ++ [passRecord s st t])[st.searches]? = some (passRecord s st t) := by
      rw [← count, List.getElem?_concat_length]
    rw [Setup.passLasts, writesBefore_watchTick counted t (Nat.le_refl _), counted.writes, passes_watchTick, last,
      Option.elim_some, writes_passRecord, passTakes]
  · intro n earlier
    have old : n < (passes ms).length := by omega
    rw [Setup.passLasts, writesBefore_watchTick counted t (Nat.le_of_lt earlier), passes_watchTick,
      List.getElem?_append_left old, Setup.passLasts]

/-- The pass of a run with the given number, the state in which it began and what the run had done by then. -/
structure Conducted (s : Setup) (ms : List Moment) (n : Nat) (p : PassRecord) (before : List Moment)
    (st : State) (t : Tracker) : Prop where
  reached : Reached s before st
  within : (before ++ passMoments s st t).IsPrefix ms
  number : st.searches = n
  kept : ∀ c, t.outstanding c =
    (st.tracker.outstanding c).filter fun m => (verdict? s st (reading s st c) m).isNone
  record : p = passRecord s st t
  lasts : s.passLasts ms n = passTakes s st

theorem Conducted.mono {n : Nat} {p : PassRecord} {before ms' : List Moment} {t : Tracker}
    (conducted : Conducted s ms n p before st t) (lasts : s.passLasts (ms ++ ms') n = s.passLasts ms n) :
    Conducted s (ms ++ ms') n p before st t :=
  { conducted with
    within := conducted.within.trans (List.prefix_append ms ms')
    lasts := lasts.trans conducted.lasts }

theorem conducted_reached (reached : Reached s ms st) {n : Nat} {p : PassRecord}
    (listed : (passes ms)[n]? = some p) : ∃ before st' t, Conducted s ms n p before st' t := by
  induction reached with
  | start => contradiction
  | @step ms moments st st' before taken ih =>
    have counted := counted_reached before
    rcases unwatched_or_passed (next_of_step taken) with idle | ⟨t, passed⟩
    · rw [passes_quiet idle.others] at listed
      obtain ⟨past, origin, t, conducted⟩ := ih listed
      exact ⟨past, origin, t, conducted.mono (passLasts_unwatched idle n)⟩
    · obtain ⟨rfl, rfl⟩ := Prod.mk.inj passed.effect
      have lasts := passLasts_watchTick (s := s) counted t
      have count := counted.searches
      rw [passes_watchTick] at listed
      -- The pass of this step is the last; the others keep their numbers.
      by_cases old : n < (passes ms).length
      · rw [List.getElem?_append_left old] at listed
        obtain ⟨past, origin, t, conducted⟩ := ih listed
        exact ⟨past, origin, t, conducted.mono (lasts.2 n (by omega))⟩
      · rw [List.getElem?_append_right (Nat.le_of_not_lt old)] at listed
        have last : n = (passes ms).length := by
          have within := (List.getElem?_eq_some_iff.mp listed).1
          rw [List.length_singleton] at within
          omega
        obtain rfl : n = st.searches := last.trans count
        rw [count, Nat.sub_self] at listed
        obtain rfl := Option.some.inj listed
        exact ⟨ms, st, t, before, List.prefix_refl _, rfl, passed.kept, rfl, lasts.1⟩

end Steps
end DeliveryProbe.Monitor
