import DeliveryProbe.Schedule.Task
import Mathlib.Data.List.Basic
import Mathlib.Order.Lattice

/-! The course of a periodic task. Its timer alone says when each tick would begin; the shutdown only says
how many of the ticks do, and when the task ends. -/
namespace DeliveryProbe

namespace Shutdown
variable {s : Shutdown} {free time : Nat}

def Ordered (s : Shutdown) : Prop := s.signals.Pairwise fun a b => a.1 ≤ b.1

instance (s : Shutdown) : Decidable s.Ordered := inferInstanceAs (Decidable (List.Pairwise _ _))

theorem stopsAt_iff : s.stopsAt time = true ↔ s.valueAt time = true ∨ closing s.signals ≤ time := by
  rw [stopsAt, Bool.or_eq_true, decide_eq_true_iff]

/-- The time at which a task learns that it has to stop is not before it looks, and tells it so. -/
theorem stopFrom_spec (s : Shutdown) (free : Nat) :
    free ≤ s.stopFrom free ∧ s.stopsAt (s.stopFrom free) = true := by
  have last : s.stopsAt (max free (closing s.signals)) = true := stopsAt_iff.mpr (.inr (Nat.le_max_right _ _))
  rw [stopFrom]
  cases found : (free :: s.signals.map Prod.fst).find? fun time => free ≤ time && s.stopsAt time with
  | none =>
    rw [Option.getD_none, Nat.min_self]
    exact ⟨Nat.le_max_left _ _, last⟩
  | some look =>
    have stands := List.find?_some found
    rw [Bool.and_eq_true, decide_eq_true_iff] at stands
    rw [Option.getD_some]
    rcases Nat.le_total look (max free (closing s.signals)) with within | beyond
    · rwa [Nat.min_eq_right within]
    · rw [Nat.min_eq_left beyond]
      exact ⟨Nat.le_max_left _ _, last⟩

theorem le_stopFrom (s : Shutdown) (free : Nat) : free ≤ s.stopFrom free := (stopFrom_spec s free).1

theorem stopsAt_stopFrom (s : Shutdown) (free : Nat) : s.stopsAt (s.stopFrom free) = true :=
  (stopFrom_spec s free).2

theorem sent_values {signals : List (Nat × Option Bool)} {e : Nat × Bool} (member : e ∈ sent signals) :
    (e.1, some e.2) ∈ signals := by
  induction signals with
  | nil => contradiction
  | cons signal signals ih =>
    obtain ⟨at', value⟩ := signal
    cases value with
    | none => contradiction
    | some value =>
      rcases List.mem_cons.mp member with rfl | later
      · exact List.mem_cons_self
      · exact List.mem_cons_of_mem _ (ih later)

theorem valueAt_congr {time' : Nat} (same : ∀ u ∈ s.signals.map Prod.fst, u ≤ time ↔ u ≤ time') :
    s.valueAt time = s.valueAt time' := by
  apply List.foldl_ext
  intro value e member
  have listed : e.1 ∈ s.signals.map Prod.fst := List.mem_map_of_mem (sent_values member)
  simp only [same e.1 listed]

theorem exists_look (times : List Nat) (later : free ≤ time) :
    ∃ look ∈ free :: times, free ≤ look ∧ look ≤ time ∧ ∀ u ∈ times, u ≤ look ↔ u ≤ time := by
  induction times with
  | nil => exact ⟨free, List.mem_singleton_self _, Nat.le_refl _, later, fun _ member => nomatch member⟩
  | cons t times ih =>
    obtain ⟨look, member, low, high, same⟩ := ih
    by_cases replaces : look ≤ t ∧ t ≤ time
    · refine ⟨t, by simp, by omega, replaces.2, ?_⟩
      intro u listed
      rcases List.mem_cons.mp listed with rfl | old
      · omega
      · have := same u old
        omega
    · refine ⟨look, ?_, low, high, ?_⟩
      · rcases List.mem_cons.mp member with rfl | old
        · exact List.mem_cons_self
        · exact List.mem_cons_of_mem _ (List.mem_cons_of_mem _ old)
      · intro u listed
        rcases List.mem_cons.mp listed with rfl | old
        · omega
        · exact same u old

/-- The first look that stands is the earliest of them: the one at `free` comes first in the list, and the
others are in the order of their times. -/
theorem earliest_look {times : List Nat} (ordered : times.Pairwise (· ≤ ·)) {stands : Nat → Bool}
    (late : ∀ u, stands u = true → free ≤ u) {first look : Nat}
    (found : (free :: times).find? stands = some first) (member : look ∈ free :: times)
    (holds : stands look = true) : first ≤ look := by
  rw [List.find?_cons] at found
  split at found
  · obtain rfl := Option.some.inj found
    exact late look holds
  · next idle =>
    have listed : look ∈ times := by
      rcases List.mem_cons.mp member with rfl | listed
      · rw [holds] at idle
        contradiction
      · exact listed
    obtain ⟨_, before, after, rfl, skipped⟩ := List.find?_eq_some_iff_append.mp found
    rcases List.mem_append.mp listed with early | rest
    · have refused := skipped look early
      rw [holds] at refused
      contradiction
    · rcases List.mem_cons.mp rest with rfl | later
      · exact Nat.le_refl _
      · exact List.rel_of_pairwise_cons (List.pairwise_append.mp ordered).2.1 later

/-- A task that looks at a time at which it has to stop does not go on beyond it. -/
theorem stopFrom_le_of_stopsAt (ordered : s.Ordered) (later : free ≤ time) (stops : s.stopsAt time = true) :
    s.stopFrom free ≤ time := by
  by_cases closed : closing s.signals ≤ time
  · exact Nat.le_trans (s.stopFrom_le free) (Nat.max_le.mpr ⟨later, closed⟩)
  · have raised := (stopsAt_iff.mp stops).resolve_right closed
    obtain ⟨look, member, low, high, same⟩ := exists_look (s.signals.map Prod.fst) later
    have stands : (free ≤ look && s.stopsAt look) = true := by
      rw [Bool.and_eq_true, decide_eq_true_iff]
      exact ⟨low, stopsAt_iff.mpr (.inl (by rw [valueAt_congr same, raised]))⟩
    rw [stopFrom]
    cases found : (free :: s.signals.map Prod.fst).find? fun time => free ≤ time && s.stopsAt time with
    | none => exact absurd stands (List.find?_eq_none.mp found look member)
    | some first =>
      have earliest : first ≤ look := by
        refine earliest_look (List.pairwise_map.mpr ordered) (fun u holds => ?_) found member stands
        exact of_decide_eq_true (Bool.and_eq_true_iff.mp holds).1
      exact Nat.le_trans (Nat.min_le_right _ _) (Nat.le_trans earliest high)

end Shutdown

namespace Timer

/-- The timer before the tick of the given number, each tick taking its own time. -/
def before (t : Timer) (takes : Nat → Nat) : Nat → Timer
  | 0 => t
  | n + 1 => (t.before takes n).tick (takes n)

theorem before_tick (t : Timer) (takes : Nat → Nat) (n : Nat) :
    (t.tick (takes 0)).before (fun k => takes (k + 1)) n = t.before takes (n + 1) := by
  induction n with
  | zero => rfl
  | succ n ih => exact congrArg (fun u : Timer => u.tick (takes (n + 1))) ih

theorem period_before (t : Timer) (takes : Nat → Nat) (n : Nat) : (t.before takes n).period = t.period := by
  induction n with
  | zero => rfl
  | succ n ih => exact ih

end Timer

/-- A run of a task whose timer stands as given before each tick. A tick begins if it is due before the
task learns that it has to stop, or else if it is overdue and only the sender has gone. -/
structure Course (shutdown : Shutdown) (timers : Nat → Timer) (r : TaskRun) : Prop where
  starts : r.starts = (List.range r.starts.length).map fun k => (timers k).next
  begins : ∀ k < r.starts.length,
    (timers k).next < shutdown.stopFrom (timers k).free ∨
      (timers k).deadline ≤ (timers k).free ∧ shutdown.valueAt (timers k).free = false
  stopped : r.stopped = shutdown.stopFrom (timers r.starts.length).free
  ends : r.stopped ≤ (timers r.starts.length).next

namespace Course
variable {shutdown : Shutdown} {timers : Nat → Timer} {r : TaskRun}

theorem cons (rest : Course shutdown (fun k => timers (k + 1)) r)
    (first : (timers 0).next < shutdown.stopFrom (timers 0).free ∨
      (timers 0).deadline ≤ (timers 0).free ∧ shutdown.valueAt (timers 0).free = false)
    (logs : List LogRecord) :
    Course shutdown timers { starts := (timers 0).next :: r.starts, stopped := r.stopped, logs } where
  starts := by
    rw [List.length_cons, List.range_succ_eq_map, List.map_cons, List.map_map]
    exact congrArg ((timers 0).next :: ·) rest.starts
  begins k within := by
    cases k with
    | zero => exact first
    | succ k => exact rest.begins k (Nat.lt_of_succ_lt_succ within)
  stopped := rest.stopped
  ends := rest.ends

theorem nil (late : shutdown.stopFrom (timers 0).free ≤ (timers 0).next) (logs : List LogRecord) :
    Course shutdown timers { starts := [], stopped := shutdown.stopFrom (timers 0).free, logs } where
  starts := rfl
  begins _ within := absurd within (Nat.not_lt_zero _)
  stopped := rfl
  ends := late

theorem getElem?_starts (course : Course shutdown timers r) (k : Nat) :
    r.starts[k]? = if k < r.starts.length then some (timers k).next else none := by
  split
  · next within =>
    rw [course.starts, List.getElem?_map, List.getElem?_range within, Option.map_some]
  · next beyond => exact List.getElem?_eq_none (Nat.le_of_not_lt beyond)

end Course

namespace Task

theorem course_runFrom (task : String) (shutdown : Shutdown) (ticks : Nat → Tick) (chances : Nat) (t : Timer)
    (n : Nat) :
    Course shutdown (t.before fun k => (ticks (n + k)).takes) (runFrom task shutdown ticks chances t n) := by
  induction chances, t, n using runFrom.induct task shutdown ticks with
  | case1 chances t n stop running tick left ih =>
    have shifted : (t.tick tick.takes).before (fun j => (ticks (n + 1 + j)).takes) =
        fun k => t.before (fun j => (ticks (n + j)).takes) (k + 1) := by
      funext k
      rw [← Timer.before_tick]
      simp only [Nat.add_right_comm n, Nat.add_assoc, Nat.add_zero, tick]
    rw [runFrom, dif_pos running]
    rw [shifted] at ih
    exact ih.cons (running.imp id And.right) _
  | case2 chances t n stop idle =>
    rw [runFrom, dif_neg idle]
    exact .nil (Nat.le_of_not_lt fun inTime => idle (.inl inTime)) _

def timers (period : Nat) (period_pos : 0 < period) (first : FirstTick) (ticks : Nat → Tick) : Nat → Timer :=
  (Timer.start period period_pos first).before fun k => (ticks k).takes

theorem course_run (task : String) (period : Nat) (period_pos : 0 < period) (first : FirstTick)
    (shutdown : Shutdown) (ticks : Nat → Tick) :
    Course shutdown (timers period period_pos first ticks)
      (run task period period_pos first shutdown ticks) := by
  have course := course_runFrom task shutdown ticks shutdown.overlooked (.start period period_pos first) 0
  simp only [Nat.zero_add] at course
  exact ⟨course.starts, course.begins, course.stopped, course.ends⟩

end Task
end DeliveryProbe
