import DeliveryProbe.Proofs.Course

/-! The spacing of the ticks of a periodic task. A tick that begins late moves the deadlines after it, and
one that begins barely late does not; in either case the next deadline lies close to one period after the
beginning, and this bounds the beginning of the next tick from both sides. -/
namespace DeliveryProbe

namespace Timer
variable {t : Timer} {takes : Nat}

theorem deadline_tick_bounds (t : Timer) (takes : Nat) :
    t.next + t.period ≤ (t.tick takes).deadline + tolerance ∧
      (t.tick takes).deadline ≤ t.next + t.period := by
  have due := t.deadline_le_next
  simp only [tick]
  split <;> constructor <;> omega

theorem next_tick_bounds (t : Timer) (takes : Nat) :
    t.next + max takes (t.period - tolerance) ≤ (t.tick takes).next ∧
      (t.tick takes).next ≤ t.next + max takes t.period := by
  obtain ⟨early, late⟩ := deadline_tick_bounds t takes
  have begins : (t.tick takes).next = max (t.tick takes).deadline (t.next + takes) := rfl
  constructor <;> omega

def OnTime (t : Timer) : Prop := t.free ≤ t.deadline

theorem OnTime.next_eq (onTime : t.OnTime) : t.next = t.deadline := Nat.max_eq_left onTime

theorem OnTime.tick (onTime : t.OnTime) (short : takes ≤ t.period) :
    (t.tick takes).OnTime ∧ (t.tick takes).deadline = t.deadline + t.period := by
  have punctual : (t.tick takes).deadline = t.deadline + t.period := by
    simp only [Timer.tick, onTime.next_eq]
    exact if_neg (by omega)
  refine ⟨?_, punctual⟩
  have ended : (t.tick takes).free = t.next + takes := rfl
  rw [OnTime, punctual, ended, onTime.next_eq]
  omega

theorem onTime_before (onTime : t.OnTime) (takes : Nat → Nat) {n : Nat} (short : ∀ k < n, takes k ≤ t.period) :
    (t.before takes n).OnTime ∧ (t.before takes n).deadline = t.deadline + n * t.period := by
  induction n with
  | zero => exact ⟨onTime, by simp [before]⟩
  | succ n ih =>
    obtain ⟨still, grid⟩ := ih fun k earlier => short k (Nat.lt_succ_of_lt earlier)
    have within : takes n ≤ (t.before takes n).period := by
      rw [period_before]
      exact short n (Nat.lt_succ_self n)
    obtain ⟨next, step⟩ := still.tick within
    refine ⟨next, ?_⟩
    rw [before, step, grid, period_before, Nat.succ_mul, Nat.add_assoc]

end Timer

namespace Course
variable {shutdown : Shutdown} {timers : Nat → Timer} {r : TaskRun}

/-- A tick that would begin before there is any reason to stop does begin. -/
theorem begins_of_going (course : Course shutdown timers r)
    (order : ∀ k, (timers k).next ≤ (timers (k + 1)).free)
    {k : Nat} (going : ∀ u ≤ (timers k).next, shutdown.stopsAt u = false) : k < r.starts.length := by
  by_contra none
  have past : (timers r.starts.length).next ≤ (timers k).next := by
    have climbs : Monotone fun j => (timers j).next :=
      monotone_nat_of_le_succ fun j => Nat.le_trans (order j) (Timer.free_le_next _)
    exact climbs (Nat.le_of_not_lt none)
  have told := shutdown.stopsAt_stopFrom (timers r.starts.length).free
  have ends := course.ends
  rw [course.stopped] at ends
  rw [going _ (Nat.le_trans ends past)] at told
  contradiction

end Course

namespace Task

/-- The ticks of a task begin at the times of a schedule that knows nothing of the shutdown, all of them up
to the first time at which there is a reason to stop. No tick begins before the one before has ended, nor
sooner than five milliseconds short of a period after it, nor later than both allow; and ticks that all end
within their period begin exactly on the grid. -/
theorem ticks_spaced (task : String) (period : Nat) (period_pos : 0 < period) (first : FirstTick)
    (shutdown : Shutdown) (ticks : Nat → Tick) :
    let r := run task period period_pos first shutdown ticks
    ∃ begun : Nat → Nat,
      r.starts = (List.range r.starts.length).map begun ∧
      (∀ k, (∀ u ≤ begun k, shutdown.stopsAt u = false) → k < r.starts.length) ∧
      begun 0 = (match first with | .immediate => 0 | .afterPeriod => period) ∧
      (∀ k, begun k + max (ticks k).takes (period - Timer.tolerance) ≤ begun (k + 1) ∧
        begun (k + 1) ≤ begun k + max (ticks k).takes period) ∧
      ∀ n, (∀ k < n, (ticks k).takes ≤ period) → begun n = begun 0 + n * period := by
  intro r
  have course := course_run task period period_pos first shutdown ticks
  refine ⟨fun k => (timers period period_pos first ticks k).next, course.starts, ?_, ?_, ?_, ?_⟩
  · intro k going
    exact course.begins_of_going (fun j => Nat.le_add_right _ _) going
  · exact Nat.max_eq_left (Nat.zero_le _)
  · intro k
    have bounds := Timer.next_tick_bounds (timers period period_pos first ticks k) (ticks k).takes
    rwa [timers, Timer.period_before] at bounds
  · intro n short
    have onTime : (Timer.start period period_pos first).OnTime := Nat.zero_le _
    obtain ⟨still, grid⟩ := Timer.onTime_before onTime (fun k => (ticks k).takes) short
    have begins : (Timer.start period period_pos first).next = (Timer.start period period_pos first).deadline :=
      onTime.next_eq
    simp only [timers, Timer.before]
    rw [still.next_eq, grid, begins]
    rfl

/-- One tick of two and a half periods: the next begins as it ends, and no tick makes up for the two that
were missed. -/
theorem slow_tick_spaced :
    0 < 10 ∧
      let r := run "slow" 10 (by decide) .immediate (.once 40) fun k =>
        { takes := if k = 0 then 25 else 0, result := .done }
      ∃ begun : Nat → Nat, r.starts = (List.range r.starts.length).map begun ∧ 1 < r.starts.length ∧
        begun 0 = 0 ∧ begun 1 = 25 ∧ 30 ≤ begun 2 := by
  refine ⟨by decide, ?_⟩
  intro r
  obtain ⟨begun, starts, going, start, spaced, -⟩ :=
    ticks_spaced "slow" 10 (by decide) .immediate (.once 40) fun k =>
      { takes := if k = 0 then 25 else 0, result := .done }
  have slow := spaced 0
  have quick := spaced 1
  simp only [Timer.tolerance, if_true, Nat.reduceAdd, Nat.reduceEqDiff, if_false] at start slow quick
  have second : begun 1 = 25 := by omega
  refine ⟨begun, starts, going 1 ?_, start, second, by omega⟩
  intro u early
  rw [second] at early
  simp [Shutdown.stopsAt, Shutdown.valueAt, Shutdown.once, Shutdown.sent, Shutdown.closing]
  omega

end Task
end DeliveryProbe
