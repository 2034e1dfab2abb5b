import DeliveryProbe.Proofs.TickSpacing

/-! The stop of a periodic task. A task that waits stops at once, and one whose tick is running stops when
that tick has ended; nothing else ends a task. Only the going of the sender can be overlooked, by a tick that
is overdue when the one before it ends. -/
namespace DeliveryProbe

def TaskRun.RunningAt (r : TaskRun) (ticks : Nat → Tick) (k time : Nat) : Prop :=
  ∃ start, r.starts[k]? = some start ∧ start ≤ time ∧ time < start + (ticks k).takes

/-- The task has not ended, and no tick of it is running. -/
def TaskRun.WaitingAt (r : TaskRun) (ticks : Nat → Tick) (time : Nat) : Prop :=
  time ≤ r.stopped ∧ ∀ k, ¬ r.RunningAt ticks k time

/-- How a task takes a reason to stop that comes at a time. -/
structure TaskRun.Heeds (r : TaskRun) (ticks : Nat → Tick) (time : Nat) : Prop where
  noLaterTick : ∀ start ∈ r.starts, start ≤ time
  waiting : r.WaitingAt ticks time → r.stopped = time
  running : ∀ k start, r.starts[k]? = some start → start ≤ time → time < start + (ticks k).takes →
    r.stopped = start + (ticks k).takes

def Driven (timers : Nat → Timer) (ticks : Nat → Tick) : Prop :=
  (timers 0).free = 0 ∧ ∀ k, (timers (k + 1)).free = (timers k).next + (ticks k).takes

namespace Course
variable {shutdown : Shutdown} {timers : Nat → Timer} {ticks : Nat → Tick} {r : TaskRun} {time : Nat}

theorem start_eq (course : Course shutdown timers r) {k start : Nat} (begun : r.starts[k]? = some start) :
    k < r.starts.length ∧ start = (timers k).next := by
  rw [course.getElem?_starts] at begun
  split at begun
  · next within => exact ⟨within, (Option.some.inj begun).symm⟩
  · contradiction

theorem start_of_lt (course : Course shutdown timers r) {k : Nat} (within : k < r.starts.length) :
    r.starts[k]? = some (timers k).next := by
  rw [course.getElem?_starts, if_pos within]

theorem whole (course : Course shutdown timers r) (driven : Driven timers ticks) {k start : Nat}
    (begun : r.starts[k]? = some start) : start + (ticks k).takes ≤ r.stopped := by
  obtain ⟨within, rfl⟩ := course.start_eq begun
  have climbs : Monotone fun j => (timers j).free := by
    refine monotone_nat_of_le_succ fun j => ?_
    rw [driven.2]
    exact Nat.le_trans (Timer.free_le_next _) (Nat.le_add_right _ _)
  have last : (timers (k + 1)).free ≤ (timers r.starts.length).free := climbs within
  rw [← driven.2, course.stopped]
  exact Nat.le_trans last (shutdown.le_stopFrom _)

/-- What is told to a task by a time at which no tick begins any more is heeded at that time, or at the end
of the tick that is running. -/
theorem heeds (course : Course shutdown timers r) (driven : Driven timers ticks)
    (told : ∀ free, shutdown.stopFrom free ≤ max free time)
    (begins : ∀ k < r.starts.length, (timers k).next ≤ time) : r.Heeds ticks time where
  noLaterTick start member := by
    obtain ⟨k, begun⟩ := List.mem_iff_getElem?.mp member
    obtain ⟨within, rfl⟩ := course.start_eq begun
    exact begins k within
  waiting := by
    rintro ⟨reached, idle⟩
    have free : (timers r.starts.length).free ≤ time := by
      cases count : r.starts.length with
      | zero =>
        rw [driven.1]
        exact Nat.zero_le _
      | succ k =>
        have within : k < r.starts.length := by omega
        by_contra busy
        rw [driven.2] at busy
        -- The last tick would still be running.
        exact idle k ⟨_, course.start_of_lt within, begins k within, Nat.lt_of_not_le busy⟩
    have bound := told (timers r.starts.length).free
    rw [← course.stopped] at bound
    omega
  running k start begun before after := by
    obtain ⟨within, rfl⟩ := course.start_eq begun
    have ended := driven.2 k
    have last : r.starts.length = k + 1 := by
      by_contra more
      have next : k + 1 < r.starts.length := by omega
      have later := begins (k + 1) next
      have free := Timer.free_le_next (timers (k + 1))
      omega
    have bound := told (timers (k + 1)).free
    have due := shutdown.le_stopFrom (timers (k + 1)).free
    rw [course.stopped, last]
    omega

theorem heeds_value (course : Course shutdown timers r) (driven : Driven timers ticks)
    (ordered : shutdown.Ordered) (stays : ∀ u, time ≤ u → shutdown.valueAt u = true) : r.Heeds ticks time := by
  have told (free : Nat) : shutdown.stopFrom free ≤ max free time :=
    Shutdown.stopFrom_le_of_stopsAt ordered (Nat.le_max_left _ _)
      (Shutdown.stopsAt_iff.mpr (.inl (stays _ (Nat.le_max_right _ _))))
  refine course.heeds driven told fun k within => ?_
  have free := Timer.free_le_next (timers k)
  rcases course.begins k within with inTime | ⟨overdue, lowered⟩
  · have bound := told (timers k).free
    omega
  · have early : (timers k).free < time := by
      by_contra late
      rw [stays _ (Nat.le_of_not_lt late)] at lowered
      contradiction
    rw [Timer.next, Nat.max_eq_right overdue]
    exact Nat.le_of_lt early

/-- The going of the sender is heeded like the value if the tick that is running then, if there is one, ends
before the next is due. -/
theorem heeds_closing (course : Course shutdown timers r) (driven : Driven timers ticks)
    (quick : ∀ k, r.RunningAt ticks k (Shutdown.closing shutdown.signals) →
      (timers (k + 1)).free < (timers (k + 1)).deadline) :
    r.Heeds ticks (Shutdown.closing shutdown.signals) := by
  refine course.heeds driven shutdown.stopFrom_le fun k within => ?_
  have bound := shutdown.stopFrom_le (timers k).free
  have free := Timer.free_le_next (timers k)
  -- By induction on the number of the tick: one that is overdue after the going follows on a tick that was
  -- running then, and that tick is assumed to be quick.
  induction k with
  | zero =>
    rw [driven.1] at bound free
    rcases course.begins 0 within with inTime | ⟨overdue, -⟩
    · rw [driven.1] at inTime
      omega
    · rw [Timer.next, Nat.max_eq_right overdue, driven.1]
      exact Nat.zero_le _
  | succ k ih =>
    have begun : k < r.starts.length := Nat.lt_of_succ_lt within
    have earlier := ih begun (shutdown.stopFrom_le _) (Timer.free_le_next _)
    rcases course.begins (k + 1) within with inTime | ⟨overdue, -⟩
    · omega
    · by_contra late
      rw [Timer.next, Nat.max_eq_right overdue] at late
      have running : r.RunningAt ticks k (Shutdown.closing shutdown.signals) :=
        ⟨_, course.start_of_lt begun, earlier, by rw [← driven.2]; omega⟩
      have := quick k running
      omega

end Course

namespace Shutdown

theorem foldl_lowered (sent : List (Nat × Bool)) (lowered : ∀ e ∈ sent, e.2 = false) (time : Nat) :
    sent.foldl (fun value (t, v) => if t ≤ time then v else value) false = false := by
  induction sent with
  | nil => rfl
  | cons e sent ih =>
    have first : e.2 = false := lowered e List.mem_cons_self
    rw [List.foldl_cons]
    simp only [first, ite_self]
    exact ih fun e' member => lowered e' (List.mem_cons_of_mem _ member)

theorem valueAt_lowered {s : Shutdown} (initial : s.initial = false)
    (lowered : ∀ time, (time, some true) ∉ s.signals) (time : Nat) : s.valueAt time = false := by
  rw [valueAt, initial]
  refine foldl_lowered _ (fun e member => ?_) time
  cases value : e.2 with
  | false => rfl
  | true => exact absurd (value ▸ sent_values member) (lowered e.1)

end Shutdown

namespace Task
variable (task : String) (shutdown : Shutdown) {ticks ticks' : Nat → Tick}

theorem runFrom_congr (same : ∀ k, (ticks k).takes = (ticks' k).takes) (chances : Nat) (t : Timer) (n : Nat) :
    (runFrom task shutdown ticks chances t n).starts = (runFrom task shutdown ticks' chances t n).starts ∧
      (runFrom task shutdown ticks chances t n).stopped =
        (runFrom task shutdown ticks' chances t n).stopped := by
  induction chances, t, n using runFrom.induct task shutdown ticks with
  | case1 chances t n stop running tick left ih =>
    obtain ⟨starts, stopped⟩ := ih
    rw [runFrom, dif_pos running, runFrom, dif_pos running]
    simp only [tick, left] at starts stopped
    rw [same n] at starts stopped
    exact ⟨by simp only [same n]; exact congrArg (t.next :: ·) starts, by simp only [same n]; exact stopped⟩
  | case2 chances t n stop idle =>
    rw [runFrom, dif_neg idle, runFrom, dif_neg idle]
    exact ⟨rfl, rfl⟩

theorem driven_timers (period : Nat) (period_pos : 0 < period) (first : FirstTick) (ticks : Nat → Tick) :
    Driven (timers period period_pos first ticks) ticks := ⟨rfl, fun _ => rfl⟩

/-- A task heeds the value that says stop from the time at which it comes to stay, and the going of the
sender unless the tick that is running then overruns the deadline after it. It begins no tick if the value
says stop when it begins itself, never cuts a tick short, and ends for no other reason: not for a value that
tells it to go on, and not for what becomes of a tick. -/
theorem stops_when_told (task : String) (period : Nat) (period_pos : 0 < period) (first : FirstTick)
    (shutdown : Shutdown) (ordered : shutdown.Ordered) (ticks : Nat → Tick) :
    let r := run task period period_pos first shutdown ticks
    let closing := Shutdown.closing shutdown.signals
    (∀ time, (∀ u, time ≤ u → shutdown.valueAt u = true) → r.Heeds ticks time) ∧
      ((∀ k start, r.starts[k]? = some start → start ≤ closing → closing < start + (ticks k).takes →
          start + (ticks k).takes < (timers period period_pos first ticks (k + 1)).deadline) →
        r.Heeds ticks closing) ∧
      (shutdown.valueAt 0 = true → r.starts = [] ∧ r.stopped = 0) ∧
      (∀ k start, r.starts[k]? = some start → start + (ticks k).takes ≤ r.stopped) ∧
      (shutdown.valueAt r.stopped = true ∨ closing ≤ r.stopped) ∧
      (shutdown.initial = false → (∀ time, (time, some true) ∉ shutdown.signals) → closing ≤ r.stopped) ∧
      ∀ ticks' : Nat → Tick, (∀ k, (ticks k).takes = (ticks' k).takes) →
        (run task period period_pos first shutdown ticks').starts = r.starts ∧
          (run task period period_pos first shutdown ticks').stopped = r.stopped := by
  intro r closing
  have course := course_run task period period_pos first shutdown ticks
  have driven := driven_timers period period_pos first ticks
  have reason : shutdown.valueAt r.stopped = true ∨ closing ≤ r.stopped := by
    rw [← Shutdown.stopsAt_iff, course.stopped]
    exact shutdown.stopsAt_stopFrom _
  refine ⟨fun time stays => course.heeds_value driven ordered stays, ?_, ?_, ?_, reason, ?_, ?_⟩
  · intro quick
    refine course.heeds_closing driven fun k ⟨start, begun, before, after⟩ => ?_
    obtain ⟨within, rfl⟩ := course.start_eq begun
    exact quick k _ begun before after
  · intro raised
    have none : r.starts.length = 0 := by
      by_contra some
      have told : shutdown.stopFrom 0 ≤ 0 :=
        Shutdown.stopFrom_le_of_stopsAt ordered (Nat.le_refl 0) (Shutdown.stopsAt_iff.mpr (.inl raised))
      rcases course.begins 0 (Nat.pos_of_ne_zero some) with inTime | ⟨-, lowered⟩
      · rw [driven.1] at inTime
        omega
      · rw [driven.1, raised] at lowered
        contradiction
    have starts : r.starts = [] := List.length_eq_zero_iff.mp none
    refine ⟨starts, ?_⟩
    rw [course.stopped, none, driven.1]
    exact Nat.le_zero.mp
      (Shutdown.stopFrom_le_of_stopsAt ordered (Nat.le_refl 0) (Shutdown.stopsAt_iff.mpr (.inl raised)))
  · intro k start begun
    exact course.whole driven begun
  · intro initial lowered
    refine reason.resolve_left fun raised => ?_
    rw [Shutdown.valueAt_lowered initial lowered] at raised
    contradiction
  · intro ticks' same
    obtain ⟨starts, stopped⟩ :=
      runFrom_congr task shutdown same shutdown.overlooked (.start period period_pos first) 0
    exact ⟨starts.symm, stopped.symm⟩

/-- A tick that takes two and a half periods is told to go on and then to stop: it ends first, and the task
ends with it. -/
theorem overrun_stops_when_told :
    let shutdown : Shutdown := { initial := false, signals := [(3, some false), (12, some true)] }
    0 < 10 ∧ shutdown.Ordered ∧
      (run "slow" 10 (by decide) .immediate shutdown fun _ => { takes := 25, result := .done }).stopped = 25 := by
  intro shutdown
  have ordered : shutdown.Ordered := by decide
  refine ⟨by decide, ordered, ?_⟩
  have begins : (run "slow" 10 (by decide) .immediate shutdown fun _ => { takes := 25, result := .done }).starts[0]? =
      some 0 := by
    refine (course_run "slow" 10 (by decide) .immediate shutdown _).start_of_lt (k := 0) ?_
    refine (course_run _ _ _ _ _ _).begins_of_going (fun _ => Nat.le_add_right _ _) fun u early => ?_
    obtain rfl : u = 0 := Nat.le_zero.mp early
    decide
  have stays (u : Nat) (later : 12 ≤ u) : shutdown.valueAt u = true := by
    simp [shutdown, Shutdown.valueAt, Shutdown.sent, later]
  obtain ⟨heeds, -⟩ :=
    stops_when_told "slow" 10 (by decide) .immediate shutdown ordered fun _ => { takes := 25, result := .done }
  exact (heeds 12 stays).running 0 0 begins (by decide) (by decide)

end Task
end DeliveryProbe
