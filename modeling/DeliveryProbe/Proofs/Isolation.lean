import DeliveryProbe.Proofs.Stopping

/-! What becomes of a tick, kept apart from the schedule. A success is not mentioned, an error is a warning
and a panic an error in the log; the times at which ticks begin and the task ends are the same for all of
them. -/
namespace DeliveryProbe.Task

/-- What there is to tell of a tick. Only a panic that carries no text has to do without its own. -/
inductive Told (task : String) : TickResult → List LogRecord → Prop where
  | success : Told task .done []
  | warning (f : Failure) :
      Told task (.failed f)
        [{ level := .warn, target := schedulerTarget, message := "tick failed"
           fields := [("task", .quoted task), ("error", .plain f.message)] }]
  | panic (payload : PanicPayload) (text : String)
      (carried : payload = .literal text ∨ payload = .composed text ∨
        payload = .other ∧ text = "unknown panic") :
      Told task (.panicked payload)
        [{ level := .error, target := schedulerTarget, message := "tick panicked, continuing"
           fields := [("task", .quoted task), ("panic", .plain text)] }]

/-- The log of a run: its start, then what there is to tell of each tick that began, in the order of the
ticks, then its stop. -/
def Logged (task : String) (period : Nat) (ticks : Nat → Tick) (r : TaskRun) : Prop :=
  ∃ told : List (List LogRecord),
    List.Forall₂ (Told task) ((List.range r.starts.length).map fun k => (ticks k).result) told ∧
      r.logs = startedLog task period :: told.flatten ++ [stoppedLog task]

variable (task : String) (shutdown : Shutdown) (ticks : Nat → Tick)

theorem told_tickLog (result : TickResult) : Told task result (tickLog task result) := by
  cases result with
  | done => exact .success
  | failed f => exact .warning f
  | panicked payload =>
    refine .panic payload payload.message ?_
    cases payload with
    | literal text => exact .inl rfl
    | composed text => exact .inr (.inl rfl)
    | other => exact .inr (.inr ⟨rfl, rfl⟩)

theorem told_runFrom (chances : Nat) (t : Timer) (n : Nat) :
    ∃ told : List (List LogRecord),
      List.Forall₂ (Told task)
          ((List.range (runFrom task shutdown ticks chances t n).starts.length).map fun k => (ticks (n + k)).result)
          told ∧
        (runFrom task shutdown ticks chances t n).logs = told.flatten ++ [stoppedLog task] := by
  induction chances, t, n using runFrom.induct task shutdown ticks with
  | case1 chances t n stop running tick left ih =>
    obtain ⟨told, each, logs⟩ := ih
    have later : (fun k => (ticks (n + 1 + k)).result) = (fun k => (ticks (n + k)).result) ∘ Nat.succ := by
      funext k
      simp only [Function.comp_apply, Nat.add_right_comm n, Nat.add_assoc, Nat.succ_eq_add_one]
    rw [runFrom, dif_pos running]
    refine ⟨tickLog task tick.result :: told, ?_, ?_⟩
    · rw [List.length_cons, List.range_succ_eq_map, List.map_cons, List.map_map, ← later]
      exact .cons (told_tickLog task tick.result) each
    · rw [List.flatten_cons, List.append_assoc, ← logs]
      rfl
  | case2 chances t n stop idle =>
    rw [runFrom, dif_neg idle]
    exact ⟨[], .nil, rfl⟩

theorem logged_run (period : Nat) (period_pos : 0 < period) (first : FirstTick) :
    Logged task period ticks (run task period period_pos first shutdown ticks) := by
  obtain ⟨told, each, logs⟩ :=
    told_runFrom task shutdown ticks shutdown.overlooked (.start period period_pos first) 0
  simp only [Nat.zero_add] at each
  exact ⟨told, each, congrArg (startedLog task period :: ·) logs⟩

/-- Ticks of the same durations begin at the same times and let the task end at the same time, whatever
becomes of each of them. All that shows of it is the log, in which every tick that began has its place. -/
theorem results_leave_schedule (task : String) (period : Nat) (period_pos : 0 < period) (first : FirstTick)
    (shutdown : Shutdown) (ticks ticks' : Nat → Tick) (same : ∀ k, (ticks k).takes = (ticks' k).takes) :
    let r := run task period period_pos first shutdown ticks
    let r' := run task period period_pos first shutdown ticks'
    r.starts = r'.starts ∧ r.stopped = r'.stopped ∧ Logged task period ticks r ∧ Logged task period ticks' r' := by
  intro r r'
  obtain ⟨starts, stopped⟩ :=
    runFrom_congr task shutdown same shutdown.overlooked (.start period period_pos first) 0
  exact ⟨starts, stopped, logged_run task shutdown ticks period period_pos first,
    logged_run task shutdown ticks' period period_pos first⟩

theorem failures_leave_grid :
    let calm : Nat → Tick := fun _ => { takes := 3, result := .done }
    let troubles : List TickResult :=
      [.failed (.config (.stated "bad tick")), .panicked (.literal "boom"), .panicked (.composed "boom on tick 3"),
        .panicked .other]
    let troubled : Nat → Tick := fun k => { takes := 3, result := troubles.getD k .done }
    let r := run "flaky" 10 (by decide) .immediate (.once 35) troubled
    (∀ k, (calm k).takes = (troubled k).takes) ∧ r.starts = [0, 10, 20, 30] ∧ r.stopped = 35 ∧
      ∃ told, List.Forall₂ (Told "flaky") troubles told ∧
        r.logs = startedLog "flaky" 10 :: told.flatten ++ [stoppedLog "flaky"] := by
  intro calm troubles troubled r
  have same (k : Nat) : (calm k).takes = (troubled k).takes := rfl
  obtain ⟨starts, stopped, -, told, each, logs⟩ :=
    results_leave_schedule "flaky" 10 (by decide) .immediate (.once 35) calm troubled same
  have grid : r.starts = [0, 10, 20, 30] := starts.symm.trans (by cbv)
  have ended : r.stopped = 35 := stopped.symm.trans (by cbv)
  rw [grid] at each
  exact ⟨same, grid, ended, told, each, logs⟩

end DeliveryProbe.Task
