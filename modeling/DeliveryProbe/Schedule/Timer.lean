/-! The timer of a periodic task, in milliseconds of virtual time.

A tick begins at its deadline, or when the tick before it has ended if that is later. A tick that
begins more than five milliseconds late puts the next deadline a whole period after its beginning;
any other tick leaves the deadlines on their grid. -/
namespace DeliveryProbe

inductive FirstTick where
  | immediate
  | afterPeriod
  deriving DecidableEq, Repr

structure Timer where
  period : Nat
  period_pos : 0 < period
  /-- When the next tick is due. -/
  deadline : Nat
  /-- When the last tick ended, and the start of the task before the first. -/
  free : Nat

namespace Timer

/-- How late a tick may begin without moving the deadlines after it. -/
def tolerance : Nat := 5

def start (period : Nat) (period_pos : 0 < period) (first : FirstTick) : Timer :=
  { period
    period_pos
    deadline :=
      match first with
      | .immediate => 0
      | .afterPeriod => period
    free := 0 }

def next (t : Timer) : Nat := max t.deadline t.free

/-- The timer after a tick of the given duration. -/
def tick (t : Timer) (takes : Nat) : Timer :=
  { t with
    deadline := if t.deadline + tolerance < t.next then t.next + t.period else t.deadline + t.period
    free := t.next + takes }

theorem deadline_le_next (t : Timer) : t.deadline ≤ t.next := Nat.le_max_left _ _

theorem free_le_next (t : Timer) : t.free ≤ t.next := Nat.le_max_right _ _

theorem deadline_lt_tick (t : Timer) (takes : Nat) : t.deadline < (t.tick takes).deadline := by
  have := t.period_pos
  have := t.deadline_le_next
  simp only [tick]
  split <;> omega

end Timer
end DeliveryProbe
