/-! The shutdown signal of a task: a value that is sent from time to time, and a sender that goes
away in the end. A task sees only the value that stands when it looks. -/
namespace DeliveryProbe

/-- The first value and what is sent after it, with the times in order; nothing in the place of a
value means that the sender goes. It also goes after the last value. -/
structure Shutdown where
  initial : Bool
  signals : List (Nat × Option Bool)
  /-- How many overdue ticks still begin after the sender has gone. A task that could do either at once
  takes up one of the two, and which one is left to chance. -/
  overlooked : Nat := 0
  deriving DecidableEq, Repr

namespace Shutdown

def once (time : Nat) : Shutdown := { initial := false, signals := [(time, some true)] }

def sent : List (Nat × Option Bool) → List (Nat × Bool)
  | (time, some value) :: rest => (time, value) :: sent rest
  | _ => []

def closing : List (Nat × Option Bool) → Nat
  | [] => 0
  | [(time, _)] => time
  | (time, none) :: _ => time
  | (_, some _) :: rest => closing rest

def valueAt (s : Shutdown) (time : Nat) : Bool :=
  (sent s.signals).foldl (fun value (t, v) => if t ≤ time then v else value) s.initial

def stopsAt (s : Shutdown) (time : Nat) : Bool := s.valueAt time || closing s.signals ≤ time

/-- When a task that has been idle since `free` learns that it is to stop: at once, or at the first
later signal that says so, and at the latest when the sender goes. -/
def stopFrom (s : Shutdown) (free : Nat) : Nat :=
  let last := max free (closing s.signals)
  let looks := free :: s.signals.map Prod.fst
  min last ((looks.find? fun time => free ≤ time && s.stopsAt time).getD last)

theorem stopFrom_le (s : Shutdown) (free : Nat) : s.stopFrom free ≤ max free (closing s.signals) :=
  Nat.min_le_left _ _

end Shutdown
end DeliveryProbe
