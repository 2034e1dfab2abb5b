import DeliveryProbe.Proofs.Verdict
import DeliveryProbe.Tracker
import Mathlib.Data.List.Basic

/-! A ledger of the registrations of one channel, kept beside a tracker. Equal markers are told apart by
their place in it, and where a registration stands follows from its own marker alone. Every operation of
the tracker has its counterpart here that keeps tracker and ledger in balance. -/
namespace DeliveryProbe

inductive Standing where
  | waiting
  | pending
  /-- Resolved by the call of this number. -/
  | resolved (call : Nat) (resolution : Resolution)
  deriving DecidableEq

def Standing.ofVerdict (call : Nat) : Option Resolution → Standing
  | some r => .resolved call r
  | none => .pending

@[ext] structure Entry where
  marker : Marker
  standing : Standing

/-- The registrations of one channel, oldest first. -/
abbrev Ledger := List Entry

namespace Entry

def waiting? (e : Entry) : Option Marker :=
  match e.standing with
  | .waiting => some e.marker
  | _ => none

def pending? (e : Entry) : Option Marker :=
  match e.standing with
  | .pending => some e.marker
  | _ => none

/-- The resolution of an entry, if the call of the given number brought it. -/
def resolvedBy? (call : Nat) (e : Entry) : Option Resolution :=
  match e.standing with
  | .resolved k r => if k = call then some r else none
  | _ => none

def drained (e : Entry) : Entry :=
  match e.standing with
  | .waiting => { e with standing := .pending }
  | _ => e

def judged (call : Nat) (rule : Marker → Option Resolution) (e : Entry) : Entry :=
  match e.standing with
  | .pending => { e with standing := .ofVerdict call (rule e.marker) }
  | _ => e

variable (call : Nat) (rule : Marker → Option Resolution) (e : Entry)

@[simp] theorem drained_marker : e.drained.marker = e.marker := by
  unfold drained
  split <;> rfl

@[simp] theorem judged_marker : (e.judged call rule).marker = e.marker := by
  unfold judged
  split <;> rfl

theorem judged_pending (m : Marker) :
    judged call rule ⟨m, .pending⟩ = ⟨m, .ofVerdict call (rule m)⟩ := rfl

theorem drained_standing_ne : e.drained.standing ≠ .waiting := by
  obtain ⟨m, standing⟩ := e
  cases standing <;> simp [drained]

theorem judged_standing_iff : (e.judged call rule).standing = .waiting ↔ e.standing = .waiting := by
  obtain ⟨m, standing⟩ := e
  cases standing with
  | waiting => rfl
  | resolved k r => rfl
  | pending =>
    rw [judged_pending]
    cases rule m <;> simp [Standing.ofVerdict]

theorem drained_resolved {e : Entry} {k : Nat} {r : Resolution}
    (resolved : e.drained.standing = .resolved k r) : e.standing = .resolved k r := by
  obtain ⟨m, standing⟩ := e
  cases standing with
  | waiting => contradiction
  | pending => contradiction
  | resolved => exact resolved

theorem judged_resolved {call : Nat} {rule : Marker → Option Resolution} {e : Entry} {k : Nat}
    {r : Resolution} (resolved : (e.judged call rule).standing = .resolved k r) :
    e.standing = .resolved k r ∨ rule e.marker = some r := by
  obtain ⟨m, standing⟩ := e
  cases standing with
  | waiting => contradiction
  | resolved => exact .inl resolved
  | pending =>
    rw [judged_pending] at resolved
    cases verdict : rule m with
    | none => simp [verdict, Standing.ofVerdict] at resolved
    | some found =>
      simp only [verdict, Standing.ofVerdict, Standing.resolved.injEq] at resolved
      exact .inr (resolved.2 ▸ rfl)

theorem waiting?_drained : e.drained.waiting? = none := by
  obtain ⟨m, standing⟩ := e
  cases standing <;> rfl

theorem resolvedBy?_drained : e.drained.resolvedBy? call = e.resolvedBy? call := by
  obtain ⟨m, standing⟩ := e
  cases standing <;> rfl

theorem waiting?_judged : (e.judged call rule).waiting? = e.waiting? := by
  obtain ⟨m, standing⟩ := e
  cases standing with
  | waiting => rfl
  | resolved k r => rfl
  | pending =>
    rw [judged_pending]
    cases rule m <;> rfl

theorem pending?_judged :
    (e.judged call rule).pending? =
      e.pending?.filter fun m => (rule m).isNone := by
  obtain ⟨m, standing⟩ := e
  cases standing with
  | waiting => rfl
  | resolved k r => rfl
  | pending =>
    rw [judged_pending]
    cases verdict : rule m <;>
      simp [Standing.ofVerdict, pending?, Option.filter, verdict]

/-- A call of a new number brings the verdict on a pending marker. -/
theorem resolvedBy?_judged (fresh : e.resolvedBy? call = none) :
    (e.judged call rule).resolvedBy? call =
      e.pending?.bind rule := by
  obtain ⟨m, standing⟩ := e
  cases standing with
  | waiting => rfl
  | resolved k r => exact fresh
  | pending =>
    rw [judged_pending]
    cases verdict : rule m <;> simp [Standing.ofVerdict, resolvedBy?, pending?, verdict]

theorem resolvedBy?_judged_of_ne {k : Nat} (other : k ≠ call) :
    (e.judged call rule).resolvedBy? k = e.resolvedBy? k := by
  obtain ⟨m, standing⟩ := e
  cases standing with
  | waiting => rfl
  | resolved j r => rfl
  | pending =>
    rw [judged_pending]
    cases rule m <;> simp [Standing.ofVerdict, resolvedBy?, other.symm]

end Entry

namespace Ledger

def waiting (book : Ledger) : List Marker := book.filterMap Entry.waiting?

def pending (book : Ledger) : List Marker := book.filterMap Entry.pending?

def resolvedBy (book : Ledger) (call : Nat) : List Resolution := book.filterMap (Entry.resolvedBy? call)

/-- What waits was registered after all that does not. -/
def Ordered (book : Ledger) : Prop :=
  book.Pairwise fun a b => a.standing = .waiting → b.standing = .waiting

section Operations
variable (call : Nat) (rule : Marker → Option Resolution) (book : Ledger)

theorem waiting_drained : waiting (book.map Entry.drained) = [] := by
  simp [waiting, Entry.waiting?_drained]

theorem resolvedBy_drained (k : Nat) : resolvedBy (book.map Entry.drained) k = resolvedBy book k := by
  simp [resolvedBy, List.filterMap_map, Entry.resolvedBy?_drained]

theorem waiting_judged : waiting (book.map (Entry.judged call rule)) = waiting book := by
  simp [waiting, List.filterMap_map, Entry.waiting?_judged]

theorem pending_judged :
    pending (book.map (Entry.judged call rule)) =
      (pending book).filter fun m => (rule m).isNone := by
  rw [pending, List.filterMap_map, pending, List.filter_filterMap]
  exact congrArg (book.filterMap ·) (funext fun e => e.pending?_judged call rule)

theorem resolvedBy_judged (fresh : resolvedBy book call = []) :
    resolvedBy (book.map (Entry.judged call rule)) call =
      (pending book).filterMap rule := by
  rw [resolvedBy, List.filterMap_map, pending, List.filterMap_filterMap]
  apply List.filterMap_congr
  intro e member
  exact e.resolvedBy?_judged call rule (List.filterMap_eq_nil_iff.mp fresh e member)

theorem resolvedBy_judged_of_ne {k : Nat} (other : k ≠ call) :
    resolvedBy (book.map (Entry.judged call rule)) k = resolvedBy book k := by
  rw [resolvedBy, List.filterMap_map]
  exact congrArg (book.filterMap ·)
    (funext fun e => e.resolvedBy?_judged_of_ne call rule other)

theorem ordered_drained : Ordered (book.map Entry.drained) := by
  rw [Ordered, List.pairwise_map]
  exact List.pairwise_of_forall fun a _ waits => absurd waits a.drained_standing_ne

variable {book}

theorem ordered_judged (ordered : Ordered book) :
    Ordered (book.map (Entry.judged call rule)) := by
  rw [Ordered, List.pairwise_map]
  simpa only [Entry.judged_standing_iff, Ordered] using ordered

theorem ordered_register (ordered : Ordered book) (m : Marker) : Ordered (book ++ [⟨m, .waiting⟩]) := by
  refine List.pairwise_append.mpr ⟨ordered, List.pairwise_singleton _ _, ?_⟩
  intro a _ b last _
  obtain rfl := List.mem_singleton.mp last
  rfl

theorem pending_eq_nil (all : ∀ e ∈ book, e.standing = .waiting) : pending book = [] := by
  apply List.filterMap_eq_nil_iff.mpr
  intro e member
  rw [Entry.pending?, all e member]

/-- Emptying the intake puts what waits behind what is pending. The order of the ledger is needed here:
a registration that waits is younger than every pending one. -/
theorem pending_drained (ordered : Ordered book) :
    pending (book.map Entry.drained) = pending book ++ waiting book := by
  induction book with
  | nil => rfl
  | cons e book ih =>
    obtain ⟨younger, ordered⟩ := List.pairwise_cons.mp ordered
    have rest := ih ordered
    obtain ⟨m, standing⟩ := e
    cases standing with
    | waiting =>
      have none : pending book = [] := pending_eq_nil fun e member => younger e member rfl
      rw [none, List.nil_append] at rest
      calc pending (Entry.drained ⟨m, .waiting⟩ :: book.map Entry.drained)
          = m :: pending (book.map Entry.drained) := rfl
        _ = pending book ++ m :: waiting book := by rw [rest, none, List.nil_append]
        _ = pending (⟨m, .waiting⟩ :: book) ++ waiting (⟨m, .waiting⟩ :: book) := rfl
    | pending => exact congrArg (m :: ·) rest
    | resolved k r => exact rest

theorem pending_sublist (book : Ledger) : (pending book).Sublist (book.map (·.marker)) := by
  induction book with
  | nil => exact .slnil
  | cons e book ih =>
    obtain ⟨m, standing⟩ := e
    cases standing with
    | pending => exact ih.cons_cons m
    | waiting | resolved => exact ih.cons m

end Operations

/-- What the steps of a run have given, each under its number. What a step gives depends on the steps
before it. -/
def numbered {σ : Type} (given : List σ → σ → List Resolution) (steps : List σ) (call : Nat) :
    List Resolution :=
  steps[call]?.elim [] (given (steps.take call))

theorem numbered_length {σ : Type} (given : List σ → σ → List Resolution) (steps : List σ) :
    numbered given steps steps.length = [] := by
  rw [numbered, List.getElem?_eq_none (Nat.le_refl _)]
  rfl

/-- A further step changes what has been given only under its own number. -/
theorem numbered_concat {σ : Type} (given : List σ → σ → List Resolution) (steps : List σ) (s : σ) :
    numbered given (steps ++ [s]) =
      Function.update (numbered given steps) steps.length (given steps s) := by
  funext call
  rw [numbered]
  rcases Nat.lt_trichotomy call steps.length with earlier | same | later
  · rw [Function.update_of_ne (Nat.ne_of_lt earlier), numbered, List.getElem?_append_left earlier,
      List.take_append_of_le_length (Nat.le_of_lt earlier)]
  · subst same
    rw [Function.update_self, List.getElem?_concat_length, List.take_left]
    rfl
  · have beyond : (steps ++ [s]).length ≤ call := by
      rw [List.length_append]
      exact later
    rw [Function.update_of_ne (Nat.ne_of_gt later), numbered, List.getElem?_eq_none beyond,
      List.getElem?_eq_none (Nat.le_of_lt later)]
    rfl

/-- A ledger agrees with a tracker and with what the numbered calls have returned for its channel. Every
registration, told apart by its place, waits, or is pending, or was returned by one call; and the intake,
the pending set and each call hold nothing else, in the order of registration. -/
structure Balanced (c : Channel) (registered : List Marker) (returned : Nat → List Resolution) (t : Tracker)
    (book : Ledger) : Prop where
  markers : book.map (·.marker) = registered
  waiting : Ledger.waiting book = t.waitingOn c
  pending : Ledger.pending book = t.pending c
  resolved : ∀ call, Ledger.resolvedBy book call = returned call
  own : ∀ e ∈ book, ∀ call r, e.standing = .resolved call r → r.marker = e.marker
  ordered : Ordered book

namespace Balanced
variable {c : Channel} {registered : List Marker} {returned : Nat → List Resolution} {t : Tracker}
  {book : Ledger}

theorem empty (c : Channel) : Balanced c [] (fun _ => []) .empty [] where
  markers := rfl
  waiting := rfl
  pending := (Tracker.pending_empty c).symm
  resolved _ := rfl
  own _ member := absurd member List.not_mem_nil
  ordered := .nil

theorem register (balanced : Balanced c registered returned t book) (m : Marker) :
    Balanced c (registered ++ [m]) returned (t.register c m) (book ++ [⟨m, .waiting⟩]) where
  markers := by rw [List.map_append, balanced.markers, List.map_singleton]
  waiting := by
    rw [Tracker.waitingOn_register, if_pos rfl, ← balanced.waiting]
    exact List.filterMap_append
  pending := by
    rw [Tracker.pending_register, ← balanced.pending, Ledger.pending, List.filterMap_append]
    exact List.append_nil _
  resolved call := by
    rw [← balanced.resolved call, resolvedBy, List.filterMap_append]
    exact List.append_nil _
  own e member call r resolved := by
    rcases List.mem_append.mp member with old | new
    · exact balanced.own e old call r resolved
    · obtain rfl := List.mem_singleton.mp new
      contradiction
  ordered := ordered_register balanced.ordered m

theorem register_of_ne (balanced : Balanced c registered returned t book) {d : Channel} (ne : d ≠ c)
    (m : Marker) : Balanced c registered returned (t.register d m) book where
  markers := balanced.markers
  waiting := by rw [Tracker.waitingOn_register, if_neg ne, List.append_nil, balanced.waiting]
  pending := by rw [Tracker.pending_register, balanced.pending]
  resolved := balanced.resolved
  own := balanced.own
  ordered := balanced.ordered

theorem drain (balanced : Balanced c registered returned t book) :
    Balanced c registered returned t.drain (book.map Entry.drained) where
  markers := by simpa [Function.comp_def] using balanced.markers
  waiting := by rw [waiting_drained, Tracker.waitingOn_drain]
  pending := by
    rw [pending_drained balanced.ordered, balanced.pending, balanced.waiting, Tracker.pending_drain,
      Tracker.outstanding]
  resolved call := by rw [resolvedBy_drained, balanced.resolved]
  own e member call r resolved := by
    obtain ⟨old, oldMember, rfl⟩ := List.mem_map.mp member
    rw [Entry.drained_marker]
    exact balanced.own old oldMember call r (Entry.drained_resolved resolved)
  ordered := ordered_drained book

/-- Reconciling the channel, as a call that has returned nothing yet. -/
theorem reconcile (balanced : Balanced c registered returned t book) {call : Nat}
    (fresh : returned call = []) (events : List Event) (now : Instant) (limits : Thresholds) :
    Balanced c registered
      (Function.update returned call (t.reconcile c events now limits).1)
      (t.reconcile c events now limits).2
      (book.map (Entry.judged call fun m => m.judge events now limits)) where
  markers := by simpa [Function.comp_def] using balanced.markers
  waiting := by rw [waiting_judged, balanced.waiting, Tracker.waitingOn_reconcile]
  pending := by rw [pending_judged, balanced.pending, Tracker.pending_reconcile]
  resolved k := by
    by_cases same : k = call
    · subst same
      rw [Function.update_self, resolvedBy_judged, balanced.pending, Tracker.resolutions_reconcile]
      rw [balanced.resolved, fresh]
    · rw [Function.update_of_ne same, resolvedBy_judged_of_ne _ _ _ same, balanced.resolved]
  own e member k r resolved := by
    obtain ⟨old, oldMember, rfl⟩ := List.mem_map.mp member
    rw [Entry.judged_marker]
    rcases Entry.judged_resolved resolved with before | verdict
    · exact balanced.own old oldMember k r before
    · exact Marker.judge_marker verdict
  ordered := ordered_judged _ _ balanced.ordered

theorem reconcile_of_ne (balanced : Balanced c registered returned t book) {d : Channel} (ne : d ≠ c)
    (events : List Event) (now : Instant) (limits : Thresholds) :
    Balanced c registered returned (t.reconcile d events now limits).2 book where
  markers := balanced.markers
  waiting := by rw [Tracker.waitingOn_reconcile, balanced.waiting]
  pending := by rw [Tracker.pending_reconcile_of_ne t ne, balanced.pending]
  resolved := balanced.resolved
  own := balanced.own
  ordered := balanced.ordered

/-- All that is unresolved keeps the order of registration. -/
theorem outstanding_sublist (balanced : Balanced c registered returned t book) :
    (t.outstanding c).Sublist registered := by
  have kept := pending_sublist (book.map Entry.drained)
  rw [balanced.drain.pending, balanced.drain.markers, Tracker.pending_drain] at kept
  exact kept

end Balanced
end Ledger
end DeliveryProbe
