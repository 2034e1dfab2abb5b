import DeliveryProbe.Proofs.Verdict

/-! Events in batches. Two searches in turn settle what one search that finds the events of both settles, and
their resolutions, merged, are its resolutions. Events that do not say when they were received count for
nothing, and events that were found before settle nothing by being found again. -/
namespace DeliveryProbe

/-- Two lists made into one in which each keeps its order. -/
inductive Merged {α : Type} : List α → List α → List α → Prop where
  | nil : Merged [] [] []
  | left (a : α) {xs ys both : List α} : Merged xs ys both → Merged (a :: xs) ys (a :: both)
  | right (a : α) {xs ys both : List α} : Merged xs ys both → Merged xs (a :: ys) (a :: both)

theorem merged_filterMap {α β : Type} (f g : α → Option β) (l : List α) :
    Merged (l.filterMap f) ((l.filter fun a => (f a).isNone).filterMap g) (l.filterMap fun a => (f a).or (g a)) := by
  induction l with
  | nil => exact .nil
  | cons a l ih =>
    cases first : f a with
    | some b =>
      simp only [List.filterMap_cons, List.filter_cons, first, Option.isNone_some, Option.some_or,
        Bool.false_eq_true, if_false]
      exact .left b ih
    | none =>
      cases second : g a with
      | some b =>
        simp only [List.filterMap_cons, List.filter_cons, first, second, Option.isNone_none, Option.none_or, if_true]
        exact .right b ih
      | none =>
        simp only [List.filterMap_cons, List.filter_cons, first, second, Option.isNone_none, Option.none_or, if_true]
        exact ih

section Events
variable {first second events : List Event} {text : String}

theorem FirstReceipt.exists_usable {receipt : Instant} (found : FirstReceipt events text receipt) :
    ∃ e ∈ events, e.Usable text := by
  rw [← firstReceipt?_isSome, firstReceipt_correct.mpr found]
  rfl

theorem firstReceipt?_append :
    firstReceipt? (first ++ second) text = (firstReceipt? first text).or (firstReceipt? second text) :=
  List.findSome?_append

theorem firstReceipt?_readable :
    firstReceipt? (events.filter fun e => e.receipt?.isSome) text = firstReceipt? events text := by
  induction events with
  | nil => rfl
  | cons e events ih =>
    rw [List.filter_cons]
    split
    · next readable => simp only [firstReceipt?, List.findSome?_cons] at ih ⊢; rw [ih]
    · next unreadable =>
      have none : e.receipt? = none := by simpa using unreadable
      rw [ih]
      simp only [firstReceipt?, List.findSome?_cons, none, ite_self]

end Events

namespace Marker
variable {m : Marker} {first second : List Event} {now : Instant} {limits : Thresholds}

theorem judge_append :
    m.judge (first ++ second) now limits = (m.judge first now limits).or (m.judge second now limits) := by
  by_cases expired : m.Expired now limits
  · rw [judge_expired expired, judge_expired expired, Option.some_or]
  · rw [judge_young expired, judge_young expired, judge_young expired, firstReceipt?_append, Option.map_or]

theorem timedOut_of_left (left : m.judge first now limits = none) (again : ∀ e ∈ second, e ∈ first)
    {later : Instant} {r : Resolution} (judged : m.judge second later limits = some r) :
    r.outcome = .timedOut ∧ m.Expired later limits := by
  have unmentioned {receipt : Instant} (found : FirstReceipt second m.id receipt) : False := by
    obtain ⟨e, member, usable⟩ := found.exists_usable
    exact judge_eq_none.mp left (.inr ⟨e, again e member, usable⟩)
  cases judge_correct.mp judged with
  | timedOut expired => exact ⟨rfl, expired⟩
  | slow _ found _ => exact (unmentioned found).elim
  | delivered _ found _ => exact (unmentioned found).elim

end Marker

section Reconcile
variable {pending : List Marker} {first second : List Event} {now : Instant} {limits : Thresholds}

theorem retained_append :
    (reconcile pending (first ++ second) now limits).retained =
      (reconcile (reconcile pending first now limits).retained second now limits).retained := by
  simp only [reconcile, List.filter_filter, Marker.judge_append]
  refine List.filter_congr fun m _ => ?_
  rw [Option.isNone_or, Bool.and_comm]

theorem resolved_append :
    Merged (reconcile pending first now limits).resolved
      (reconcile (reconcile pending first now limits).retained second now limits).resolved
      (reconcile pending (first ++ second) now limits).resolved := by
  simp only [reconcile, Marker.judge_append]
  exact merged_filterMap _ _ pending

/-- What is resolved when old events are found again has run out of time since. -/
theorem resolved_again (again : ∀ e ∈ second, e ∈ first) {later : Instant} {r : Resolution}
    (resolved : r ∈ (reconcile (reconcile pending first now limits).retained second later limits).resolved) :
    r.outcome = .timedOut ∧ ∃ m ∈ (reconcile pending first now limits).retained, m.Expired later limits ∧
      ¬ m.Expired now limits := by
  obtain ⟨m, member, judged⟩ := List.mem_filterMap.mp resolved
  have left : m.judge first now limits = none := by
    simpa using (List.mem_filter.mp member).2
  obtain ⟨outcome, expired⟩ := Marker.timedOut_of_left left again judged
  exact ⟨outcome, m, member, expired, fun old => Marker.judge_eq_none.mp left (.inl old)⟩

/-- One pass over the events of two searches, taken apart into a pass over each. -/
theorem batches_reconciled (pending : List Marker) (first second : List Event) (now : Instant)
    (limits : Thresholds) :
    let early := reconcile pending first now limits
    let late := reconcile early.retained second now limits
    let whole := reconcile pending (first ++ second) now limits
    whole.retained = late.retained ∧ Merged early.resolved late.resolved whole.resolved ∧
      (∀ events events' : List Event,
        (events.filter fun e => e.receipt?.isSome) = (events'.filter fun e => e.receipt?.isSome) →
          reconcile pending events now limits = reconcile pending events' now limits) ∧
      ((∀ e ∈ second, e ∈ first) →
        late.resolved = [] ∧
          ∀ later, ∀ r ∈ (reconcile early.retained second later limits).resolved, r.outcome = .timedOut) := by
  intro early late whole
  refine ⟨retained_append, resolved_append, ?_, ?_⟩
  · intro events events' same
    refine reconcile_congr (fun text => ?_) pending now limits
    rw [← firstReceipt?_readable, same, firstReceipt?_readable]
  · intro again
    refine ⟨List.eq_nil_iff_forall_not_mem.mpr fun r resolved => ?_, fun later r resolved => ?_⟩
    · obtain ⟨-, m, -, expired, young⟩ := resolved_again again resolved
      exact young expired
    · exact (resolved_again again resolved).1

/-- A line that is found by two searches in a row settles nothing the second time, and beside it a line of
unknown receipt settles nothing at all: of three markers one is delivered, one has expired and one waits on. -/
theorem line_found_twice :
    let noon : Instant := { second := 1709294400, nano := 0 }
    let now : Instant := { second := 1709294402, nano := 0 }
    let limits : Thresholds := { searchTimeout := 3600, timeToFailure := 60 }
    let pending : List Marker :=
      [.ofApp "7" noon, .ofApp "8" noon, .ofApp "9" { second := 1709290000, nano := 0 }]
    let line : Event := .received "id 7" { second := 1709294401, nano := 0 }
    let undated : Event := { message := "id 8", receivedAt := some "yesterday" }
    let early := reconcile pending [undated, line] now limits
    (∀ e ∈ [line], e ∈ [undated, line]) ∧
      ([undated, line].filter fun e => e.receipt?.isSome) = ([line].filter fun e => e.receipt?.isSome) ∧
      early.retained = [.ofApp "8" noon] ∧
      early.resolved.map (fun r => (r.marker.id, r.outcome)) = [("7", .delivered), ("9", .timedOut)] ∧
      reconcile pending [line] now limits = early ∧
      (reconcile early.retained [line] now limits).resolved = [] := by
  intro noon now limits pending line undated early
  have again : ∀ e ∈ [line], e ∈ [undated, line] := by simp
  have alike : ([undated, line].filter fun e => e.receipt?.isSome) = ([line].filter fun e => e.receipt?.isSome) := by
    decide +kernel
  obtain ⟨-, -, unreadable, overlap⟩ := batches_reconciled pending [undated, line] [line] now limits
  refine ⟨again, alike, ?_, ?_, (unreadable _ _ alike).symm, (overlap again).1⟩
  · decide +kernel
  · decide +kernel

end Reconcile
end DeliveryProbe
