import DeliveryProbe.Proofs.Conservation

/-! The markers of a tracker do not influence each other. A roll is kept beside a run, in which every
registration goes by the number of the step that made it; a step changes each of its entries by itself. So
the roll of a run from which some registrations are left out is the roll of the whole run without them, and
with it all that the tracker holds and all that its calls return. -/
namespace DeliveryProbe.Tracker
open Ledger

/-- Steps under the numbers that they have in a run. -/
abbrev Numbered := List (Step × Nat)

/-- The ledger of a channel with each entry under the number of the step that registered it. -/
abbrev Roll := List (Nat × Entry)

def Step.registers : Step → Bool
  | .register .. => true
  | _ => false

def Step.onRoll (c : Channel) (n : Nat) (s : Step) (roll : Roll) : Roll :=
  roll.map (Prod.map id (s.onEntry c n)) ++
    (s.registered c).map fun m => (n, { marker := m, standing := .waiting })

def rollOf (c : Channel) (steps : Numbered) : Roll := steps.foldl (fun roll (s, n) => s.onRoll c n roll) []

def roll (c : Channel) (steps : List Step) : Roll := rollOf c steps.zipIdx

def registrations (c : Channel) (steps : List Step) : List (Nat × Marker) :=
  steps.zipIdx.flatMap fun (s, n) => (s.registered c).map fun m => (n, m)

namespace Roll

def ledger (roll : Roll) : Ledger := roll.map Prod.snd

def without (deleted : Nat → Bool) (roll : Roll) : Roll := roll.filter fun e => !deleted e.1

end Roll

def Numbered.keeps (deleted : Nat → Bool) (s : Step × Nat) : Bool := !(s.1.registers && deleted s.2)

/-- A run from which the registrations with the given numbers are left out. -/
def without (deleted : Nat → Bool) (steps : List Step) : List Step :=
  (steps.zipIdx.filter (Numbered.keeps deleted)).map Prod.fst

section Roll
variable {c : Channel}

theorem rollOf_concat (steps : Numbered) (s : Step) (n : Nat) :
    rollOf c (steps ++ [(s, n)]) = s.onRoll c n (rollOf c steps) := by
  rw [rollOf, List.foldl_concat, rollOf]

theorem ledger_onRoll (s : Step) (n : Nat) (roll : Roll) :
    Roll.ledger (s.onRoll c n roll) = s.onLedger c n (Roll.ledger roll) := by
  simp [Roll.ledger, Step.onRoll, Step.onLedger, Function.comp_def]

theorem onEntry_registers {s : Step} (registers : s.registers = true) (n : Nat) : s.onEntry c n = id := by
  cases s with
  | register d m => rfl
  | drain | reconcile | drop => contradiction

theorem registered_eq_nil {s : Step} (silent : s.registers = false) : s.registered c = [] := by
  cases s with
  | register d m => contradiction
  | drain | reconcile | drop => rfl

theorem without_onRoll_kept {deleted : Nat → Bool} {s : Step} {n : Nat}
    (kept : Numbered.keeps deleted (s, n) = true) (roll : Roll) :
    Roll.without deleted (s.onRoll c n roll) = s.onRoll c n (Roll.without deleted roll) := by
  rw [Roll.without, Step.onRoll, List.filter_append, List.filter_map]
  refine congrArg _ (List.filter_eq_self.mpr ?_)
  intro e member
  obtain ⟨m, registered, rfl⟩ := List.mem_map.mp member
  cases registers : s.registers with
  | false => simp [registered_eq_nil registers] at registered
  | true => simpa [Numbered.keeps, registers] using kept

theorem without_onRoll_deleted {deleted : Nat → Bool} {s : Step} {n : Nat}
    (gone : Numbered.keeps deleted (s, n) = false) (roll : Roll) :
    Roll.without deleted (s.onRoll c n roll) = Roll.without deleted roll := by
  obtain ⟨registers, gone⟩ : s.registers = true ∧ deleted n = true := by
    simpa [Numbered.keeps] using gone
  rw [Step.onRoll, onEntry_registers registers, Roll.without, List.filter_append]
  have new : ((s.registered c).map fun m => (n, ({ marker := m, standing := .waiting } : Entry))).filter
      (fun e => !deleted e.1) = [] := by
    simp [gone]
  rw [new, List.append_nil, Roll.without]
  simp

/-- Leaving registrations out of a run leaves their entries out of its roll, and changes no other. -/
theorem rollOf_filter (deleted : Nat → Bool) (steps : Numbered) :
    rollOf c (steps.filter (Numbered.keeps deleted)) = Roll.without deleted (rollOf c steps) := by
  induction steps using List.reverseRecOn with
  | nil => rfl
  | append_singleton steps step ih =>
    obtain ⟨s, n⟩ := step
    rw [rollOf_concat, List.filter_append]
    cases kept : Numbered.keeps deleted (s, n) with
    | true => rw [List.filter_singleton, kept, cond_true, rollOf_concat, ih, without_onRoll_kept kept]
    | false => rw [List.filter_singleton, kept, cond_false, List.append_nil, ih, without_onRoll_deleted kept]

end Roll

section Run
variable {c : Channel}

theorem balanced_rollOf (c : Channel) (steps : Numbered) (numbers : (steps.map Prod.snd).Nodup)
    (whole : ∀ s ∈ steps, s.1 ≠ .drop) :
    ∃ t given, after (some empty) (steps.map Prod.fst) = some t ∧
      Balanced c (registered c (steps.map Prod.fst)) given t (Roll.ledger (rollOf c steps)) ∧
      ∀ n, n ∉ steps.map Prod.snd → given n = [] := by
  induction steps using List.reverseRecOn with
  | nil => exact ⟨empty, fun _ => [], rfl, Balanced.empty c, fun _ _ => rfl⟩
  | append_singleton steps step ih =>
    obtain ⟨s, n⟩ := step
    rw [List.map_append, List.nodup_append] at numbers
    obtain ⟨distinct, -, apart⟩ := numbers
    have new : n ∉ steps.map Prod.snd := fun member => apart n member n (by simp) rfl
    obtain ⟨t, given, reached, balanced, silent⟩ :=
      ih distinct fun s member => whole s (List.mem_append_left _ member)
    obtain ⟨t', stepped, balanced'⟩ :=
      balanced_step balanced (silent n new) s (whole (s, n) (List.mem_append_right _ (by simp)))
    refine ⟨t', Function.update given n (s.returned c (Tracker.step (some t) s).1), ?_, ?_, ?_⟩
    · rw [List.map_append, List.map_singleton, after_concat, reached, stepped]
    · rw [List.map_append, List.map_singleton, registered_concat, rollOf_concat, ledger_onRoll]
      exact balanced'
    · intro k other
      rw [List.map_append, List.mem_append, List.map_singleton, List.mem_singleton, not_or] at other
      rw [Function.update_of_ne other.2, silent k other.1]

/-- What a call for the channel returns is what it brings into the roll. -/
theorem reply_reconcile {markers : List Marker} {given : Nat → List Resolution} {t : Tracker} {roll : Roll}
    {n : Nat} (balanced : Balanced c markers given t (Roll.ledger roll)) (fresh : given n = [])
    (events : List Event) (now : Instant) (limits : Thresholds) :
    (step (some t) (.reconcile c events now limits)).1 =
      .resolved (resolvedBy (Roll.ledger ((Step.reconcile c events now limits).onRoll c n roll)) n) := by
  obtain ⟨t', -, balanced'⟩ := balanced_step balanced fresh (.reconcile c events now limits) (by simp)
  rw [ledger_onRoll, balanced'.resolved, Function.update_self]
  simp [Step.returned, step]

variable (steps : List Step) (deleted : Nat → Bool)

/-- A run from which registrations are left out, and the roll of the whole run without them. -/
theorem balanced_without (whole : Step.drop ∉ steps) (c : Channel) :
    ∃ t given, after (some empty) (without deleted steps) = some t ∧
      Balanced c (registered c (without deleted steps)) given t
        (Roll.ledger (Roll.without deleted (roll c steps))) ∧
      ∀ n, steps.length ≤ n → given n = [] := by
  have numbers : ((steps.zipIdx.filter (Numbered.keeps deleted)).map Prod.snd).Sublist
      (List.range' 0 steps.length) := by
    have all := (List.filter_sublist (p := Numbered.keeps deleted) (l := steps.zipIdx)).map Prod.snd
    rwa [List.zipIdx_map_snd] at all
  obtain ⟨t, given, reached, balanced, silent⟩ :=
    balanced_rollOf c (steps.zipIdx.filter (Numbered.keeps deleted)) (numbers.nodup List.nodup_range')
      (by
        intro s member gone
        have listed := List.fst_mem_of_mem_zipIdx (List.mem_filter.mp member).1
        exact whole (gone ▸ listed))
  rw [rollOf_filter] at balanced
  refine ⟨t, given, reached, balanced, ?_⟩
  intro n beyond
  refine silent n fun member => ?_
  have within := List.mem_range'_1.mp (numbers.subset member)
  omega

theorem without_nothing : without (fun _ => false) steps = steps := by
  have all : steps.zipIdx.filter (Numbered.keeps fun _ => false) = steps.zipIdx :=
    List.filter_eq_self.mpr fun s _ => by simp [Numbered.keeps]
  rw [without, all, List.zipIdx_map_fst]

theorem balanced_roll (whole : Step.drop ∉ steps) (c : Channel) :
    ∃ t given, after (some empty) steps = some t ∧
      Balanced c (registered c steps) given t (Roll.ledger (roll c steps)) ∧
      ∀ n, steps.length ≤ n → given n = [] := by
  have kept : Roll.without (fun _ => false) (roll c steps) = roll c steps :=
    List.filter_eq_self.mpr fun _ _ => rfl
  have balanced := balanced_without steps (fun _ => false) whole c
  rwa [without_nothing, kept] at balanced

theorem onEntry_marker (s : Step) (n : Nat) (e : Entry) : (s.onEntry c n e).marker = e.marker := by
  cases s with
  | register | drop => rfl
  | drain => exact Entry.drained_marker e
  | reconcile d events now limits =>
    simp only [Step.onEntry]
    split
    · exact Entry.judged_marker _ _ e
    · rfl

theorem markers_roll (c : Channel) : (roll c steps).map (fun e => (e.1, e.2.marker)) = registrations c steps := by
  rw [roll, registrations]
  induction steps.zipIdx using List.reverseRecOn with
  | nil => rfl
  | append_singleton steps step ih =>
    obtain ⟨s, n⟩ := step
    rw [rollOf_concat, List.flatMap_append, ← ih, Step.onRoll]
    simp [onEntry_marker, Function.comp_def]

theorem without_roll_of_other (c : Channel)
    (other : ∀ n m, steps[n]? = some (.register c m) → deleted n = false) :
    Roll.without deleted (roll c steps) = roll c steps := by
  refine List.filter_eq_self.mpr ?_
  intro e member
  have listed : (e.1, e.2.marker) ∈ registrations c steps := by
    rw [← markers_roll]
    exact List.mem_map_of_mem member
  obtain ⟨⟨s, n⟩, step, registered⟩ := List.mem_flatMap.mp listed
  obtain ⟨m, own, same⟩ := List.mem_map.mp registered
  obtain rfl : n = e.1 := congrArg Prod.fst same
  have called := List.mem_zipIdx_iff_getElem?.mp step
  cases s with
  | register d m' =>
    simp only [Step.registered] at own
    split at own
    · next channel =>
      subst channel
      simp [other e.1 m' called]
    · contradiction
  | drain | reconcile | drop => contradiction

variable {steps} {s : Step} {n : Nat}

theorem zipIdx_split (called : steps[n]? = some s) :
    ∃ later, steps.zipIdx = (steps.take n).zipIdx ++ (s, n) :: later := by
  obtain ⟨within, rfl⟩ := List.getElem?_eq_some_iff.mp called
  refine ⟨(steps.drop (n + 1)).zipIdx (n + 1), ?_⟩
  conv_lhs => rw [← List.take_append_drop n steps]
  rw [List.drop_eq_getElem_cons within, List.zipIdx_append, List.length_take, Nat.min_eq_left (Nat.le_of_lt within),
    Nat.zero_add, List.zipIdx_cons]

theorem roll_take_succ (c : Channel) (called : steps[n]? = some s) :
    roll c (steps.take (n + 1)) = s.onRoll c n (roll c (steps.take n)) := by
  have within : n < steps.length := (List.getElem?_eq_some_iff.mp called).1
  have numbered : (steps.take (n + 1)).zipIdx = (steps.take n).zipIdx ++ [(s, n)] := by
    rw [List.take_add_one, called, List.zipIdx_append, List.length_take,
      Nat.min_eq_left (Nat.le_of_lt within), Nat.zero_add]
    rfl
  rw [roll, numbered, rollOf_concat, roll]

theorem without_split (called : steps[n]? = some s) (kept : Numbered.keeps deleted (s, n) = true) :
    ∃ later, without deleted steps = without deleted (steps.take n) ++ s :: later := by
  obtain ⟨later, split⟩ := zipIdx_split called
  rw [without, split, List.filter_append, List.filter_cons_of_pos kept, List.map_append, List.map_cons]
  exact ⟨_, rfl⟩

/-- Where a call of the channel stands, what is pending there and is mentioned by a usable event is resolved
by it. -/
theorem resolved_of_mentioned {roll : Roll} {events : List Event} (now : Instant) (limits : Thresholds) {k : Nat}
    {e : Entry} (member : (k, e) ∈ roll) (pending : e.standing = .pending)
    (mentioned : ∃ event ∈ events, event.Usable e.marker.id) :
    ∃ r, (k, { e with standing := .resolved n r }) ∈ (Step.reconcile c events now limits).onRoll c n roll := by
  have decided : (e.marker.judge events now limits).isSome = true := Marker.judge_isSome.mpr (.inr mentioned)
  obtain ⟨r, verdict⟩ := Option.isSome_iff_exists.mp decided
  have judged : e.judged n (fun m => m.judge events now limits) = { e with standing := .resolved n r } := by
    obtain ⟨m, standing⟩ := e
    obtain rfl := pending
    rw [Entry.judged_pending, verdict]
    rfl
  refine ⟨r, List.mem_append_left _ (List.mem_map.mpr ⟨(k, e), member, ?_⟩)⟩
  rw [Prod.map_apply, Step.onEntry, if_pos rfl, judged]
  rfl

end Run

/-- The roll of a channel has each registration of the channel once, and what the roll says is so, step by
step: what is pending in it is what the tracker holds, and what a call of the channel returns is what the roll
shows as resolved by this call. From a run that leaves registrations out, be they on one channel or on both,
their entries are gone, and nothing else is changed: the tracker holds what is pending in the roll without
them, and the same call returns what it has resolved there. A call resolves every marker that is pending
and mentioned by a usable event, whatever else this event resolves; and what is left out of the other channel
alone leaves no gap. -/
theorem markers_independent (steps : List Step) (whole : Step.drop ∉ steps) (deleted : Nat → Bool) (c : Channel) :
    (roll c steps).map (fun e => (e.1, e.2.marker)) = registrations c steps ∧
    (∀ n, ∃ t t', after (some empty) (steps.take n) = some t ∧
      after (some empty) (without deleted (steps.take n)) = some t' ∧
      t.pending c = Ledger.pending (Roll.ledger (roll c (steps.take n))) ∧
      t'.pending c = Ledger.pending (Roll.ledger (Roll.without deleted (roll c (steps.take n))))) ∧
    (∀ n events now limits, steps[n]? = some (.reconcile c events now limits) →
      let outcome := roll c (steps.take (n + 1))
      (∃ t, (run (some empty) steps)[n]? = some (.resolved (resolvedBy (Roll.ledger outcome) n), some t)) ∧
      (∃ t', (run (some empty) (without deleted steps))[(without deleted (steps.take n)).length]? =
        some (.resolved (resolvedBy (Roll.ledger (Roll.without deleted outcome)) n), some t')) ∧
      ∀ k e, (k, e) ∈ roll c (steps.take n) → e.standing = .pending →
        (∃ event ∈ events, event.Usable e.marker.id) →
          ∃ r, (k, { e with standing := .resolved n r }) ∈ outcome) ∧
    ((∀ n m, steps[n]? = some (.register c m) → deleted n = false) →
      ∀ n, Roll.without deleted (roll c (steps.take n)) = roll c (steps.take n)) := by
  have whole_take (n : Nat) : Step.drop ∉ steps.take n := fun member => whole (List.mem_of_mem_take member)
  refine ⟨markers_roll steps c, ?_, ?_, ?_⟩
  · intro n
    obtain ⟨t, given, reached, balanced, -⟩ := balanced_roll (steps.take n) (whole_take n) c
    obtain ⟨t', given', reached', balanced', -⟩ := balanced_without (steps.take n) deleted (whole_take n) c
    exact ⟨t, t', reached, reached', balanced.pending.symm, balanced'.pending.symm⟩
  · intro n events now limits called outcome
    have grown : outcome = _ := roll_take_succ c called
    have before : (steps.take n).length ≤ n := List.length_take_le n steps
    refine ⟨?_, ?_, ?_⟩
    · obtain ⟨t, given, reached, balanced, silent⟩ := balanced_roll (steps.take n) (whole_take n) c
      rw [getElem?_run, called, reached, grown, Option.map_some,
        ← reply_reconcile balanced (silent n before) events now limits]
      exact ⟨_, rfl⟩
    · -- The call comes earlier in the shorter run, and its entries keep the number of the whole run.
      obtain ⟨t, given, reached, balanced, silent⟩ := balanced_without (steps.take n) deleted (whole_take n) c
      have kept : Numbered.keeps deleted (Step.reconcile c events now limits, n) = true := rfl
      obtain ⟨later, split⟩ := without_split deleted called kept
      rw [getElem?_run, split, List.getElem?_append_right (Nat.le_refl _), Nat.sub_self, List.getElem?_cons_zero,
        List.take_left, reached, grown, without_onRoll_kept kept, Option.map_some,
        ← reply_reconcile balanced (silent n before) events now limits]
      exact ⟨_, rfl⟩
    · intro k e member pending mentioned
      rw [grown]
      exact resolved_of_mentioned now limits member pending mentioned
  · intro other n
    refine without_roll_of_other (steps.take n) deleted c ?_
    intro k m registers
    rw [List.getElem?_take] at registers
    split at registers
    · exact other k m registers
    · contradiction

def sharedEvent : List Step :=
  let m : Marker := { id := "7", emittedAt := { second := 0, nano := 0 } }
  [.register .app m, .register .app m, .register .http m, .drain,
    .reconcile .app [.received "id 7" { second := 1, nano := 0 }] { second := 2, nano := 0 }
      { searchTimeout := 3600, timeToFailure := 60 }]

/-- The event resolves both of the equal markers, and the second alone if the first is left out. -/
theorem sharedEvent_resolves_each :
    Step.drop ∉ sharedEvent ∧
      (∃ rs t, (run (some empty) sharedEvent)[4]? = some (.resolved rs, some t) ∧ rs.length = 2) ∧
      ∃ rs t, (run (some empty) (without (fun n => n = 0) sharedEvent))[3]? = some (.resolved rs, some t) ∧
        rs.length = 1 := by
  have whole : Step.drop ∉ sharedEvent := by simp [sharedEvent]
  obtain ⟨-, -, calls, -⟩ := markers_independent sharedEvent whole (fun n => n = 0) .app
  obtain ⟨⟨t, all⟩, ⟨t', others⟩, -⟩ := calls 4 _ _ _ rfl
  refine ⟨whole, ⟨_, t, all, ?_⟩, ⟨_, t', others, ?_⟩⟩
  · decide +kernel
  · decide +kernel

end DeliveryProbe.Tracker
