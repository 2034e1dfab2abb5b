import DeliveryProbe.Proofs.Spelling
import DeliveryProbe.Proofs.Traffic
import Mathlib.Data.List.Induction

/-! Where markers come from. An emission whose line or request is out registers the marker that it returns, if there is
still a tracker; every other emission leaves the tracker alone and is not counted. So a marker of an emission that
waits, is pending or has been resolved was put out before, and is known by what the clock said at that time. -/
namespace DeliveryProbe

namespace Emission
open Trace

/-- How the emission of a marker ends, by the answer that it gets and the tracker that it finds. -/
inductive Ends (c : Channel) (m : Marker) : Except Failure Unit → Option Tracker → Emission → Prop where
  | registered (t : Tracker) {trace : Trace} (counted : metrics trace = [.markerEmitted c]) :
      Ends c m (.ok ()) (some t) { result := .ok m, tracker := some (t.register c m), trace }
  | closed {trace : Trace} (silent : metrics trace = []) :
      Ends c m (.ok ()) none { result := .error .intakeClosed, tracker := none, trace }
  | failed (f : Failure) (t? : Option Tracker) {trace : Trace} (silent : metrics trace = []) :
      Ends c m (.error f) t? { result := .error f, tracker := t?, trace }

section Ends
variable {c : Channel} {m : Marker} (t? : Option Tracker) (base number : String) (begun : Instant)

theorem Ends.after {answer : Except Failure Unit} {e : Emission} (ends : Ends c m answer t? e) {before : Trace}
    (silent : metrics before = []) : Ends c m answer t? (e.after before) := by
  have same (t : Trace) : metrics (before ++ t) = metrics t := by
    rw [metrics_append, silent, List.nil_append]
  cases ends with
  | registered t counted => exact .registered t ((same _).trans counted)
  | closed uncounted => exact .closed ((same _).trans uncounted)
  | failed f _ uncounted => exact .failed f t? ((same _).trans uncounted)

theorem ends_complete : Ends c m (.ok ()) t? (complete t? c m) := by
  cases t? with
  | none => exact .closed rfl
  | some t => exact .registered t rfl

theorem ends_app (written : Except Failure Unit) :
    Ends .app (.ofApp number begun) written t? (app t? number begun written) := by
  cases written with
  | error f => exact .failed f t? rfl
  | ok => exact (ends_complete t?).after t? rfl

theorem ends_httpAnswered (reply : Except Failure Nat) :
    Ends .http (.ofHttp number begun) (reply.map fun _ => ()) t? (httpAnswered t? base number begun reply) := by
  cases reply with
  | error f => exact .failed f t? rfl
  | ok status =>
    refine (ends_complete t?).after t? ?_
    unfold statusWarning
    split <;> rfl

theorem ends_http (reply : Except Failure Nat) :
    Ends .http (.ofHttp number begun) (reply.map fun _ => ()) t? (http t? base number begun reply) :=
  (ends_httpAnswered t? base number begun reply).after t? rfl

end Ends
end Emission

namespace Traffic
open Session (Setup Answer)
open Trace

/-- An emission as far as its answer: the marker that it is about, and whether its line or request was taken. -/
structure Attempt where
  channel : Channel
  marker : Marker
  answer : Except Failure Unit

/-- The emission that a step brings to its end. -/
def attempt? (setup : Setup) (x : Traffic) : Step → Option Attempt
  | .turn (.emitApp written) =>
    some
      { channel := .app
        marker := .ofApp (setup.number .app (x.session.taken .app)) x.session.now
        answer := written }
  | .turn (.emitHttp reply) =>
    some
      { channel := .http
        marker := .ofHttp (setup.number .http (x.session.taken .http)) x.session.now
        answer := reply.map fun _ => () }
  | .answer r reply =>
    if r ∈ x.underway then
      some { channel := .http, marker := .ofHttp r.number r.begun, answer := reply.map fun _ => () }
    else none
  | _ => none

/-- What an emission does, by the tracker before and after it. -/
structure Attempt.Settled (a : Attempt) (before after : Option Tracker) (given : Answer) : Prop where
  succeeds : (∃ m, given.reply = .emitted m) ↔ a.answer = .ok () ∧ before.isSome = true
  registers : ∀ m, given.reply = .emitted m → m = a.marker ∧ metrics given.trace = [.markerEmitted a.channel] ∧
    ∃ t, before = some t ∧ after = some { t with waiting := t.waiting ++ [{ channel := a.channel, marker := m }] }
  refuses : (∀ m, given.reply ≠ .emitted m) →
    (∃ f, given.reply = .refused f) ∧ metrics given.trace = [] ∧ after = before

section Attempts
variable {setup : Setup} {x : Traffic} {next : Step} {a : Attempt}

theorem attempt?_answer {r : Request} (listed : r ∈ x.underway) (reply : Except Failure Nat) :
    x.attempt? setup (.answer r reply) =
      some { channel := .http, marker := .ofHttp r.number r.begun, answer := reply.map fun _ => () } :=
  if_pos listed

theorem step_attempt (attempts : x.attempt? setup next = some a) :
    ∃ e, Emission.Ends a.channel a.marker a.answer x.session.tracker e ∧
      (x.step setup next).1 = (x.session.ofEmission a.channel e).1 ∧
      (x.step setup next).2.session.tracker = e.tracker := by
  unfold attempt? at attempts
  split at attempts
  · obtain rfl := Option.some.inj attempts
    exact ⟨_, Emission.ends_app .., rfl, rfl⟩
  · obtain rfl := Option.some.inj attempts
    exact ⟨_, Emission.ends_http .., rfl, rfl⟩
  · split at attempts
    · next listed =>
      obtain rfl := Option.some.inj attempts
      simp only [step, if_pos listed]
      exact ⟨_, Emission.ends_httpAnswered .., rfl, rfl⟩
    · contradiction
  · contradiction

theorem settled_attempt (attempts : x.attempt? setup next = some a) :
    a.Settled x.session.tracker (x.step setup next).2.session.tracker (x.step setup next).1 := by
  obtain ⟨e, ends, given, tracker⟩ := step_attempt attempts
  rw [given, tracker]
  obtain ⟨c, m, answer⟩ := a
  dsimp only at ends
  generalize x.session.tracker = t? at ends
  cases ends with
  | registered t counted =>
    refine ⟨⟨fun _ => ⟨rfl, rfl⟩, fun _ => ⟨m, rfl⟩⟩, fun _ same => ?_, fun other => absurd rfl (other m)⟩
    obtain rfl := Session.Reply.emitted.inj same
    exact ⟨rfl, counted, t, rfl, rfl⟩
  | closed silent => exact ⟨⟨nofun, nofun⟩, nofun, fun _ => ⟨⟨_, rfl⟩, silent, rfl⟩⟩
  | failed f _ silent => exact ⟨⟨nofun, nofun⟩, nofun, fun _ => ⟨⟨f, rfl⟩, silent, rfl⟩⟩

end Attempts

def outstanding (x : Traffic) (c : Channel) : List Marker :=
  match x.session.tracker with
  | some t => t.outstanding c
  | none => []

namespace Turn

def emitted (setup : Setup) (c : Channel) (turn : Turn) : List Marker :=
  match turn.before.attempt? setup turn.next, (turn.answer setup).reply with
  | some a, .emitted m => if a.channel = c then [m] else []
  | _, _ => []

/-- The marker that is registered on the channel by hand, without an emission. -/
def entered (c : Channel) (turn : Turn) : List Marker :=
  match turn.next with
  | .turn (.register d id emittedAt) =>
    if d = c ∧ turn.before.session.tracker.isSome then
      [{ id, emittedAt := emittedAt.getD turn.before.session.now }]
    else []
  | _ => []

def resolved (setup : Setup) (c : Channel) (turn : Turn) : List Marker :=
  match (turn.answer setup).reply with
  | .resolved rs => (rs.filterMap fun (d, r) => if d = c then some r else none).map (·.marker)
  | _ => []

end Turn

def emitted (setup : Setup) (c : Channel) (turns : List Turn) : List Marker := turns.flatMap (Turn.emitted setup c)

def entered (c : Channel) (turns : List Turn) : List Marker := turns.flatMap (Turn.entered c)

def resolved (setup : Setup) (c : Channel) (turns : List Turn) : List Marker := turns.flatMap (Turn.resolved setup c)

def Carries (monitoredUrl : String) (c : Channel) (m : Marker) (text : String) : Prop :=
  match c with
  | .app => text = Marker.appLine m.id m.emittedAt
  | .http => ∃ bare, WithoutSlashes monitoredUrl bare ∧ text = bare ++ m.id

/-- Whether a step puts a line into the log of the application, or requests a URL. -/
def Step.putsOut : Channel → Step → Bool
  | .app, .turn (.emitApp (.ok ())) => true
  | .http, .turn (.emitHttp _) => true
  | .http, .request => true
  | _, _ => false

/-- A marker was brought into the logs, when the clock showed what it says. -/
def PutOut (setup : Setup) (turns : List Turn) (c : Channel) (m : Marker) : Prop :=
  ∃ turn ∈ turns, turn.next.putsOut c = true ∧ turn.before.session.now = m.emittedAt ∧
    ∃ text, .emitted text ∈ (turn.answer setup).trace ∧ Carries setup.monitoredUrl c m text

theorem PutOut.mono {setup : Setup} {turns turns' : List Turn} {c : Channel} {m : Marker}
    (out : PutOut setup turns c m) (earlier : turns ⊆ turns') : PutOut setup turns' c m := by
  obtain ⟨turn, taken, rest⟩ := out
  exact ⟨turn, earlier taken, rest⟩

theorem carries_sample (url number : String) (begun : Instant) :
    Carries url .http (.ofHttp number begun) (Endpoint.sample url number) :=
  ⟨trimSlashes url, withoutSlashes_trimSlashes url, rfl⟩

/-- A turn leaves or resolves a marker at most so much oftener than it was unresolved before. -/
def Turn.Adds (setup : Setup) (c : Channel) (m : Marker) (turn : Turn) (new : Nat) : Prop :=
  ((turn.before.step setup turn.next).2.outstanding c).count m + (turn.resolved setup c).count m ≤
    (turn.before.outstanding c).count m + new

theorem Turn.Adds.mono {setup : Setup} {c : Channel} {m : Marker} {turn : Turn} {new new' : Nat}
    (adds : turn.Adds setup c m new) (more : new ≤ new') : turn.Adds setup c m new' :=
  adds.trans (Nat.add_le_add_left more _)

section Steps
variable (setup : Setup) (x : Traffic) (c : Channel)

theorem kept_resolved_perm {rule : Marker → Option Resolution} (own : ∀ m r, rule m = some r → r.marker = m)
    (ms : List Marker) :
    ((ms.filter fun m => (rule m).isNone) ++ (ms.filterMap rule).map (·.marker)).Perm ms := by
  induction ms with
  | nil => exact .nil
  | cons m ms ih =>
    cases judged : rule m with
    | none =>
      rw [List.filter_cons_of_pos (by rw [judged, Option.isNone_none]), List.filterMap_cons_none judged]
      exact ih.cons m
    | some r =>
      rw [List.filter_cons_of_neg (by rw [judged]; exact Bool.false_ne_true), List.filterMap_cons_some judged,
        List.map_cons, own m r judged]
      exact List.perm_middle.trans (ih.cons m)

/-- A pass resolves markers that it has found unresolved, and keeps the others. -/
theorem pass_perm (w : Watcher) (t : Tracker) (search : Search.Reply) (clock : Channel → Nat → Instant) (sink : Sink)
    (firstWrite : Nat) :
    ((w.pass t search clock sink firstWrite).tracker.outstanding c ++
      ((w.pass t search clock sink firstWrite).resolutions c).map (·.marker)).Perm (t.outstanding c) := by
  cases answer : search.result with
  | error f =>
    rw [Watcher.resolutions_failed w t clock sink firstWrite answer,
      Watcher.pass_failed w t clock sink firstWrite answer, Tracker.outstanding_drain, List.map_nil, List.append_nil]
  | ok events =>
    rw [Watcher.resolutions_found w t clock sink firstWrite answer,
      Watcher.outstanding_found w t clock sink firstWrite answer]
    exact kept_resolved_perm (fun _ _ => Marker.judge_marker) _

variable (m : Marker) {next : Step}

theorem adds_idle (tracker : (x.step setup next).2.session.tracker = x.session.tracker)
    (resolves : Turn.resolved setup c { before := x, next } = []) : Turn.Adds setup c m { before := x, next } 0 := by
  rw [Turn.Adds, resolves, outstanding, tracker, outstanding, List.count_nil]

theorem adds_attempt {a : Attempt} (attempts : x.attempt? setup next = some a) :
    let turn : Turn := { before := x, next }
    turn.Adds setup c m ((turn.emitted setup c).count m) := by
  obtain ⟨e, ends, given, tracker⟩ := step_attempt attempts
  obtain ⟨d, made, answer⟩ := a
  dsimp only at ends given
  simp only [Turn.Adds, Turn.resolved, Turn.emitted, Turn.answer, attempts, given, outstanding, tracker,
    Session.ofEmission]
  generalize x.session.tracker = t? at ends
  cases ends with
  | registered t =>
    dsimp only
    rw [Tracker.outstanding_register, List.count_append, List.count_nil, Nat.add_zero]
  | closed => exact Nat.zero_le _
  | failed => exact Nat.le_add_right _ _

theorem adds_register (d : Channel) (id : String) (emittedAt : Option Instant) :
    let turn : Turn := { before := x, next := .turn (.register d id emittedAt) }
    turn.Adds setup c m ((turn.entered c).count m) := by
  obtain ⟨⟨t?, now, taken⟩, underway⟩ := x
  cases t? with
  | none => exact Nat.zero_le _
  | some t =>
    have stands := Tracker.outstanding_register t c d { id, emittedAt := emittedAt.getD now }
    simp only [Turn.Adds, step, Session.step, Tracker.registerWith, outstanding, stands, Turn.resolved, Turn.entered,
      Turn.answer, List.count_append, List.count_nil, Nat.add_zero, Option.isSome_some, and_true, Nat.le_refl]

theorem adds_pass (search : Search.Reply) (clock : Channel → Nat → Instant) (sink : Sink) (firstWrite : Nat) :
    Turn.Adds setup c m { before := x, next := .pass search clock sink firstWrite } 0 := by
  cases held : x.session.tracker with
  | none =>
    refine adds_idle setup x c m ?_ ?_
    · simp only [step, held]
    · simp only [Turn.resolved, Turn.answer, step, held]
  | some t =>
    have divided := (pass_perm c setup.watcher t search clock sink firstWrite).count_eq m
    rw [List.count_append] at divided
    simp only [Turn.Adds, step, held, outstanding, Turn.resolved, Turn.answer]
    rw [← divided, Pass.resolutions, Pass.returned]
    cases (setup.watcher.pass t search clock sink firstWrite).result <;> exact Nat.le_refl _

theorem adds_turn (next : Session.Step) :
    let turn : Turn := { before := x, next := .turn next }
    turn.Adds setup c m ((turn.entered c).count m + (turn.emitted setup c).count m) := by
  have idle {turn : Turn} (adds : turn.Adds setup c m 0) {new : Nat} : turn.Adds setup c m new :=
    adds.mono (Nat.zero_le _)
  cases next with
  | register d id emittedAt => exact (adds_register setup x c m d id emittedAt).mono (Nat.le_add_right _ _)
  | emitApp written => exact (adds_attempt setup x c m rfl).mono (Nat.le_add_left _ _)
  | emitHttp reply => exact (adds_attempt setup x c m rfl).mono (Nat.le_add_left _ _)
  | advance nanos =>
    refine idle (adds_idle setup x c m ?_ ?_)
    · simp only [step, Session.step]
      split <;> rfl
    · simp only [Turn.resolved, Turn.answer, step, Session.step]
      cases x.session.now.shift? nanos <;> rfl
  | set instant => exact idle (adds_idle setup x c m rfl rfl)
  | record d successful drift writes =>
    refine idle (adds_idle setup x c m rfl ?_)
    simp only [Turn.resolved, Turn.answer, step, Session.step]
    generalize record setup.watcher.system d successful drift (Session.sinkOf setup writes) 0 = recorded
    obtain ⟨written, trace⟩ := recorded
    cases written <;> rfl
  | watch search writes =>
    have adds : Turn.Adds setup c m { before := x, next := .turn (.watch search writes) } 0 := by
      simp only [Turn.Adds, Turn.resolved, Turn.answer, step_watch]
      exact adds_pass setup x c m search (fun _ _ => x.session.now) (Session.sinkOf setup writes) 0
    exact idle adds
  | dropWatcher => exact Nat.zero_le _

/-- What a step leaves and resolves was unresolved before it, is entered by hand, or is emitted. -/
theorem adds_step (next : Step) :
    let turn : Turn := { before := x, next }
    turn.Adds setup c m ((turn.entered c).count m + (turn.emitted setup c).count m) := by
  have idle {turn : Turn} (adds : turn.Adds setup c m 0) {new : Nat} : turn.Adds setup c m new :=
    adds.mono (Nat.zero_le _)
  cases next with
  | turn next => exact adds_turn setup x c m next
  | request => exact idle (adds_idle setup x c m rfl rfl)
  | answer r reply =>
    by_cases listed : r ∈ x.underway
    · exact (adds_attempt setup x c m (attempt?_answer listed reply)).mono (Nat.le_add_left _ _)
    · refine idle (adds_idle setup x c m ?_ ?_)
      · simp only [step, if_neg listed]
      · simp only [Turn.resolved, Turn.answer, step, if_neg listed]
  | pass search clock sink firstWrite => exact idle (adds_pass setup x c m search clock sink firstWrite)

end Steps

section PutOut
variable {setup : Setup} {turns : List Turn} {x : Traffic}

theorem putOut_attempt (requested : ∀ r ∈ x.underway, PutOut setup turns .http (.ofHttp r.number r.begun))
    {next : Step} {a : Attempt} (attempts : x.attempt? setup next = some a) (works : a.answer = .ok ()) :
    PutOut setup (turns ++ [{ before := x, next }]) a.channel a.marker := by
  have taken : { before := x, next } ∈ turns ++ [{ before := x, next }] :=
    List.mem_append_right _ (List.mem_singleton_self _)
  unfold attempt? at attempts
  split at attempts
  · obtain rfl := Option.some.inj attempts
    dsimp only at works
    subst works
    exact ⟨_, taken, rfl, rfl, _, List.mem_append_left _ (List.mem_singleton_self _), rfl⟩
  · obtain rfl := Option.some.inj attempts
    exact ⟨_, taken, rfl, rfl, _, List.mem_append_left _ (List.mem_singleton_self _), carries_sample ..⟩
  · split at attempts
    · next listed =>
      obtain rfl := Option.some.inj attempts
      exact (requested _ listed).mono (List.subset_append_left _ _)
    · contradiction
  · contradiction

theorem putOut_underway (requested : ∀ r ∈ x.underway, PutOut setup turns .http (.ofHttp r.number r.begun))
    (next : Step) :
    ∀ r ∈ (x.step setup next).2.underway,
      PutOut setup (turns ++ [{ before := x, next }]) .http (.ofHttp r.number r.begun) := by
  have still (r : Request) (listed : r ∈ x.underway) :
      PutOut setup (turns ++ [{ before := x, next }]) .http (.ofHttp r.number r.begun) :=
    (requested r listed).mono (List.subset_append_left _ _)
  intro r listed
  cases next with
  | turn next => exact still r listed
  | request =>
    rcases List.mem_cons.mp listed with rfl | before
    · exact ⟨_, List.mem_append_right _ (List.mem_singleton_self _), rfl, rfl, _, List.mem_singleton_self _,
        carries_sample ..⟩
    · exact still r before
  | answer answered reply =>
    simp only [step] at listed
    split at listed
    · exact still r (List.mem_of_mem_erase listed)
    · exact still r listed
  | pass search clock sink firstWrite =>
    simp only [step] at listed
    split at listed <;> exact still r listed

/-- What the turns of a run have to do with the state that they lead to. -/
structure Traced (setup : Setup) (turns : List Turn) (x : Traffic) : Prop where
  balance : ∀ c m, (x.outstanding c).count m + (resolved setup c turns).count m ≤
    (entered c turns).count m + (emitted setup c turns).count m
  emitted : ∀ c, ∀ m ∈ emitted setup c turns, PutOut setup turns c m
  underway : ∀ r ∈ x.underway, PutOut setup turns .http (.ofHttp r.number r.begun)

/-- A marker that is unresolved or has been resolved was entered by hand or put out. -/
theorem Traced.origin (traced : Traced setup turns x) {c : Channel} {m : Marker}
    (found : m ∈ x.outstanding c ++ resolved setup c turns) : m ∈ entered c turns ∨ PutOut setup turns c m := by
  have balance := traced.balance c m
  have some := List.count_pos_iff.mpr found
  rw [List.count_append] at some
  rcases Nat.eq_zero_or_pos ((Traffic.entered c turns).count m) with none | by_hand
  · exact .inr (traced.emitted c m (List.count_pos_iff.mp (by omega)))
  · exact .inl (List.count_pos_iff.mp by_hand)

theorem emitted_putOut (requested : ∀ r ∈ x.underway, PutOut setup turns .http (.ofHttp r.number r.begun))
    {next : Step} {c : Channel} {m : Marker} (member : m ∈ Turn.emitted setup c { before := x, next }) :
    PutOut setup (turns ++ [{ before := x, next }]) c m := by
  unfold Turn.emitted at member
  split at member
  · next a m' attempts returned =>
    split at member
    · next same =>
      obtain rfl := List.mem_singleton.mp member
      have settled := settled_attempt attempts
      obtain ⟨works, -⟩ := settled.succeeds.mp ⟨m, returned⟩
      obtain ⟨rfl, -⟩ := settled.registers m returned
      exact same ▸ putOut_attempt requested attempts works
    · contradiction
  · contradiction

theorem traced_step (traced : Traced setup turns x) (next : Step) :
    Traced setup (turns ++ [{ before := x, next }]) (x.step setup next).2 where
  balance c m := by
    have before := traced.balance c m
    have adds := adds_step setup x c m next
    simp only [Turn.Adds, Traffic.resolved, Traffic.entered, Traffic.emitted, List.flatMap_append,
      List.flatMap_singleton, List.count_append] at before adds ⊢
    omega
  emitted c m member := by
    rw [Traffic.emitted, List.flatMap_append, List.flatMap_singleton, List.mem_append] at member
    rcases member with before | now
    · exact (traced.emitted c m before).mono (List.subset_append_left _ _)
    · exact emitted_putOut traced.underway now
  underway := putOut_underway traced.underway next

theorem traced_run (setup : Setup) (now : Instant) (steps : List Step) :
    Traced setup (run setup (start now) steps) (after setup (start now) steps) := by
  induction steps using List.reverseRecOn with
  | nil => exact ⟨fun c m => by cases c <;> exact Nat.le_refl 0, nofun, nofun⟩
  | append_singleton steps next ih =>
    rw [run_concat, after_concat]
    exact traced_step ih next

end PutOut

/-- At any point of a run an emission succeeds exactly if its line was written or its request answered, whatever the
status, and the tracker exists. Then it is counted, and its marker is behind all others in the intake; otherwise it
registers nothing and is not counted. So every marker that is unresolved or has been resolved, if it was not entered by
hand, was put out before, when the clock showed what it says. No marker is unresolved or has been resolved more often
than it was entered by hand and emitted, and every emitted one was put out too. -/
theorem emission_and_registration (setup : Setup) (now : Instant) (steps : List Step) :
    let x := after setup (start now) steps
    let turns := run setup (start now) steps
    (∀ next a, x.attempt? setup next = some a →
      a.Settled x.session.tracker (x.step setup next).2.session.tracker (x.step setup next).1) ∧
    (x.step setup .request).2.session.tracker = x.session.tracker ∧ metrics (x.step setup .request).1.trace = [] ∧
    ∀ c,
      (∀ m ∈ x.outstanding c ++ resolved setup c turns, m ∈ entered c turns ∨ PutOut setup turns c m) ∧
      (∀ m, (x.outstanding c).count m + (resolved setup c turns).count m ≤
        (entered c turns).count m + (emitted setup c turns).count m) ∧
      ∀ m ∈ emitted setup c turns, PutOut setup turns c m := by
  intro x turns
  have traced := traced_run setup now steps
  exact ⟨fun _ _ => settled_attempt, rfl, rfl,
    fun c => ⟨fun _ => traced.origin, traced.balance c, traced.emitted c⟩⟩

namespace Errand

def setup : Setup :=
  { watcher :=
      { system := "shop"
        limits := { searchTimeout := 3600, timeToFailure := 60 }
        dryRun := false }
    monitoredUrl := "http://localhost:8080//"
    announces := false
    number := fun c taken =>
      match c with
      | .app => "1" ++ toString taken
      | .http => "2" ++ toString taken }

def noon : Instant := { second := 1709294400, nano := 0 }

def before : List Step := [.request, .turn (.emitApp (.ok ())), .turn (.advance 3000000000)]

def reply : Step := .answer { number := "20", begun := noon } (.ok 500)

/-- The request is answered with an error of the server; its marker is from before the clock went on. -/
theorem late_answer_registered :
    let x := after setup (start noon) before
    let turns := run setup (start noon) (before ++ [reply])
    (∃ a, x.attempt? setup reply = some a ∧ a.answer = .ok () ∧
      a.Settled x.session.tracker (x.step setup reply).2.session.tracker (x.step setup reply).1) ∧
    emitted setup .http turns = [{ id := "/samples/20", emittedAt := noon }] ∧
    PutOut setup turns .http { id := "/samples/20", emittedAt := noon } := by
  intro x turns
  have listed : { number := "20", begun := noon } ∈ x.underway := by decide +kernel
  have attempts : x.attempt? setup reply = _ := attempt?_answer listed (.ok 500)
  have returned : emitted setup .http turns = [{ id := "/samples/20", emittedAt := noon }] := by decide +kernel
  refine ⟨⟨_, attempts, rfl, (emission_and_registration setup noon before).1 reply _ attempts⟩, returned, ?_⟩
  refine ((emission_and_registration setup noon (before ++ [reply])).2.2.2 .http).2.2 _ ?_
  exact returned ▸ List.mem_singleton_self _

end Errand
end Traffic
end DeliveryProbe
