import DeliveryProbe.Proofs.Erasure
import DeliveryProbe.Proofs.Measurement

/-! What the process metrics of a session say. They count what happened in it, step by step, however the
systems around it answered. -/
namespace DeliveryProbe

namespace Session
open Trace

def Step.emission? : Step → Option Channel
  | .emitApp _ => some .app
  | .emitHttp _ => some .http
  | _ => none

def Reply.isEmitted : Reply → Bool
  | .emitted _ => true
  | _ => false

abbrev Turn := Step × Answer

def turns (setup : Setup) (s : Session) (steps : List Step) : List Turn :=
  steps.zip ((run setup s steps).map Prod.fst)

namespace Turn

def emits (c : Channel) (turn : Turn) : Bool := turn.1.emission? = some c && turn.2.reply.isEmitted

def searched? : Turn → Option Search.Reply
  | (.watch _ _, ⟨.gone, _⟩) => none
  | (.watch search _, _) => some search
  | _ => none

def refusesPass : Turn → Bool
  | (.watch _ _, ⟨.refused _, _⟩) => true
  | _ => false

/-- What is to be written: a measurement given directly, or every resolution that a pass returns. -/
def samples (w : Watcher) : Turn → List Sample
  | (.record c successful drift _, _) => [.measured w.system c successful drift]
  | (.watch _ _, ⟨.resolved rs, _⟩) => rs.map fun (c, r) => w.sample c r
  | _ => []

def failedAmong (answers : List (Except Failure Unit)) (count : Nat) : List (Except Failure Unit) :=
  (answers.take count).filter fun answer => !answer.isOk

/-- The answers to the writes that fail. -/
def failedWrites (w : Watcher) (turn : Turn) : List (Except Failure Unit) :=
  match turn.1 with
  | .record _ _ _ answers | .watch _ answers => failedAmong answers (turn.samples w).length
  | _ => []

/-- An emission writes no sample and asks no search. -/
theorem quiet_of_emission (w : Watcher) (answer : Answer) {next : Step} {c : Channel}
    (emits : next.emission? = some c) :
    let turn : Turn := (next, answer)
    turn.samples w = [] ∧ turn.failedWrites w = [] ∧ turn.refusesPass = false ∧ turn.searched? = none := by
  cases next with
  | emitApp written => exact ⟨rfl, rfl, rfl, rfl⟩
  | emitHttp reply => exact ⟨rfl, rfl, rfl, rfl⟩
  | _ => contradiction

end Turn

def seen (turns : List Turn) : Trace := turns.flatMap fun turn => turn.2.trace

/-- The process metrics agree with what happened. -/
structure Accounted (w : Watcher) (turns : List Turn) : Prop where
  emitted (c : Channel) : (metrics (seen turns)).count (.markerEmitted c) = turns.countP (Turn.emits c)
  written : Trace.writes (seen turns) = turns.flatMap (Turn.samples w)
  measured : Measured w.system (seen turns)
  writeErrors : (metrics (seen turns)).count .writeFailed = (turns.flatMap (Turn.failedWrites w)).length
  searchErrors : (metrics (seen turns)).count .searchFailed = turns.countP Turn.refusesPass
  unreadable : (metrics (seen turns)).count .searchMalformed =
    (turns.filterMap Turn.searched?).countP Search.Reply.isUnreadable
  fetched : (metrics (seen turns)).filterMap Metric.fetched? =
    (turns.filterMap Turn.searched?).filterMap Search.Reply.fetched?

namespace Accounted
variable {w : Watcher} {first second : List Turn}

theorem nil : Accounted w [] where
  emitted _ := rfl
  written := rfl
  measured := .nil
  writeErrors := rfl
  searchErrors := rfl
  unreadable := rfl
  fetched := rfl

theorem append (front : Accounted w first) (back : Accounted w second) : Accounted w (first ++ second) := by
  have split : seen (first ++ second) = seen first ++ seen second := List.flatMap_append
  constructor
  case emitted =>
    intro c
    rw [split, metrics_append, List.count_append, List.countP_append, front.emitted, back.emitted]
  case written => rw [split, Trace.writes_append, List.flatMap_append, front.written, back.written]
  case measured =>
    rw [split]
    exact front.measured.append back.measured
  case writeErrors =>
    rw [split, metrics_append, List.count_append, List.flatMap_append, List.length_append, front.writeErrors,
      back.writeErrors]
  case searchErrors =>
    rw [split, metrics_append, List.count_append, List.countP_append, front.searchErrors, back.searchErrors]
  case unreadable =>
    rw [split, metrics_append, List.count_append, List.filterMap_append, List.countP_append,
      front.unreadable, back.unreadable]
  case fetched =>
    rw [split, metrics_append, List.filterMap_append, List.filterMap_append, List.filterMap_append,
      front.fetched, back.fetched]

theorem seen_singleton (turn : Turn) : seen [turn] = turn.2.trace := List.flatMap_singleton ..

theorem of_turn {turn : Turn} {t : Trace} {failed : Nat} (own : List Metric)
    (measured : Measured w.system turn.2.trace) (written : Trace.writes turn.2.trace = turn.samples w)
    (split : metrics turn.2.trace = own ++ metrics t) (recorded : Recorded w.system failed t)
    (failures : (turn.failedWrites w).length = failed) (unfailed : .writeFailed ∉ own)
    (emitted : ∀ c, own.count (.markerEmitted c) = if turn.emits c then 1 else 0)
    (searchErrors : own.count .searchFailed = if turn.refusesPass then 1 else 0)
    (unreadable : own.count .searchMalformed = turn.searched?.toList.countP Search.Reply.isUnreadable)
    (fetched : own.filterMap Metric.fetched? = turn.searched?.toList.filterMap Search.Reply.fetched?) :
    Accounted w [turn] := by
  have asked : [turn].filterMap Turn.searched? = turn.searched?.toList := by
    cases searched : turn.searched? <;> simp [searched]
  have counted (m : Metric) (other : m.ofResolution = false) (distinct : m ≠ .writeFailed) :
      (metrics (seen [turn])).count m = own.count m := by
    rw [seen_singleton, split, List.count_append, recorded.count_eq_zero other distinct, Nat.add_zero]
  constructor
  case emitted =>
    intro c
    rw [counted (.markerEmitted c) rfl nofun, emitted, List.countP_singleton]
  case written => rw [seen_singleton, List.flatMap_singleton, written]
  case measured =>
    rw [seen_singleton]
    exact measured
  case writeErrors =>
    rw [seen_singleton, split, List.count_append, List.count_eq_zero.mpr unfailed, recorded.failures,
      List.flatMap_singleton, failures, Nat.zero_add]
  case searchErrors => rw [counted .searchFailed rfl nofun, searchErrors, List.countP_singleton]
  case unreadable => rw [counted .searchMalformed rfl nofun, unreadable, asked]
  case fetched =>
    rw [seen_singleton, split, List.filterMap_append, recorded.filterMap_fetched, List.append_nil, fetched,
      asked]

theorem of_emission {c : Channel} {e : Emission} (counted : e.Counted c) {next : Step}
    (emits : next.emission? = some c) (s : Session) : Accounted w [(next, (s.ofEmission c e).1)] := by
  have split : metrics e.trace = (if e.result.isOk then [.markerEmitted c] else []) ++ metrics [] := by
    rw [counted.metrics]
    exact (List.append_nil _).symm
  have unwritten := Trace.writes_of_aside counted.apart
  obtain ⟨written, failures, calm, unasked⟩ := Turn.quiet_of_emission w (s.ofEmission c e).1 emits
  refine of_turn _ (.of_aside counted.apart) (unwritten.trans written.symm) split .nil
    (List.length_eq_zero_iff.mpr failures) ?unfailed ?emitted ?refused ?unreadable ?fetched
  case emitted =>
    intro d
    rw [Turn.emits, emits, ofEmission]
    cases result : e.result with
    | ok m => by_cases same : c = d <;> simp [same, Except.isOk, Except.toBool, Reply.isEmitted]
    | error f => simp [Except.isOk, Except.toBool, Reply.isEmitted]
  case unfailed => split <;> simp
  case refused =>
    rw [calm]
    split <;> rfl
  case unreadable =>
    rw [unasked]
    split <;> rfl
  case fetched =>
    rw [unasked]
    split <;> rfl

theorem of_silent {next : Step} {reply : Reply} (emits : next.emission? = none)
    (unwritten : Turn.samples w (next, ⟨reply, []⟩) = [])
    (calm : Turn.refusesPass (next, ⟨reply, []⟩) = false)
    (unasked : Turn.searched? (next, ⟨reply, []⟩) = none) : Accounted w [(next, ⟨reply, []⟩)] := by
  refine of_turn [] .nil unwritten.symm rfl .nil ?failures List.not_mem_nil ?emitted ?refused
    ?unreadable ?fetched
  case failures =>
    unfold Turn.failedWrites
    split <;> simp [unwritten, Turn.failedAmong]
  case emitted =>
    intro c
    simp [Turn.emits, emits]
  case refused => simp [calm]
  case unreadable => simp [unasked]
  case fetched => simp [unasked]

end Accounted

section Steps
variable (setup : Setup) (s : Session)

/-- Of the answers to the writes that begin with the given one, as many are failures as are counted. -/
theorem length_failures (answers : List (Except Failure Unit)) (firstWrite : Nat)
    (rs : List (Channel × Resolution)) :
    ((sinkOf setup answers).failures firstWrite rs).length =
      (Turn.failedAmong (answers.drop firstWrite) rs.length).length := by
  induction rs generalizing firstWrite with
  | nil => simp [Sink.failures, Turn.failedAmong]
  | cons r rs ih =>
    obtain ⟨c, r⟩ := r
    have answered : (sinkOf setup answers).answer firstWrite = (answers[firstWrite]?).getD (.ok ()) := rfl
    rw [Watcher.failures_cons, List.length_append, ih, Sink.failure, answered]
    rcases Nat.lt_or_ge firstWrite answers.length with within | beyond
    · rw [List.getElem?_eq_getElem within, Option.getD_some, Turn.failedAmong, Turn.failedAmong,
        List.drop_eq_getElem_cons within, List.length_cons, List.take_succ_cons, List.filter_cons]
      cases answers[firstWrite] with
      | ok => simp [Except.isOk, Except.toBool]
      | error f => simp [Except.isOk, Except.toBool, Nat.add_comm]
    · rw [List.getElem?_eq_none_iff.mpr beyond, List.drop_eq_nil_of_le beyond,
        List.drop_eq_nil_of_le (Nat.le_succ_of_le beyond)]
      simp [Turn.failedAmong]

theorem accounted_record (c : Channel) (successful : Bool) (drift : Binary64)
    (answers : List (Except Failure Unit)) :
    let next := Step.record c successful drift answers
    Accounted setup.watcher [(next, (s.step setup next).1)] := by
  intro next
  have recorded := Watcher.recorded_record setup.watcher.system c successful drift (sinkOf setup answers) 0
  have written := Watcher.writes_record setup.watcher.system c successful drift (sinkOf setup answers) 0
  have failures : (Turn.failedWrites setup.watcher (next, (s.step setup next).1)).length =
      if ((sinkOf setup answers).answer 0).isOk then 0 else 1 := by
    cases answers with
    | nil => rfl
    | cons answer answers => cases answer <;> rfl
  exact .of_turn [] recorded.measured written rfl recorded failures List.not_mem_nil (fun _ => rfl) rfl rfl
    rfl

theorem watch_found {t : Tracker} (held : s.tracker = some t) (events : List Event)
    (answers : List (Except Failure Unit)) :
    let p := setup.watcher.pass t (.found events) (fun _ _ => s.now) (sinkOf setup answers) 0
    s.step setup (.watch (.found events) answers) =
      ({ reply := .resolved p.returned, trace := p.trace }, { s with tracker := some p.tracker }) := by
  intro p
  simp only [step, held, p, Watcher.pass, Search.Reply.result, Pass.returned]

theorem accounted_found {t : Tracker} (held : s.tracker = some t) (events : List Event)
    (answers : List (Except Failure Unit)) :
    let next := Step.watch (.found events) answers
    Accounted setup.watcher [(next, (s.step setup next).1)] := by
  intro next
  let w := setup.watcher
  let sink := sinkOf setup answers
  let p := w.pass t (.found events) (fun _ _ => s.now) sink 0
  have written := Watcher.writes_pass w t (.found events) (fun _ _ => s.now) sink 0
  have shown := Watcher.trace_found w t (.found events) (fun _ _ => s.now) sink 0 rfl
  have recorded := (Watcher.recorded_reports w sink 0 p.returned).append
    (Watcher.recorded_count w p.tracker "-- Looked through logs, after")
  have measured : Measured w.system p.trace := by
    rw [shown]
    exact (Watcher.measured_opening w t.drain (.found events)).append (.aside rfl recorded.measured)
  have split : metrics p.trace = [.eventsFetched events.length] ++ metrics
      (w.reports sink 0 p.returned ++ w.count "-- Looked through logs, after" p.tracker) := by
    rw [shown, metrics_append, Watcher.metrics_opening]
    rfl
  have failures : (Turn.failedAmong answers (p.returned.map fun (c, r) => w.sample c r).length).length =
      (sink.failures 0 p.returned).length + 0 := by
    rw [length_failures setup answers 0 p.returned, List.length_map, List.drop_zero, Nat.add_zero]
  rw [watch_found setup s held events answers]
  exact .of_turn _ measured written split recorded failures (by simp) (fun _ => rfl) rfl rfl rfl

theorem accounted_refused {t : Tracker} (held : s.tracker = some t) {search : Search.Reply} {f : Failure}
    (failed : search.result = .error f) (answers : List (Except Failure Unit)) :
    let next := Step.watch search answers
    Accounted setup.watcher [(next, (s.step setup next).1)] := by
  intro next
  let w := setup.watcher
  let sink := sinkOf setup answers
  let p := w.pass t search (fun _ _ => s.now) sink 0
  have shown := Watcher.trace_failed w t search (fun _ _ => s.now) sink 0 failed
  have complaint : ∀ o ∈ Watcher.searchComplaint f, o.aside = true := by
    intro o member
    cases f <;> simp [Watcher.searchComplaint] at member
    rw [member]
    rfl
  have measured : Measured w.system p.trace := by
    rw [shown]
    exact (Watcher.measured_opening w t.drain search).append (.aside rfl (.of_aside complaint))
  have unwritten := (Watcher.unrecorded_failed w t search (fun _ _ => s.now) sink 0 failed).writes
  have split : metrics p.trace = metrics search.trace ++ [.searchFailed] ++ metrics [] := by
    have silent : metrics (Watcher.searchComplaint f) = [] := by cases f <;> rfl
    rw [shown, metrics_append, Watcher.metrics_opening, List.append_assoc]
    change metrics search.trace ++ .searchFailed :: metrics (Watcher.searchComplaint f) = _
    rw [silent]
    rfl
  have failures : (Turn.failedAmong answers 0).length = 0 := by simp [Turn.failedAmong]
  rw [watch_failed setup held failed answers]
  cases search with
  | found events => contradiction
  | unreadable body =>
    exact .of_turn _ measured unwritten split .nil failures (by simp [metrics, Search.Reply.trace])
      (fun _ => rfl) rfl rfl rfl
  | failed f =>
    exact .of_turn _ measured unwritten split .nil failures (by simp [metrics, Search.Reply.trace])
      (fun _ => rfl) rfl rfl rfl

theorem length_run (steps : List Step) : (run setup s steps).length = steps.length := by
  induction steps generalizing s with
  | nil => rfl
  | cons next steps ih => rw [run, List.length_cons, List.length_cons, ih]

theorem accounted_step (next : Step) : Accounted setup.watcher [(next, (s.step setup next).1)] := by
  cases next with
  | register c id emittedAt =>
    obtain ⟨t?, now, taken⟩ := s
    cases t? <;> exact .of_silent rfl rfl rfl rfl
  | emitApp written => exact .of_emission (Emission.counted_app ..) rfl s
  | emitHttp reply => exact .of_emission (Emission.counted_http ..) rfl s
  | advance nanos =>
    cases shifted : s.now.shift? nanos with
    | none =>
      simp only [step, shifted]
      exact .of_silent rfl rfl rfl rfl
    | some later =>
      simp only [step, shifted]
      exact .of_silent rfl rfl rfl rfl
  | set instant => exact .of_silent rfl rfl rfl rfl
  | record c successful drift answers => exact accounted_record setup s c successful drift answers
  | watch search answers =>
    cases held : s.tracker with
    | none =>
      simp only [step, held]
      exact .of_silent rfl rfl rfl rfl
    | some t =>
      cases search with
      | found events => exact accounted_found setup s held events answers
      | unreadable body => exact accounted_refused setup s held rfl answers
      | failed f => exact accounted_refused setup s held rfl answers
  | dropWatcher => exact .of_silent rfl rfl rfl rfl

theorem accounted_turns (steps : List Step) : Accounted setup.watcher (turns setup s steps) := by
  induction steps generalizing s with
  | nil => exact .nil
  | cons next steps ih =>
    have first := accounted_step setup s next
    exact first.append (ih (s.step setup next).2)

/-- The process metrics of any session agree with its turns, and those of measurements with the writes: an
outcome is counted once for each sample that is written with it, and the drifts recorded are those of the
samples, one for one. -/
theorem metrics_agree (steps : List Step) :
    let history := turns setup s steps
    history.map Prod.fst = steps ∧
      history.map Prod.snd = (run setup s steps).map Prod.fst ∧
      Accounted setup.watcher history ∧
      (∀ c successful, (metrics (seen history)).count (.markerResolved c successful) =
        (Trace.writes (seen history)).countP fun s => s.channel = c ∧ s.successful = successful) ∧
      (metrics (seen history)).filterMap Metric.drift? =
        (Trace.writes (seen history)).map fun s => (s.channel, s.drift) := by
  intro history
  have accounted := accounted_turns setup s steps
  have size : ((run setup s steps).map Prod.fst).length = steps.length := by
    rw [List.length_map, length_run]
  exact ⟨List.map_fst_zip (Nat.le_of_eq size.symm), List.map_snd_zip (Nat.le_of_eq size), accounted,
    accounted.measured.count_resolved, accounted.measured.drifts⟩

/-- A body that cannot be read counts as malformed and as an error of the search, a search that fails by
itself as an error only, even if it blames the body. -/
example :
    metrics (seen (turns Outage.shop (start { second := 1709294400, nano := 0 })
      [.watch (.unreadable "<html>") [], .watch (.failed (.malformedSearch "<html>")) []])) =
      [.searchMalformed, .searchFailed, .searchFailed] := by
  decide

end Steps

end Session
end DeliveryProbe
