import DeliveryProbe.Emitter
import DeliveryProbe.Proofs.Recording

/-! What the process metrics of an emission and of a pass are. A measurement counts its outcome and records its
drift right before its sample is written, and only a write that fails is counted besides; a pass counts the
answer of its search in front of its measurements. -/
namespace DeliveryProbe

namespace Search.Reply

/-- A body came, and could not be read. -/
def isUnreadable : Reply → Bool
  | .unreadable _ => true
  | _ => false

/-- How many events a search found, if it succeeded. -/
def fetched? : Reply → Option Nat
  | .found events => some events.length
  | _ => none

end Search.Reply

namespace Metric

def fetched? : Metric → Option Nat
  | .eventsFetched count => some count
  | _ => none

def drift? : Metric → Option (Channel × Binary64)
  | .drift c seconds => some (c, seconds)
  | _ => none

end Metric

/-- Neither a metric about a resolution nor a write. -/
def Observation.aside : Observation → Bool
  | .metric m => !m.ofResolution
  | .wrote _ => false
  | _ => true

namespace Trace

theorem writes_of_aside {t : Trace} (apart : ∀ o ∈ t, o.aside = true) : writes t = [] := by
  refine List.filterMap_eq_nil_iff.mpr fun o member => ?_
  have aside := apart o member
  cases o with
  | wrote s => contradiction
  | _ => rfl

/-- Measurements come whole: the outcome is counted, the drift recorded, and right after it the sample
handed to the metric store, with the same channel and outcome and the same drift. -/
inductive Measured (system : String) : Trace → Prop where
  | nil : Measured system []
  | aside {o : Observation} {t : Trace} (apart : o.aside = true) (rest : Measured system t) :
      Measured system (o :: t)
  | measurement (c : Channel) (successful : Bool) (drift : Binary64) {t : Trace} (rest : Measured system t) :
      Measured system
        (.metric (.markerResolved c successful) :: .metric (.drift c drift.clampNegative) ::
          .wrote (Sample.measured system c successful drift) :: t)

namespace Measured
variable {system : String} {t u : Trace}

theorem of_aside (apart : ∀ o ∈ t, o.aside = true) : Measured system t := by
  induction t with
  | nil => exact .nil
  | cons o t ih =>
    rw [List.forall_mem_cons] at apart
    exact .aside apart.1 (ih apart.2)

theorem append (front : Measured system t) (back : Measured system u) : Measured system (t ++ u) := by
  induction front with
  | nil => exact back
  | aside apart _ ih => exact .aside apart ih
  | measurement c successful drift _ ih => exact .measurement c successful drift ih

/-- An outcome is counted once for each sample of its channel that is written with it. -/
theorem count_resolved (measured : Measured system t) (c : Channel) (successful : Bool) :
    (metrics t).count (.markerResolved c successful) =
      (writes t).countP fun s => s.channel = c ∧ s.successful = successful := by
  induction measured with
  | nil => rfl
  | @aside o t apart _ ih =>
    cases o with
    | metric m =>
      have other : m ≠ .markerResolved c successful := by
        rintro rfl
        simp [Observation.aside, Metric.ofResolution] at apart
      change (m :: metrics t).count _ = (writes t).countP _
      rw [List.count_cons_of_ne other, ih]
    | wrote s => simp [Observation.aside] at apart
    | log r => exact ih
    | emitted line => exact ih
    | searched system => exact ih
  | measurement d outcome drift _ ih =>
    simp only [metrics, writes, List.filterMap_cons] at ih ⊢
    simp [List.count_cons, List.countP_cons, ih, Sample.measured]

/-- The drifts are recorded one for one with the samples. -/
theorem drifts (measured : Measured system t) :
    (metrics t).filterMap Metric.drift? = (writes t).map fun s => (s.channel, s.drift) := by
  induction measured with
  | nil => rfl
  | @aside o t apart _ ih =>
    cases o with
    | metric m =>
      have other : m.drift? = none := by
        cases m <;> simp_all [Observation.aside, Metric.ofResolution, Metric.drift?]
      change (m :: metrics t).filterMap _ = (writes t).map _
      rw [List.filterMap_cons_none other, ih]
    | wrote s => simp [Observation.aside] at apart
    | log r => exact ih
    | emitted line => exact ih
    | searched system => exact ih
  | measurement d outcome drift _ ih =>
    simp only [metrics, writes, List.filterMap_cons] at ih ⊢
    simp [ih, Metric.drift?, Sample.measured]

end Measured

/-- Measurements and log records, with a count of the writes that failed. -/
structure Recorded (system : String) (failed : Nat) (t : Trace) : Prop where
  measured : Measured system t
  kinds : ∀ m ∈ metrics t, m.ofResolution = true ∨ m = .writeFailed
  failures : (metrics t).count .writeFailed = failed

namespace Recorded
variable {system : String} {t u : Trace} {failed failed' : Nat}

theorem nil : Recorded system 0 [] where
  measured := .nil
  kinds _ member := absurd member List.not_mem_nil
  failures := rfl

theorem remark (r : LogRecord) : Recorded system 0 [.log r] where
  measured := .aside rfl .nil
  kinds _ member := absurd member List.not_mem_nil
  failures := rfl

theorem failure : Recorded system 1 [.metric .writeFailed] where
  measured := .aside rfl .nil
  kinds _ member := .inr (List.mem_singleton.mp member)
  failures := rfl

theorem measurement (c : Channel) (successful : Bool) (drift : Binary64) (rest : Recorded system failed t) :
    Recorded system failed
      (.metric (.markerResolved c successful) :: .metric (.drift c drift.clampNegative) ::
        .wrote (Sample.measured system c successful drift) :: t) where
  measured := .measurement c successful drift rest.measured
  kinds m member := by
    rcases List.mem_cons.mp member with rfl | later
    · exact .inl rfl
    · rcases List.mem_cons.mp later with rfl | last
      · exact .inl rfl
      · exact rest.kinds m last
  failures := rest.failures

theorem append (front : Recorded system failed t) (back : Recorded system failed' u) :
    Recorded system (failed + failed') (t ++ u) where
  measured := front.measured.append back.measured
  kinds m member := by
    rw [metrics_append, List.mem_append] at member
    exact member.elim (front.kinds m) (back.kinds m)
  failures := by rw [metrics_append, List.count_append, front.failures, back.failures]

/-- No metric of another kind is among them. -/
theorem count_eq_zero (recorded : Recorded system failed t) {m : Metric} (other : m.ofResolution = false)
    (unfailed : m ≠ .writeFailed) : (metrics t).count m = 0 := by
  refine List.count_eq_zero.mpr fun member => ?_
  rcases recorded.kinds m member with resolution | failure
  · rw [other] at resolution
    contradiction
  · exact unfailed failure

theorem filterMap_fetched (recorded : Recorded system failed t) :
    (metrics t).filterMap Metric.fetched? = [] := by
  refine List.filterMap_eq_nil_iff.mpr fun m member => ?_
  rcases recorded.kinds m member with resolution | rfl
  · cases m <;> first | rfl | contradiction
  · rfl

end Recorded
end Trace

namespace Watcher
open Trace

theorem recorded_announcement (system : String) (sink : Sink) (s : Sample) :
    Recorded system 0 (sink.announcement s) := by
  rw [Sink.announcement]
  split
  · exact .remark _
  · exact .nil

theorem recorded_record (system : String) (c : Channel) (successful : Bool) (drift : Binary64) (sink : Sink)
    (write : Nat) :
    Recorded system (if (sink.answer write).isOk then 0 else 1)
      (record system c successful drift sink write).2 := by
  have shown := (recorded_announcement system sink (.measured system c successful drift)).measurement c
    successful drift
  unfold record
  cases sink.answer write with
  | ok => exact shown
  | error f => simpa [Except.isOk, Except.toBool, Sample.measured] using shown.append .failure

theorem writes_record (system : String) (c : Channel) (successful : Bool) (drift : Binary64) (sink : Sink)
    (write : Nat) :
    Trace.writes (record system c successful drift sink write).2 =
      [Sample.measured system c successful drift] := by
  have silent := (incidental_announcement sink (Sample.measured system c successful drift)).unrecorded.writes
  unfold record
  cases sink.answer write with
  | ok =>
    rw [Trace.writes_append, silent]
    rfl
  | error f =>
    rw [Trace.writes_append, Trace.writes_append, silent]
    rfl

section Pass
variable (w : Watcher) (sink : Sink) (t : Tracker) (search : Search.Reply)

theorem recorded_report (write : Nat) (c : Channel) (r : Resolution) :
    Recorded w.system (sink.failure write c r).length (w.report sink write c r) := by
  have recorded := recorded_record w.system c r.outcome.isSuccess r.drift sink write
  have warned : Recorded w.system 0 (warning c r) := by
    unfold warning
    cases r.outcome with
    | delivered => exact .nil
    | slow => exact .remark _
    | timedOut => exact .remark _
  have told := warned.append recorded
  unfold report Sink.failure
  unfold record at told ⊢
  cases answer : sink.answer write with
  | ok => simpa [answer, Except.isOk, Except.toBool] using told
  | error f =>
    simpa [answer, Except.isOk, Except.toBool] using told.append (.remark (complaint c r f))

theorem recorded_reports (firstWrite : Nat) (rs : List (Channel × Resolution)) :
    Recorded w.system (sink.failures firstWrite rs).length (w.reports sink firstWrite rs) := by
  induction rs generalizing firstWrite with
  | nil => exact .nil
  | cons r rs ih =>
    obtain ⟨c, r⟩ := r
    rw [failures_cons, reports_cons, List.length_append]
    exact (recorded_report w sink firstWrite c r).append (ih _)

theorem recorded_count (words : String) : Recorded w.system 0 (w.count words t) := by
  rw [count]
  split
  · exact .remark _
  · exact .nil

theorem metrics_opening : metrics (w.opening t search) = metrics search.trace := by
  have counted := (incidental_count w t "-- Looking through logs, before").metrics
  rw [opening, metrics_append, metrics_append, counted]
  rfl

theorem measured_opening : Measured w.system (w.opening t search) := by
  have counted := (recorded_count w t "-- Looking through logs, before").measured
  have question : Measured w.system
      [note .info "Searching logs..." [("system", .plain w.system)], .searched w.system] :=
    .aside rfl (.aside rfl .nil)
  have answer : Measured w.system search.trace := by
    cases search with
    | found events => exact .nil
    | unreadable body => exact .aside rfl .nil
    | failed f => exact .nil
  exact (counted.append question).append answer

end Pass
end Watcher

namespace Emission
open Trace

/-- An emission on a channel measures nothing; it counts itself once if it succeeds. -/
structure Counted (c : Channel) (e : Emission) : Prop where
  apart : ∀ o ∈ e.trace, o.aside = true
  metrics : Trace.metrics e.trace = if e.result.isOk then [.markerEmitted c] else []

theorem counted_complete (t : Option Tracker) (c : Channel) (m : Marker) : (complete t c m).Counted c := by
  cases t with
  | none => exact ⟨fun o member => absurd member List.not_mem_nil, rfl⟩
  | some t => exact ⟨fun o member => List.mem_singleton.mp member ▸ rfl, rfl⟩

theorem Counted.after {c : Channel} {e : Emission} (counted : e.Counted c) {before : Trace}
    (apart : ∀ o ∈ before, o.aside = true) (uncounted : Trace.metrics before = []) :
    (e.after before).Counted c where
  apart o member := (List.mem_append.mp member).elim (apart o) (counted.apart o)
  metrics := by
    rw [Emission.after, metrics_append, uncounted, List.nil_append, counted.metrics]

theorem counted_refused (c : Channel) {e : Emission} {f : Failure} (refused : e.result = .error f)
    (apart : ∀ o ∈ e.trace, o.aside = true) (uncounted : Trace.metrics e.trace = []) : e.Counted c where
  apart := apart
  metrics := by
    rw [uncounted, refused]
    rfl

theorem counted_app (t : Option Tracker) (number : String) (now : Instant) (written : Except Failure Unit) :
    (app t number now written).Counted .app := by
  have apart : ∀ o ∈ [Observation.emitted (Marker.appLine number now)], o.aside = true :=
    fun o member => List.mem_singleton.mp member ▸ rfl
  cases written with
  | error f => exact counted_refused .app rfl apart rfl
  | ok => exact (counted_complete t .app _).after apart rfl

theorem counted_http (t : Option Tracker) (base number : String) (now : Instant)
    (reply : Except Failure Nat) : (http t base number now reply).Counted .http := by
  have requested : ∀ o ∈ [Observation.emitted (Endpoint.sample base number)], o.aside = true :=
    fun o member => List.mem_singleton.mp member ▸ rfl
  refine Counted.after ?_ requested rfl
  cases reply with
  | error f => exact counted_refused .http rfl (fun o member => absurd member List.not_mem_nil) rfl
  | ok status =>
    have answered := counted_complete t .http (Marker.ofHttp number now)
    have warned : statusWarning (Endpoint.sample base number) status = [] ∨
        ∃ r, statusWarning (Endpoint.sample base number) status = [.log r] := by
      unfold statusWarning
      split
      · exact .inl rfl
      · exact .inr ⟨_, rfl⟩
    rcases warned with none | ⟨r, one⟩
    · exact answered.after (by simp [none]) (by rw [none]; rfl)
    · exact answered.after (by simp [one, Observation.aside]) (by rw [one]; rfl)

end Emission

end DeliveryProbe
