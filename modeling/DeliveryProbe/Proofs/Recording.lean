import DeliveryProbe.Proofs.WatcherRun

/-! What a pass records. Each resolution that it returns is written once, in order and whatever becomes
of the write. The answers of the metric store and the dry run add observations to the trace of a pass, and
change nothing else. -/
namespace DeliveryProbe

/-- The metric store that takes every write and says nothing. -/
def Sink.accepting : Sink := { announces := false, answer := fun _ => .ok () }

/-- Whether a metric is about a resolution, and not about the search or the store. -/
def Metric.ofResolution : Metric → Bool
  | .markerResolved .. => true
  | .drift .. => true
  | _ => false

namespace Trace

/-- The full trace consists of what is shown in any case and of something extra, each in its own order. -/
inductive Woven : Trace → Trace → Trace → Prop where
  | nil : Woven [] [] []
  | shown (o : Observation) {base extra full : Trace} :
      Woven base extra full → Woven (o :: base) extra (o :: full)
  | added (o : Observation) {base extra full : Trace} :
      Woven base extra full → Woven base (o :: extra) (o :: full)

namespace Woven

theorem base_only (t : Trace) : Woven t [] t := by
  induction t with
  | nil => exact .nil
  | cons o t ih => exact .shown o ih

theorem extra_only (t : Trace) : Woven [] t t := by
  induction t with
  | nil => exact .nil
  | cons o t ih => exact .added o ih

theorem append {base extra full base' extra' full' : Trace} (front : Woven base extra full)
    (back : Woven base' extra' full') : Woven (base ++ base') (extra ++ extra') (full ++ full') := by
  induction front with
  | nil => exact back
  | shown o _ ih => exact .shown o ih
  | added o _ ih => exact .added o ih

end Woven

/-- Nothing is written, and no metric is about a resolution. -/
structure Unrecorded (t : Trace) : Prop where
  writes : Trace.writes t = []
  metrics : (Trace.metrics t).filter Metric.ofResolution = []

theorem Unrecorded.append {t u : Trace} (front : Unrecorded t) (back : Unrecorded u) :
    Unrecorded (t ++ u) where
  writes := by rw [writes_append, front.writes, back.writes, List.append_nil]
  metrics := by rw [metrics_append, List.filter_append, front.metrics, back.metrics, List.append_nil]

/-- Log records and write-error metrics only: for each failed write exactly one such metric, and as its
complaint exactly one record of an error. -/
structure Incidental (failed : List (Channel × Resolution × Failure)) (extra : Trace) : Prop where
  kinds : ∀ o ∈ extra, o = .metric .writeFailed ∨ ∃ r, o = .log r
  metrics : Trace.metrics extra = failed.map fun _ => .writeFailed
  errors : (Trace.logs extra).filter (·.level = .error) =
    failed.map fun (c, r, f) => Watcher.complaint c r f

namespace Incidental

theorem nil : Incidental [] [] where
  kinds _ member := absurd member List.not_mem_nil
  metrics := rfl
  errors := rfl

theorem remark {r : LogRecord} (calm : r.level ≠ .error) : Incidental [] [.log r] where
  kinds o member := .inr ⟨r, List.mem_singleton.mp member⟩
  metrics := rfl
  errors := by simp [Trace.logs, calm]

theorem failure (c : Channel) (r : Resolution) (f : Failure) :
    Incidental [(c, r, f)] [.metric .writeFailed, .log (Watcher.complaint c r f)] where
  kinds o member := by
    rcases List.mem_cons.mp member with first | second
    · exact .inl first
    · exact .inr ⟨_, List.mem_singleton.mp second⟩
  metrics := rfl
  errors := rfl

theorem append {failed failed' : List (Channel × Resolution × Failure)} {extra extra' : Trace}
    (front : Incidental failed extra) (back : Incidental failed' extra') :
    Incidental (failed ++ failed') (extra ++ extra') where
  kinds o member := by
    rcases List.mem_append.mp member with first | second
    · exact front.kinds o first
    · exact back.kinds o second
  metrics := by rw [metrics_append, front.metrics, back.metrics, List.map_append]
  errors := by rw [logs_append, List.filter_append, front.errors, back.errors, List.map_append]

theorem unrecorded {failed : List (Channel × Resolution × Failure)} {extra : Trace}
    (incidental : Incidental failed extra) : Unrecorded extra where
  writes := by
    refine List.filterMap_eq_nil_iff.mpr fun o member => ?_
    rcases incidental.kinds o member with rfl | ⟨_, rfl⟩ <;> rfl
  metrics := by
    rw [incidental.metrics]
    simp [Metric.ofResolution]

end Incidental
end Trace

/-- The failure of a write, if its answer is one. -/
def Sink.failure (sink : Sink) (write : Nat) (c : Channel) (r : Resolution) :
    List (Channel × Resolution × Failure) :=
  match sink.answer write with
  | .ok () => []
  | .error f => [(c, r, f)]

/-- The failed writes of resolutions that are written in order, beginning with the given write. -/
def Sink.failures (sink : Sink) (firstWrite : Nat) (rs : List (Channel × Resolution)) :
    List (Channel × Resolution × Failure) :=
  (rs.zipIdx firstWrite).flatMap fun ((c, r), write) => sink.failure write c r

namespace Watcher
open Trace

def sample (w : Watcher) (c : Channel) (r : Resolution) : Sample :=
  Sample.measured w.system c (decide (r.outcome = .delivered)) r.drift

def resolutionMetrics (c : Channel) (r : Resolution) : List Metric :=
  [.markerResolved c (decide (r.outcome = .delivered)), .drift c r.drift.clampNegative]

/-- What a resolution shows whatever the metric store does. -/
def shown (w : Watcher) (c : Channel) (r : Resolution) : Trace :=
  warning c r ++ (resolutionMetrics c r).map .metric ++ [.wrote (w.sample c r)]

/-- What the metric store adds to it. -/
def aftermath (w : Watcher) (sink : Sink) (write : Nat) (c : Channel) (r : Resolution) : Trace :=
  sink.announcement (w.sample c r) ++
    match sink.answer write with
    | .ok () => []
    | .error f => [.metric .writeFailed, .log (complaint c r f)]

section Report
variable (w : Watcher) (sink : Sink) (write : Nat) (c : Channel) (r : Resolution)

theorem isSuccess_eq (o : Outcome) : o.isSuccess = decide (o = .delivered) := by cases o <;> rfl

theorem report_eq : w.report sink write c r = w.shown c r ++ w.aftermath sink write c r := by
  cases answer : sink.answer write <;>
    simp [report, record, shown, aftermath, resolutionMetrics, sample, isSuccess_eq, answer, Sample.measured]

theorem report_accepting : w.report .accepting write c r = w.shown c r := by
  rw [report_eq]
  exact List.append_nil _

theorem woven_report (write' : Nat) :
    Woven (w.report .accepting write' c r) (w.aftermath sink write c r) (w.report sink write c r) := by
  have woven := (Woven.base_only (w.shown c r)).append (Woven.extra_only (w.aftermath sink write c r))
  rw [List.append_nil, List.nil_append] at woven
  rw [report_accepting, report_eq]
  exact woven

theorem incidental_announcement (s : Sample) : Incidental [] (sink.announcement s) := by
  rw [Sink.announcement]
  split
  · exact .remark fun alarm => nomatch alarm
  · exact .nil

theorem incidental_aftermath : Incidental (sink.failure write c r) (w.aftermath sink write c r) := by
  have announced := incidental_announcement sink (w.sample c r)
  unfold Sink.failure aftermath
  cases sink.answer write with
  | ok => rwa [List.append_nil]
  | error f => exact announced.append (.failure c r f)

theorem writes_report : Trace.writes (w.report sink write c r) = [w.sample c r] := by
  have silent := (incidental_aftermath w sink write c r).unrecorded.writes
  have written : Trace.writes (w.shown c r) = [w.sample c r] := by
    cases outcome : r.outcome <;> simp [shown, warning, outcome, Trace.writes, resolutionMetrics, note]
  rw [report_eq, writes_append, written, silent, List.append_nil]

theorem metrics_report :
    (Trace.metrics (w.report sink write c r)).filter Metric.ofResolution = resolutionMetrics c r := by
  have unrelated := (incidental_aftermath w sink write c r).unrecorded.metrics
  have measured : Trace.metrics (w.shown c r) = resolutionMetrics c r := by
    cases outcome : r.outcome <;> simp [shown, warning, outcome, Trace.metrics, resolutionMetrics, note]
  rw [report_eq, metrics_append, List.filter_append, measured, unrelated, List.append_nil]
  rfl

end Report

/-- Reports resolutions of any channels in order, numbering their writes from the given one. -/
def reports (w : Watcher) (sink : Sink) (firstWrite : Nat) (rs : List (Channel × Resolution)) : Trace :=
  (rs.zipIdx firstWrite).flatMap fun ((c, r), write) => w.report sink write c r

def aftermaths (w : Watcher) (sink : Sink) (firstWrite : Nat) (rs : List (Channel × Resolution)) : Trace :=
  (rs.zipIdx firstWrite).flatMap fun ((c, r), write) => w.aftermath sink write c r

section Reports
variable (w : Watcher) (sink : Sink) (firstWrite : Nat)

theorem reports_cons (c : Channel) (r : Resolution) (rs : List (Channel × Resolution)) :
    w.reports sink firstWrite ((c, r) :: rs) =
      w.report sink firstWrite c r ++ w.reports sink (firstWrite + 1) rs := by
  rw [reports, List.zipIdx_cons, List.flatMap_cons, reports]

theorem aftermaths_cons (c : Channel) (r : Resolution) (rs : List (Channel × Resolution)) :
    w.aftermaths sink firstWrite ((c, r) :: rs) =
      w.aftermath sink firstWrite c r ++ w.aftermaths sink (firstWrite + 1) rs := by
  rw [aftermaths, List.zipIdx_cons, List.flatMap_cons, aftermaths]

theorem failures_cons (c : Channel) (r : Resolution) (rs : List (Channel × Resolution)) :
    sink.failures firstWrite ((c, r) :: rs) =
      sink.failure firstWrite c r ++ sink.failures (firstWrite + 1) rs := by
  rw [Sink.failures, List.zipIdx_cons, List.flatMap_cons, Sink.failures]

theorem reports_append (rs rs' : List (Channel × Resolution)) :
    w.reports sink firstWrite (rs ++ rs') =
      w.reports sink firstWrite rs ++ w.reports sink (firstWrite + rs.length) rs' := by
  rw [reports, List.zipIdx_append, List.flatMap_append, reports, reports]

theorem reportAll_eq (c : Channel) (rs : List Resolution) :
    w.reportAll sink c firstWrite rs = w.reports sink firstWrite (rs.map (Prod.mk c)) := by
  induction rs generalizing firstWrite with
  | nil => rfl
  | cons r rs ih => rw [reportAll, List.map_cons, reports_cons, ih]

/-- Every resolution is written once, in order, whatever the answers to the writes. -/
theorem writes_reports (rs : List (Channel × Resolution)) :
    Trace.writes (w.reports sink firstWrite rs) = rs.map fun (c, r) => w.sample c r := by
  induction rs generalizing firstWrite with
  | nil => rfl
  | cons r rs ih =>
    obtain ⟨c, r⟩ := r
    rw [reports_cons, writes_append, writes_report, ih, List.map_cons, List.singleton_append]

theorem metrics_reports (rs : List (Channel × Resolution)) :
    (Trace.metrics (w.reports sink firstWrite rs)).filter Metric.ofResolution =
      rs.flatMap fun (c, r) => resolutionMetrics c r := by
  induction rs generalizing firstWrite with
  | nil => rfl
  | cons r rs ih =>
    obtain ⟨c, r⟩ := r
    rw [reports_cons, metrics_append, List.filter_append, metrics_report, ih, List.flatMap_cons]

theorem woven_reports (write' : Nat) (rs : List (Channel × Resolution)) :
    Woven (w.reports .accepting write' rs) (w.aftermaths sink firstWrite rs)
      (w.reports sink firstWrite rs) := by
  induction rs generalizing firstWrite write' with
  | nil => exact .nil
  | cons r rs ih =>
    obtain ⟨c, r⟩ := r
    rw [reports_cons, reports_cons, aftermaths_cons]
    exact (woven_report w sink firstWrite c r write').append (ih _ _)

theorem incidental_aftermaths (rs : List (Channel × Resolution)) :
    Incidental (sink.failures firstWrite rs) (w.aftermaths sink firstWrite rs) := by
  induction rs generalizing firstWrite with
  | nil => exact .nil
  | cons r rs ih =>
    obtain ⟨c, r⟩ := r
    rw [failures_cons, aftermaths_cons]
    exact (incidental_aftermath w sink firstWrite c r).append (ih _)

end Reports

section Pass
variable (w : Watcher) (t : Tracker) (search : Search.Reply) (clock : Channel → Nat → Instant) (sink : Sink)
  (firstWrite : Nat)

theorem incidental_count (words : String) : Incidental [] (w.count words t) := by
  rw [count]
  split
  · exact .remark fun alarm => nomatch alarm
  · exact .nil

theorem unrecorded_opening : Unrecorded (w.opening t search) := by
  have answer : Unrecorded search.trace := by
    cases search <;> exact ⟨rfl, rfl⟩
  have question : Unrecorded [note .info "Searching logs..." [("system", .plain w.system)],
      .searched w.system] := ⟨rfl, rfl⟩
  exact ((incidental_count w t _).unrecorded.append question).append answer

/-- Only a dry run shows the numbers of pending markers. -/
theorem woven_count (words : String) :
    Woven ({ w with dryRun := false }.count words t) (w.count words t) (w.count words t) :=
  Woven.extra_only _

theorem woven_opening :
    Woven ({ w with dryRun := false }.opening t search) (w.count "-- Looking through logs, before" t)
      (w.opening t search) := by
  have counted := woven_count w t "-- Looking through logs, before"
  have asked := Woven.base_only
    ([note .info "Searching logs..." [("system", .plain w.system)], .searched w.system] ++ search.trace)
  have woven := counted.append asked
  rw [List.append_nil] at woven
  rw [opening, opening, List.append_assoc, List.append_assoc]
  exact woven

theorem trace_failed {f : Failure} (failed : search.result = .error f) :
    (w.pass t search clock sink firstWrite).trace =
      w.opening t.drain search ++ .metric .searchFailed :: searchComplaint f := by
  rw [pass_failed w t clock sink firstWrite failed]

theorem trace_found {events : List Event} (found : search.result = .ok events) :
    (w.pass t search clock sink firstWrite).trace =
      w.opening t.drain search ++ .metric (.eventsFetched events.length) ::
        (w.reports sink firstWrite (w.pass t search clock sink firstWrite).returned ++
          w.count "-- Looked through logs, after" (w.pass t search clock sink firstWrite).tracker) := by
  rw [returned_found w t clock sink firstWrite found, pass_tracker w t clock sink firstWrite found,
    reports_append, ← reportAll_eq, ← reportAll_eq, List.length_map]
  simp only [pass, found, reading]

/-- Neither the answers of the store nor the dry run bear on what is resolved and what is kept. -/
theorem pass_same (sink' : Sink) (firstWrite' : Nat) (dryRun : Bool) :
    (w.pass t search clock sink firstWrite).result =
        ({ w with dryRun }.pass t search clock sink' firstWrite').result ∧
      (w.pass t search clock sink firstWrite).tracker =
        ({ w with dryRun }.pass t search clock sink' firstWrite').tracker := by
  cases answer : search.result with
  | error f => simp only [pass, answer, and_self]
  | ok events => simp only [pass, answer, and_self]

theorem returned_congr {p q : Pass} (same : p.result = q.result) : p.returned = q.returned := by
  rw [Pass.returned, Pass.returned, same]

theorem unrecorded_failed {f : Failure} (failed : search.result = .error f) :
    Unrecorded (w.pass t search clock sink firstWrite).trace := by
  have counted : Unrecorded (.metric .searchFailed :: searchComplaint f) := by
    cases f <;> exact ⟨rfl, rfl⟩
  rw [trace_failed w t search clock sink firstWrite failed]
  exact (unrecorded_opening w t.drain search).append counted

theorem count_searchFailed {f : Failure} (failed : search.result = .error f) :
    (Trace.metrics (w.pass t search clock sink firstWrite).trace).count .searchFailed = 1 := by
  have counted := (incidental_count w t.drain "-- Looking through logs, before").metrics
  have opened : (Trace.metrics (w.opening t.drain search)).count .searchFailed = 0 := by
    rw [opening, metrics_append, metrics_append, counted]
    cases search <;> rfl
  have complained : Trace.metrics (.metric .searchFailed :: searchComplaint f) = [.searchFailed] := by
    cases f <;> rfl
  rw [trace_failed w t search clock sink firstWrite failed, metrics_append, List.count_append, opened,
    complained]
  rfl

theorem writes_pass :
    Trace.writes (w.pass t search clock sink firstWrite).trace =
      (w.pass t search clock sink firstWrite).returned.map fun (c, r) => w.sample c r := by
  cases answer : search.result with
  | error f =>
    rw [(unrecorded_failed w t search clock sink firstWrite answer).writes,
      returned_failed w t clock sink firstWrite answer, List.map_nil]
  | ok events =>
    have opened := (unrecorded_opening w t.drain search).writes
    have closed := (incidental_count w (w.pass t search clock sink firstWrite).tracker
      "-- Looked through logs, after").unrecorded.writes
    rw [trace_found w t search clock sink firstWrite answer, writes_append, opened, List.nil_append]
    change Trace.writes (_ ++ _) = _
    rw [writes_append, writes_reports, closed, List.append_nil]

theorem metrics_pass :
    (Trace.metrics (w.pass t search clock sink firstWrite).trace).filter Metric.ofResolution =
      (w.pass t search clock sink firstWrite).returned.flatMap fun (c, r) => resolutionMetrics c r := by
  cases answer : search.result with
  | error f =>
    rw [(unrecorded_failed w t search clock sink firstWrite answer).metrics,
      returned_failed w t clock sink firstWrite answer, List.flatMap_nil]
  | ok events =>
    have opened := (unrecorded_opening w t.drain search).metrics
    have closed := (incidental_count w (w.pass t search clock sink firstWrite).tracker
      "-- Looked through logs, after").unrecorded.metrics
    rw [trace_found w t search clock sink firstWrite answer, metrics_append, List.filter_append, opened,
      List.nil_append]
    change (Trace.metrics (_ ++ _)).filter Metric.ofResolution = _
    rw [metrics_append, List.filter_append, metrics_reports, closed, List.append_nil]

/-- The answers of the store and the dry run only add to the trace of a pass, and what they add is known. -/
theorem woven_pass :
    ∃ extra,
      Woven ({ w with dryRun := false }.pass t search clock .accepting 0).trace extra
        (w.pass t search clock sink firstWrite).trace ∧
      Incidental (sink.failures firstWrite (w.pass t search clock sink firstWrite).returned) extra := by
  have opened := woven_opening w t.drain search
  cases answer : search.result with
  | error f =>
    refine ⟨w.count "-- Looking through logs, before" t.drain, ?_, ?_⟩
    · rw [trace_failed w t search clock sink firstWrite answer,
        trace_failed { w with dryRun := false } t search clock .accepting 0 answer]
      have woven := opened.append (Woven.base_only (.metric .searchFailed :: searchComplaint f))
      rwa [List.append_nil] at woven
    · rw [returned_failed w t clock sink firstWrite answer]
      exact incidental_count w t.drain _
  | ok events =>
    -- Three parts of the trace are added to: the two counts of a dry run, and the reports between them.
    have same := pass_same w t search clock sink firstWrite .accepting 0 false
    have reported := (woven_reports w sink firstWrite 0 (w.pass t search clock sink firstWrite).returned).append
      (woven_count w (w.pass t search clock sink firstWrite).tracker "-- Looked through logs, after")
    refine ⟨w.count "-- Looking through logs, before" t.drain ++
      (w.aftermaths sink firstWrite (w.pass t search clock sink firstWrite).returned ++
        w.count "-- Looked through logs, after" (w.pass t search clock sink firstWrite).tracker), ?_, ?_⟩
    · rw [trace_found w t search clock sink firstWrite answer,
        trace_found { w with dryRun := false } t search clock .accepting 0 answer, ← returned_congr same.1,
        ← same.2]
      exact opened.append (.shown (.metric (.eventsFetched events.length)) reported)
    · have reports := incidental_aftermaths w sink firstWrite (w.pass t search clock sink firstWrite).returned
      have before := incidental_count w t.drain "-- Looking through logs, before"
      have after := incidental_count w (w.pass t search clock sink firstWrite).tracker
        "-- Looked through logs, after"
      have all := before.append (reports.append after)
      rwa [List.nil_append, List.append_nil] at all

end Pass

/-- A rule that resolves each marker as itself resolves markers in their order. -/
theorem markers_sublist {rule : Marker → Option Resolution} (own : ∀ m r, rule m = some r → r.marker = m)
    (ms : List Marker) : ((ms.filterMap rule).map (·.marker)).Sublist ms := by
  induction ms with
  | nil => exact .slnil
  | cons m ms ih =>
    cases verdict : rule m with
    | none =>
      rw [List.filterMap_cons_none verdict]
      exact ih.cons m
    | some r =>
      rw [List.filterMap_cons_some verdict, List.map_cons, own m r verdict]
      exact ih.cons_cons m

theorem reconcile_sublist (t : Tracker) (c : Channel) (events : List Event) (now : Instant)
    (limits : Thresholds) :
    ((t.reconcile c events now limits).1.map (·.marker)).Sublist (t.pending c) := by
  rw [Tracker.resolutions_reconcile]
  exact markers_sublist (fun _ _ => Marker.judge_marker) _

theorem resolutions_sublist (w : Watcher) (t : Tracker) (search : Search.Reply)
    (clock : Channel → Nat → Instant) (sink : Sink) (firstWrite : Nat) (c : Channel) :
    (((w.pass t search clock sink firstWrite).resolutions c).map (·.marker)).Sublist (t.outstanding c) := by
  rw [← Tracker.pending_drain]
  cases answer : search.result with
  | error f =>
    rw [resolutions_failed w t clock sink firstWrite answer]
    exact List.nil_sublist _
  | ok events =>
    cases c with
    | app =>
      rw [resolutions_app w t clock sink firstWrite answer]
      exact reconcile_sublist _ _ _ _ _
    | http =>
      have judged := reconcile_sublist (t.drain.reconcile .app events (w.reading t events clock .app) w.limits).2
        .http events (w.reading t events clock .http) w.limits
      rw [Tracker.pending_reconcile_of_ne _ (by decide)] at judged
      rw [resolutions_http w t clock sink firstWrite answer]
      exact judged

/-- What a pass records, whatever the answers of the metric store and in a dry run as outside of one: the
sample and the metrics of every resolution that it returns, app before http and each channel in the order
of registration. A pass of the same watcher outside a dry run, with a store that takes every write, returns
and keeps the same; its trace is the same but for what is incidental to the failed writes. -/
theorem pass_records (w : Watcher) (steps : List Step) (search : Search.Reply)
    (clock : Channel → Nat → Instant) (sink : Sink) (firstWrite : Nat) :
    let p := w.pass (w.after steps) search clock sink firstWrite
    let q := { w with dryRun := false }.pass (w.after steps) search clock .accepting 0
    p.returned =
        (p.resolutions .app).map (Prod.mk .app) ++ (p.resolutions .http).map (Prod.mk .http) ∧
      (∀ c, ((p.resolutions c).map (·.marker)).Sublist (registered c steps)) ∧
      Trace.writes p.trace = p.returned.map (fun (c, r) => w.sample c r) ∧
      (Trace.metrics p.trace).filter Metric.ofResolution =
        p.returned.flatMap (fun (c, r) => resolutionMetrics c r) ∧
      p.result = q.result ∧ p.tracker = q.tracker ∧
      ∃ extra, Woven q.trace extra p.trace ∧ Incidental (sink.failures firstWrite p.returned) extra := by
  intro p q
  have same := pass_same w (w.after steps) search clock sink firstWrite .accepting 0 false
  have order (c : Channel) : ((p.resolutions c).map (·.marker)).Sublist (registered c steps) :=
    (resolutions_sublist w (w.after steps) search clock sink firstWrite c).trans
      (balanced_ledger w c steps).outstanding_sublist
  exact ⟨returned_eq w (w.after steps) clock sink firstWrite, order,
    writes_pass w (w.after steps) search clock sink firstWrite,
    metrics_pass w (w.after steps) search clock sink firstWrite, same.1, same.2,
    woven_pass w (w.after steps) search clock sink firstWrite⟩

end Watcher
end DeliveryProbe
