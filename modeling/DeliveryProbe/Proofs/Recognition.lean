import DeliveryProbe.Proofs.Attribution

/-! What a marker is recognised by. An emission puts the id of its marker out, so whatever message holds what was put
out decides the marker; and no line of the application decides the marker of a request, whose id has a slash in it. -/
namespace DeliveryProbe

/-- A number as it stands in a line: decimal digits, at least one. -/
def IsDecimal (number : String) : Prop := number.toList ≠ [] ∧ ∀ c ∈ number.toList, c.isDigit = true

instance (number : String) : Decidable (IsDecimal number) :=
  have : Decidable (∀ c ∈ number.toList, c.isDigit = true) := List.decidableBAll _ _
  inferInstanceAs (Decidable (_ ∧ _))

theorem Event.mentions_iff {e : Event} {text : String} :
    e.mentions text = true ↔ text.toList <:+: e.message.toList := Text.occursIn_iff

section Reconcile
variable {m : Marker} {pending : List Marker} {events : List Event} {now : Instant} {limits : Thresholds}

theorem mem_retained : m ∈ (reconcile pending events now limits).retained ↔
    m ∈ pending ∧ ¬ m.DecidedBy events now limits := by
  rw [reconcile, List.mem_filter, Option.isNone_iff_eq_none, Marker.judge_eq_none]

theorem decided_of_resolved {r : Resolution} (resolved : r ∈ (reconcile pending events now limits).resolved) :
    r.marker.DecidedBy events now limits := by
  obtain ⟨m, -, judged⟩ := List.mem_filterMap.mp resolved
  rw [Marker.judge_marker judged, ← Marker.judge_isSome, judged]
  rfl

theorem resolved_of_decided (waits : m ∈ pending) (decided : m.DecidedBy events now limits) :
    ∃ r ∈ (reconcile pending events now limits).resolved, r.marker = m := by
  obtain ⟨r, judged⟩ := Option.isSome_iff_exists.mp (Marker.judge_isSome.mpr decided)
  exact ⟨r, List.mem_filterMap.mpr ⟨m, waits, judged⟩, Marker.judge_marker judged⟩

end Reconcile

namespace Emission

/-- One emission by the emitter of either channel, with any answer to its line or request. -/
inductive Once : Emission → Prop where
  | app (t? : Option Tracker) (number : String) (now : Instant) (written : Except Failure Unit) :
      Once (app t? number now written)
  | http (t? : Option Tracker) (base number : String) (now : Instant) (reply : Except Failure Nat) :
      Once (http t? base number now reply)

section Complete
variable {t? : Option Tracker} {c : Channel} {m m' : Marker} {text : String}

theorem marker_complete (returned : (complete t? c m).result = .ok m') : m' = m := by
  cases t? with
  | none => contradiction
  | some t => exact (Except.ok.inj returned).symm

theorem not_emitted_complete : .emitted text ∉ (complete t? c m).trace := by
  cases t? with
  | none => simp [complete, Tracker.registerWith]
  | some t => simp [complete, Tracker.registerWith]

theorem not_emitted_statusWarning {url : String} {status : Nat} : .emitted text ∉ statusWarning url status := by
  unfold statusWarning
  split <;> simp

theorem Once.id_infix {e : Emission} (once : e.Once) (returned : e.result = .ok m) (out : .emitted text ∈ e.trace) :
    m.id.toList <:+: text.toList := by
  cases once with
  | app t? number now written =>
    cases written with
    | error f => contradiction
    | ok =>
      obtain rfl := marker_complete returned
      have out : .emitted text ∈ [.emitted (Marker.appLine number now)] ++ (complete t? .app _).trace := out
      have line : text = Marker.appLine number now := by simpa [not_emitted_complete] using out
      rw [line]
      exact ⟨"id ".toList, " time: ".toList ++ now.rfc3339Millis.toList, by simp [Marker.appLine, Marker.ofApp]⟩
  | http t? base number now reply =>
    cases reply with
    | error f => contradiction
    | ok status =>
      obtain rfl := marker_complete returned
      have out : .emitted text ∈ [.emitted (Endpoint.sample base number)] ++
          (statusWarning (Endpoint.sample base number) status ++ (complete t? .http _).trace) := out
      have url : text = Endpoint.sample base number := by
        simpa [not_emitted_complete, not_emitted_statusWarning] using out
      rw [url]
      exact ⟨(trimSlashes base).toList, [], by simp [Endpoint.sample, Marker.ofHttp]⟩

end Complete
end Emission

namespace Marker

theorem slash_not_mem_appLine {number : String} (decimal : IsDecimal number) (emittedAt : Instant) :
    '/' ∉ (appLine number emittedAt).toList := by
  have plain : '/' ∉ number.toList := Numeral.not_mem_of_isDigit decimal.2 (by decide)
  simp [appLine, plain, Instant.slash_not_mem_stamp]

/-- The id of a request's marker begins with a slash, and a line of the application has none. -/
theorem not_mentions_appLine {e : Event} {number : String} {emittedAt : Instant} (decimal : IsDecimal number)
    (line : e.message = appLine number emittedAt) (requested : String) :
    ¬ e.mentions (samplePath requested) = true := by
  rw [Event.mentions_iff, line]
  intro within
  apply slash_not_mem_appLine decimal emittedAt
  apply within.subset
  simp [samplePath]

/-- A usable event decides a marker if its message holds, between whatever else, what the marker's emission put out;
and no events with lines of the application only decide the marker of a request before its time is up. -/
theorem recognised_by_own_line :
    (∀ (e : Emission) (m : Marker) (text : String), e.Once → e.result = .ok m → .emitted text ∈ e.trace →
      ∀ (events : List Event) (before after : String) (receivedAt : Option String),
        let found : Event := { message := before ++ text ++ after, receivedAt }
        found ∈ events → found.receipt?.isSome = true →
        ∀ (pending : List Marker) (now : Instant) (limits : Thresholds),
          let pass := reconcile pending events now limits
          m ∉ pass.retained ∧ (m ∈ pending → ∃ r ∈ pass.resolved, r.marker = m)) ∧
    ∀ (requested : String) (emittedAt : Instant) (events : List Event),
      (∀ e ∈ events, ∃ number writtenAt, IsDecimal number ∧ e.message = appLine number writtenAt) →
      ∀ (pending : List Marker) (now : Instant) (limits : Thresholds),
        let m := ofHttp requested emittedAt
        let pass := reconcile pending events now limits
        ¬ m.Expired now limits → (m ∈ pending → m ∈ pass.retained) ∧ ∀ r ∈ pass.resolved, r.marker ≠ m := by
  constructor
  · intro e m text once returned out events before after receivedAt found listed readable pending now limits pass
    have mentions : found.mentions m.id = true := by
      rw [Event.mentions_iff, String.toList_append, String.toList_append]
      apply (once.id_infix returned out).trans
      exact List.infix_append ..
    have decided : m.DecidedBy events now limits := .inr ⟨found, listed, mentions, readable⟩
    exact ⟨fun kept => (mem_retained.mp kept).2 decided, fun waits => resolved_of_decided waits decided⟩
  · intro requested emittedAt events lines pending now limits m pass young
    have undecided : ¬ m.DecidedBy events now limits := by
      rintro (expired | ⟨e, listed, usable⟩)
      · exact young expired
      · obtain ⟨number, writtenAt, decimal, line⟩ := lines e listed
        exact not_mentions_appLine decimal line requested usable.1
    constructor
    · intro waits
      exact mem_retained.mpr ⟨waits, undecided⟩
    · rintro r resolved same
      exact undecided (same ▸ decided_of_resolved resolved)

namespace NewYear

def leap : Instant := { second := 1483228799, nano := 1500000000 }

def now : Instant := { second := 1483228805, nano := 0 }

def receivedAt : Option String := some "2017-01-01T00:00:02Z"

def url : String := "http://svc.local/samples/7"

def inAccessLog : Event := { message := "10.0.0.1 GET " ++ url ++ " 500", receivedAt }

def inAppLog : Event := { message := appLine "7" { second := 253402300800, nano := 0 }, receivedAt }

/-- A request within a leap second is recognised in the access log, and not in the application's. -/
theorem recognised_in_access_log :
    let e := Emission.http (some .empty) "http://svc.local//" "7" leap (.ok 500)
    let m := ofHttp "7" leap
    let limits : Thresholds := { searchTimeout := 3600, timeToFailure := 60 }
    e.result = .ok m ∧ .emitted url ∈ e.trace ∧ ¬ m.Expired now limits ∧
      m ∉ (reconcile [m] [inAppLog, inAccessLog] now limits).retained ∧
      m ∈ (reconcile [m] [inAppLog] now limits).retained := by
  intro e m limits
  have out : .emitted url ∈ e.trace := by decide +kernel
  have young : ¬ m.Expired now limits := by decide +kernel
  have readable : inAccessLog.receipt?.isSome = true := by decide +kernel
  have found := recognised_by_own_line.1 e m url (.http ..) rfl out [inAppLog, inAccessLog] "10.0.0.1 GET " " 500"
    receivedAt (by simp [inAccessLog]) readable [m] now limits
  have lines : ∀ e ∈ [inAppLog], ∃ number writtenAt, IsDecimal number ∧ e.message = appLine number writtenAt := by
    intro e listed
    rw [List.mem_singleton.mp listed]
    exact ⟨"7", _, by decide, rfl⟩
  have unseen := recognised_by_own_line.2 "7" leap [inAppLog] lines [m] now limits young
  exact ⟨rfl, out, young, found.1, unseen.1 (List.mem_singleton_self m)⟩

end NewYear

end Marker
end DeliveryProbe
