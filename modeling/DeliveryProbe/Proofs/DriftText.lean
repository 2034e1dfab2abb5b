import DeliveryProbe.Proofs.Bands
import DeliveryProbe.Proofs.ShortestText

/-! The drift as text. Whatever the clocks show, what is written for a drift is a decimal numeral without a sign, and
it is the exact expansion of the milliseconds that were measured: up to fifteen digits nothing is lost between the
count of milliseconds and the text. -/
namespace DeliveryProbe

/-- Decimal digits with at most one point between them. -/
inductive DecimalText : List Char → Prop where
  | whole {s : List Char} (some : s ≠ []) (digits : ∀ c ∈ s, c.isDigit = true) : DecimalText s
  | broken {s t : List Char} (some : s ≠ []) (digits : ∀ c ∈ s, c.isDigit = true) (some' : t ≠ [])
      (digits' : ∀ c ∈ t, c.isDigit = true) : DecimalText (s ++ '.' :: t)

theorem Decimal.decimalText (d : Decimal) : DecimalText d.toChars := by
  obtain ⟨n, exponent⟩ := d
  rcases Int.lt_or_le exponent 0 with negative | whole
  · obtain ⟨places, rfl⟩ : ∃ places : Nat, exponent = -places := ⟨exponent.natAbs, by omega⟩
    rw [toChars_broken n (by omega)]
    refine .broken (Numeral.digits_ne_nil _) (Numeral.digits_isDigit _) ?_ (Numeral.fixed_isDigit _ n)
    exact List.ne_nil_of_length_pos (by rw [Numeral.length_fixed]; omega)
  · rw [toChars, if_pos whole]
    refine .whole (List.append_ne_nil_of_left_ne_nil (Numeral.digits_ne_nil n) _) fun c listed => ?_
    rcases List.mem_append.mp listed with digit | zero
    · exact Numeral.digits_isDigit n c digit
    · rw [List.eq_of_mem_replicate zero]
      rfl

namespace Binary64

theorem decimalText_magnitudeText (step : Nat) : DecimalText (magnitudeText step) := by
  unfold magnitudeText
  split
  · exact .whole (List.cons_ne_nil _ _) (List.forall_mem_singleton.mpr rfl)
  · exact (shortest step).decimalText

/-- What is written for milliseconds as seconds: zero for those that have passed, and otherwise the expansion of
their number. -/
theorem clamped_seconds {millis : Int} (bounded : millis.natAbs ≤ 2 ^ 54) :
    ∃ step, ((ofInt millis).divNat 1000).clampNegative = .finite false step ∧
      (millis < 10 ^ 15 → Expansion millis.toNat (magnitudeText step)) := by
  obtain ⟨step, same, -, some⟩ := exists_seconds bounded
  rcases Int.lt_or_le millis 0 with past | coming
  · have negative : zero.gt ((ofInt millis).divNat 1000) = true := by
      rw [same, decide_eq_true past]
      have positive := some (Int.ne_of_lt past)
      exact zero_gt_iff.mpr ⟨_, rfl, by simp only [if_true]; omega⟩
    refine ⟨_, if_pos negative, fun _ => ?_⟩
    rw [Int.toNat_of_nonpos (Int.le_of_lt past)]
    exact expansion_zero
  · rw [decide_eq_false (Int.not_lt.mpr coming)] at same
    refine ⟨step, by rw [same, clampNegative_finite], fun few => ?_⟩
    obtain ⟨n, rfl⟩ := Int.eq_ofNat_of_zero_le coming
    obtain ⟨step', finite, same', rounds⟩ := @seconds_roundsTo n (by omega)
    obtain rfl : step = ⟨step', finite⟩ := by
      rw [same] at same'
      exact (Binary64.finite.inj same').2
    rw [Int.toNat_natCast]
    rcases Nat.eq_zero_or_pos n with rfl | passed
    · have origin := roundsTo_units 0 (show 0 < 1000 by decide)
      rw [units_small binade_pos, Nat.zero_mul] at origin
      rw [Nat.zero_mul] at rounds
      obtain rfl := rounds.unique origin (by decide)
      exact expansion_zero
    · exact expansion_magnitudeText passed (by omega) rounds

end Binary64

structure Sample.Written (s : Sample) (text : List Char) : Prop where
  decimal : DecimalText text
  line : s.line = "logs,type=" ++ s.channel.label ++ ",successful=" ++ boolText s.successful ++ ",host=" ++ s.system ++
    " drift=" ++ String.ofList text
  dryRunLine : s.dryRunLine = "=> write " ++ s.channel.label ++ " successful=" ++ boolText s.successful ++ " host=" ++
    s.system ++ " drift=" ++ String.ofList text

/-- The text of a drift is a decimal numeral without a sign, and exact up to fifteen digits of milliseconds. Every
sample that a pass writes is that of a resolution it returns, on the line for the store and in a dry run alike. -/
theorem drifts_written_exactly (w : Watcher) (before : List Watcher.Step) (search : Search.Reply)
    (now : Channel → Instant) (sink : Sink) (firstWrite : Nat)
    (emitted : ∀ c, ∀ m ∈ Watcher.registered c before, m.emittedAt.Representable)
    (clock : ∀ c, (now c).Representable) :
    let p := w.pass (w.after before) search (fun c _ => now c) sink firstWrite
    p.trace.writes = p.returned.map (fun (c, r) => w.sample c r) ∧
      ∀ c r, (c, r) ∈ p.returned → ∃ text, (w.sample c r).Written text ∧
        ∃ events, search.result = .ok events ∧ ∃ t, r.MeasuredTo events (now c) t ∧
          (r.marker.emittedAt.millisUntil t < 10 ^ 15 →
            Binary64.Expansion (r.marker.emittedAt.millisUntil t).toNat text) := by
  intro p
  refine ⟨Watcher.writes_pass w _ search _ sink firstWrite, fun c r returned => ?_⟩
  obtain ⟨events, found, m, listed, verdict⟩ := Watcher.verdict_of_returned returned
  obtain ⟨t, measured, last, drift⟩ := verdict.measuredTo (clock c)
  obtain ⟨step, clamped, expansion⟩ :=
    Binary64.clamped_seconds (Nat.le_of_lt (Instant.natAbs_millisUntil (emitted c m listed) last))
  have own : (w.sample c r).drift = .finite false step := by
    dsimp only [Watcher.sample, Sample.measured]
    rw [drift]
    exact clamped
  have text : (w.sample c r).drift.text = String.ofList (Binary64.magnitudeText step) := by
    rw [own]
    rfl
  have written : (w.sample c r).Written (Binary64.magnitudeText step) :=
    ⟨Binary64.decimalText_magnitudeText step, congrArg (_ ++ ·) text, congrArg (_ ++ ·) text⟩
  refine ⟨_, written, events, found, t, measured, ?_⟩
  rw [verdict.marker_eq]
  exact expansion

theorem given_up_drift_written :
    let noon : Instant := { second := 1709294400, nano := 0 }
    let now : Instant := { second := 1709294461, nano := 250000000 }
    let m : Marker := .ofApp "7" noon
    let w : Watcher := { system := "s", limits := { searchTimeout := 60, timeToFailure := 60 }, dryRun := false }
    let p := w.pass (w.after [.register .app m]) (.found []) (fun _ _ => now) .accepting 0
    (noon.Representable ∧ now.Representable) ∧
      ∃ r, (.app, r) ∈ p.returned ∧ ∃ text, (w.sample .app r).Written text ∧ Binary64.Expansion 61250 text := by
  intro noon now m w p
  have times : noon.Representable ∧ now.Representable := by decide
  have emitted : ∀ c, ∀ other ∈ Watcher.registered c [.register .app m], other.emittedAt.Representable := by
    intro c other listed
    cases c with
    | app => exact List.mem_singleton.mp listed ▸ times.1
    | http => contradiction
  have expired : m.Expired now w.limits := by decide +kernel
  have judged : _ ∈ [m].filterMap fun m => m.judge [] now w.limits :=
    List.mem_filterMap.mpr ⟨m, List.mem_singleton_self m, Marker.judge_expired expired⟩
  have resolved : p.resolutions .app = [m].filterMap fun m => m.judge [] now w.limits :=
    Watcher.resolutions_found w _ _ _ 0 rfl .app
  rw [← resolved] at judged
  have returned := Pass.mem_resolutions.mp judged
  obtain ⟨-, written⟩ := drifts_written_exactly w [.register .app m] (.found []) (fun _ => now) .accepting 0 emitted
    fun _ => times.2
  obtain ⟨text, own, events, -, t, measured, expansion⟩ := written .app _ returned
  refine ⟨times, _, returned, text, own, ?_⟩
  cases measured with
  | receipt delivered _ => nomatch delivered
  | now _ =>
    have passed : (m.emittedAt.millisUntil now).toNat = 61250 := by decide
    rw [← passed]
    exact expansion (by decide)

end DeliveryProbe
