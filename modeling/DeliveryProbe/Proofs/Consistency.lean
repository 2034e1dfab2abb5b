import DeliveryProbe.Proofs.RunSteps

/-! What a state of a run has to do with what the run has done. The counts are those of the emissions, every
line is that of an emission, the request in progress is the last that has begun, and the emissions that are
over were so before the next pass. Every step keeps this, whichever task it belongs to. -/
namespace DeliveryProbe.Monitor

/-- The emissions of a channel that are over: all but the request in progress. -/
def settled (c : Channel) (ms : List Moment) (st : State) : List Origin :=
  match c with
  | .app => emissions .app ms
  | .http => if st.request.isSome then (emissions .http ms).dropLast else emissions .http ms

/-- When the marker of an emission is registered, if it comes to that. -/
def Setup.registeredAt (s : Setup) (c : Channel) (o : Origin) : Nat :=
  match c with
  | .app => o.begun
  | .http => s.ended o

theorem begun_le_registeredAt (s : Setup) (c : Channel) (o : Origin) : o.begun ≤ s.registeredAt c o := by
  cases c with
  | app => exact Nat.le_refl _
  | http => exact Nat.le_add_right _ _

/-- The request that a state waits for is the last that has begun. -/
structure InProgress (s : Setup) (ms : List Moment) (st : State) (r : Request) : Prop where
  number : r.number = s.number .http r.call
  ends : r.ends = s.ended { call := r.call, begun := r.begun }
  busy : st.http.free = r.ends
  last : ∃ before, emissions .http ms = before ++ [{ call := r.call, begun := r.begun }]

/-- A state agrees with what the run has done so far. -/
structure Consistent (s : Setup) (ms : List Moment) (st : State) : Prop where
  appCalls : (emissions .app ms).length = st.appCalls
  getCalls : (emissions .http ms).length = st.getCalls
  past : ∀ c o, Emitted c ms o → o.begun ≤ st.watch.next
  lines : ∀ line ∈ st.lines, ∃ c o, Sent s c ms o ∧ line = s.line c o
  request : ∀ r, st.request = some r → InProgress s ms st r
  /-- Once a request has ended after the shutdown no pass begins any more. -/
  known : ∀ c, ∀ o ∈ settled c ms st, min (s.registeredAt c o) s.shutdownAt ≤ st.watch.next
  writes : ∀ c, ∀ w ∈ written c ms, w.1 ≤ st.watch.free

theorem forall₂_mem_right {α β : Type} {R : α → β → Prop} {xs : List α} {ys : List β}
    (related : List.Forall₂ R xs ys) {y : β} (member : y ∈ ys) : ∃ x ∈ xs, R x y := by
  induction related with
  | nil => contradiction
  | cons head _ ih =>
    rcases List.mem_cons.mp member with rfl | later
    · exact ⟨_, List.mem_cons_self, head⟩
    · obtain ⟨x, listed, holds⟩ := ih later
      exact ⟨x, List.mem_cons_of_mem _ listed, holds⟩

section Steps
variable {s : Setup} {ms : List Moment} {st : State}

theorem consistent_start (starts : start? s = some st) : Consistent s [] st := by
  have fresh := fresh_of_start starts
  constructor
  case appCalls => exact fresh.appCalls.symm
  case getCalls => exact fresh.getCalls.symm
  case past =>
    intro c o emitted
    cases c <;> contradiction
  case lines =>
    intro line member
    rw [fresh.lines] at member
    contradiction
  case request =>
    intro r active
    rw [fresh.request] at active
    contradiction
  case known =>
    intro c o member
    simp only [settled, fresh.request] at member
    cases c <;> contradiction
  case writes =>
    intro c w member
    contradiction

/-- The request emitter is not due while a request is in progress. -/
theorem Consistent.idle (consistent : Consistent s ms st) (turn : Turn s st st.http) : st.request = none := by
  cases request : st.request with
  | none => rfl
  | some r =>
    have busy := (consistent.request r request).busy
    have later := turn.idle r request
    have free := st.http.free_le_next
    omega

theorem Consistent.lines_mono (consistent : Consistent s ms st) (moments : List Moment) :
    ∀ line ∈ st.lines, ∃ c o, Sent s c (ms ++ moments) o ∧ line = s.line c o := by
  intro line member
  obtain ⟨c, o, sent, same⟩ := consistent.lines line member
  exact ⟨c, o, sent.mono moments, same⟩

section Request

theorem emissions_httpTick (consistent : Consistent s ms st) :
    emissions .app (ms ++ (httpTick s st).1) = emissions .app ms ∧
      emissions .http (ms ++ (httpTick s st).1) =
        emissions .http ms ++ [{ call := st.getCalls, begun := st.http.next }] := by
  refine ⟨emissions_quiet rfl, ?_⟩
  rw [emissions_concat st.http.next rfl, consistent.getCalls]

theorem settled_httpTick (consistent : Consistent s ms st) (turn : Turn s st st.http) (c : Channel) :
    settled c (ms ++ (httpTick s st).1) (httpTick s st).2 = settled c ms st := by
  obtain ⟨app, http⟩ := emissions_httpTick consistent
  cases c with
  | app => exact app
  | http =>
    simp only [settled, http, consistent.idle turn, Option.isSome_none, Bool.false_eq_true, if_false]
    exact List.dropLast_concat

theorem consistent_httpTick (consistent : Consistent s ms st) (turn : Turn s st st.http) :
    Consistent s (ms ++ (httpTick s st).1) (httpTick s st).2 := by
  obtain ⟨app, http⟩ := emissions_httpTick consistent
  constructor
  case appCalls =>
    rw [app]
    exact consistent.appCalls
  case getCalls =>
    rw [http, List.length_append, consistent.getCalls]
    rfl
  case past =>
    intro c o emitted
    cases c with
    | app =>
      rw [Emitted, app] at emitted
      exact consistent.past .app o emitted
    | http =>
      rw [Emitted, http, List.mem_append, List.mem_singleton] at emitted
      rcases emitted with old | rfl
      · exact consistent.past .http o old
      · exact turn.watch
  case lines => exact consistent.lines_mono _
  case request =>
    intro r active
    obtain rfl := Option.some.inj active
    exact ⟨rfl, rfl, rfl, _, http⟩
  case known =>
    intro c o member
    rw [settled_httpTick consistent turn] at member
    exact consistent.known c o member
  case writes =>
    intro c w member
    rw [written_append, List.mem_append] at member
    rcases member with old | new
    · exact consistent.writes c w old
    · contradiction

end Request

section Line

theorem emissions_appTick (consistent : Consistent s ms st) :
    emissions .app (ms ++ (appTick s st).1) =
        emissions .app ms ++ [{ call := st.appCalls, begun := st.app.next }] ∧
      emissions .http (ms ++ (appTick s st).1) = emissions .http ms := by
  rw [appTick_eq]
  constructor
  · rw [emissions_concat st.app.next, consistent.appCalls]
    cases s.pipeline.appFails st.appCalls <;> rfl
  · apply emissions_quiet
    cases s.pipeline.appFails st.appCalls <;> rfl

theorem written_appTick (c : Channel) : written c (appTick s st).1 = [] := by
  rw [appTick_eq]
  cases s.pipeline.appFails st.appCalls <;> rfl

theorem settled_appTick (consistent : Consistent s ms st) (c : Channel) :
    settled c (ms ++ (appTick s st).1) (appTick s st).2 =
      settled c ms st ++ if c = .app then [{ call := st.appCalls, begun := st.app.next }] else [] := by
  obtain ⟨app, http⟩ := emissions_appTick consistent
  cases c with
  | app => exact app
  | http =>
    rw [if_neg (by decide), List.append_nil]
    simp only [settled, http]
    rfl

theorem consistent_appTick (consistent : Consistent s ms st) (turn : Turn s st st.app) :
    Consistent s (ms ++ (appTick s st).1) (appTick s st).2 := by
  obtain ⟨app, http⟩ := emissions_appTick consistent
  have own : Emitted .app (ms ++ (appTick s st).1) { call := st.appCalls, begun := st.app.next } := by
    rw [Emitted, app]
    exact List.mem_append_right _ (List.mem_singleton_self _)
  constructor
  case appCalls =>
    rw [app, List.length_append, consistent.appCalls]
    rfl
  case getCalls =>
    rw [http]
    exact consistent.getCalls
  case past =>
    intro c o emitted
    cases c with
    | app =>
      rw [Emitted, app, List.mem_append, List.mem_singleton] at emitted
      rcases emitted with old | rfl
      · exact consistent.past .app o old
      · exact turn.watch
    | http =>
      rw [Emitted, http] at emitted
      exact consistent.past .http o emitted
  case lines =>
    intro line member
    rcases List.mem_append.mp member with old | new
    · exact consistent.lines_mono _ line old
    · unfold Pipeline.appLines at new
      split at new
      · contradiction
      · next kept =>
        have works := (Bool.or_eq_false_iff.mp (Bool.eq_false_iff.mpr kept)).1
        exact ⟨.app, _, ⟨own, works⟩, List.mem_singleton.mp new⟩
  case request =>
    intro r active
    obtain ⟨number, ends, busy, before, last⟩ := consistent.request r active
    exact ⟨number, ends, busy, before, http.trans last⟩
  case known =>
    intro c o member
    rw [settled_appTick consistent, List.mem_append] at member
    rcases member with old | new
    · exact consistent.known c o old
    · cases c with
      | app =>
        obtain rfl := List.mem_singleton.mp new
        exact Nat.le_trans (Nat.min_le_left _ _) turn.watch
      | http => contradiction
  case writes =>
    intro c w member
    rw [written_append, written_appTick, List.append_nil] at member
    exact consistent.writes c w member

end Line

section Reply
variable {r : Request} (tracking : Bool)

theorem settled_request (progress : InProgress s ms st r) (active : st.request = some r) :
    emissions .http ms = settled .http ms st ++ [{ call := r.call, begun := r.begun }] := by
  obtain ⟨before, last⟩ := progress.last
  simp only [settled, active, Option.isSome_some, if_true, last, List.dropLast_concat]

theorem emissions_requestEnd (progress : InProgress s ms st r) (c : Channel) :
    emissions c (ms ++ (requestEnd s st r tracking).1) = emissions c ms := by
  apply emissions_quiet
  rw [requestEnd_eq s st r progress.number tracking]
  cases !s.pipeline.getFails r.call && tracking <;> cases c <;> rfl

theorem written_requestEnd (progress : InProgress s ms st r) (c : Channel) :
    written c (requestEnd s st r tracking).1 = [] := by
  rw [requestEnd_eq s st r progress.number tracking]
  cases !s.pipeline.getFails r.call && tracking <;> rfl

theorem settled_requestEnd (progress : InProgress s ms st r) (active : st.request = some r) (c : Channel) :
    settled c (ms ++ (requestEnd s st r tracking).1) (requestEnd s st r tracking).2 =
      settled c ms st ++ if c = .http then [{ call := r.call, begun := r.begun }] else [] := by
  have same := emissions_requestEnd tracking progress
  cases c with
  | app => exact (same .app).trans (List.append_nil _).symm
  | http => exact (same .http).trans (settled_request progress active)

theorem consistent_requestEnd (consistent : Consistent s ms st) (active : st.request = some r)
    (due : min r.ends s.shutdownAt ≤ min st.http.next (min st.app.next st.watch.next)) :
    Consistent s (ms ++ (requestEnd s st r tracking).1) (requestEnd s st r tracking).2 := by
  have progress := consistent.request r active
  have same := emissions_requestEnd tracking progress
  have own : Emitted .http ms { call := r.call, begun := r.begun } := by
    rw [Emitted, settled_request progress active]
    exact List.mem_append_right _ (List.mem_singleton_self _)
  constructor
  case appCalls =>
    rw [same]
    exact consistent.appCalls
  case getCalls =>
    rw [same]
    exact consistent.getCalls
  case past =>
    intro c o emitted
    rw [Emitted, same] at emitted
    exact consistent.past c o emitted
  case lines =>
    intro line member
    rcases List.mem_append.mp member with old | new
    · exact consistent.lines_mono _ line old
    · unfold Pipeline.accessLines at new
      split at new
      · contradiction
      · next kept =>
        have works := (Bool.or_eq_false_iff.mp (Bool.eq_false_iff.mpr kept)).1
        refine ⟨.http, { call := r.call, begun := r.begun }, ⟨own.mono _, works⟩, ?_⟩
        rw [List.mem_singleton.mp new, progress.ends, progress.number, Setup.ended, Nat.add_assoc]
        rfl
  case request =>
    intro r' active'
    contradiction
  case known =>
    intro c o member
    rw [settled_requestEnd tracking progress active, List.mem_append] at member
    rcases member with old | new
    · exact consistent.known c o old
    · cases c with
      | app => contradiction
      | http =>
        obtain rfl := List.mem_singleton.mp new
        have ends : s.registeredAt .http { call := r.call, begun := r.begun } = r.ends := progress.ends.symm
        change _ ≤ st.watch.next
        omega
  case writes =>
    intro c w member
    rw [written_append, written_requestEnd tracking progress, List.append_nil] at member
    exact consistent.writes c w member

end Reply

section Pass

theorem next_le_tick (t : Timer) (takes : Nat) : t.next ≤ (t.tick takes).next :=
  Nat.le_trans (Nat.le_add_right t.next takes) (t.tick takes).free_le_next

theorem emissions_passMoments (s : Setup) (ms : List Moment) (st : State) (t : Tracker) (c : Channel) :
    emissions c (ms ++ passMoments s st t) = emissions c ms :=
  emissions_quiet (views_passMoments s st c t).1

theorem consistent_watchTick (consistent : Consistent s ms st) :
    Consistent s (ms ++ (watchTick s st).1) (watchTick s st).2 := by
  obtain ⟨t, -, effect⟩ := watchTick_eq s st
  have same := emissions_passMoments s ms st t
  rw [effect]
  constructor
  case appCalls =>
    rw [same]
    exact consistent.appCalls
  case getCalls =>
    rw [same]
    exact consistent.getCalls
  case past =>
    intro c o emitted
    rw [Emitted, same] at emitted
    exact Nat.le_trans (consistent.past c o emitted) (next_le_tick _ _)
  case lines => exact consistent.lines_mono _
  case request =>
    intro r active
    obtain ⟨number, ends, busy, before, last⟩ := consistent.request r active
    exact ⟨number, ends, busy, before, (same .http).trans last⟩
  case known =>
    intro c o member
    have before : o ∈ settled c ms st := by
      cases c <;> simpa only [settled, same] using member
    exact Nat.le_trans (consistent.known c o before) (next_le_tick _ _)
  case writes =>
    intro c w member
    rw [written_append, List.mem_append] at member
    rcases member with old | new
    · have early := consistent.writes c w old
      have free := st.watch.free_le_next
      exact Nat.le_trans (Nat.le_trans early free) (Nat.le_add_right _ _)
    · obtain ⟨_, -, -, -, before⟩ := forall₂_mem_right (written_passMoments s st c t) new
      exact before

end Pass

theorem consistent_step (consistent : Consistent s ms st) {out : List Moment × State} (next : Next s st out) :
    Consistent s (ms ++ out.1) out.2 := by
  cases next with
  | httpTick turn => exact consistent_httpTick consistent turn
  | appTick turn => exact consistent_appTick consistent turn
  | watchTick turn => exact consistent_watchTick consistent
  | requestEnd active due => exact consistent_requestEnd _ consistent active due

theorem consistent_reached (reached : Reached s ms st) : Consistent s ms st := by
  induction reached with
  | start starts => exact consistent_start starts
  | step _ taken ih => exact consistent_step ih (next_of_step taken)

end Steps
end DeliveryProbe.Monitor
