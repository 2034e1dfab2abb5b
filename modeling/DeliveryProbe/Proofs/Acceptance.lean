import DeliveryProbe.Proofs.JsonGrammar
import DeliveryProbe.Proofs.Truncation
import Mathlib.Data.List.Forall2

/-! Which bodies are search replies. What an event, a list of events and a reply look like as values of JSON is
stated by what stands under their keys. The decoder accepts those values and no others, so a body is taken as a
whole or refused as a whole, and what else it holds makes no difference. -/
namespace DeliveryProbe
namespace Json

/-- What stands under a key: nothing if no member has it, else the value of the last member that has it. -/
inductive Under (key : String) (members : List (String × Json)) : Option Json → Prop where
  | absent (free : key ∉ members.map Prod.fst) : Under key members none
  | last {before after : List (String × Json)} {v : Json} (split : members = before ++ (key, v) :: after)
      (free : key ∉ after.map Prod.fst) : Under key members (some v)

section Members
variable {key : String} {members : List (String × Json)}

theorem member?_append (key : String) (before after : List (String × Json)) :
    member? key (before ++ after) =
      after.foldl (fun found (k, v) => if k = key then some v else found) (member? key before) := List.foldl_append

theorem member?_append_free (before : List (String × Json)) {after : List (String × Json)}
    (free : key ∉ after.map Prod.fst) : member? key (before ++ after) = member? key before := by
  rw [member?_append]
  generalize member? key before = found
  induction after with
  | nil => rfl
  | cons first after ih =>
    obtain ⟨other, free⟩ := not_or.mp (mt List.mem_cons.mpr free)
    exact (congrArg (after.foldl _) (if_neg (Ne.symm other))).trans (ih free)

theorem member?_last (before : List (String × Json)) (v : Json) {after : List (String × Json)}
    (free : key ∉ after.map Prod.fst) : member? key (before ++ (key, v) :: after) = some v := by
  rw [List.append_cons, member?_append_free _ free, member?_append]
  exact if_pos rfl

theorem member?_of_under {found : Option Json} (under : Under key members found) : member? key members = found := by
  cases under with
  | absent free => exact member?_append_free [] free
  | last split free => rw [split, member?_last _ _ free]

theorem exists_under (key : String) (members : List (String × Json)) : ∃ found, Under key members found := by
  induction members with
  | nil => exact ⟨none, .absent List.not_mem_nil⟩
  | cons first members ih =>
    obtain ⟨found, under⟩ := ih
    cases under with
    | @last before after v split free =>
      have split' : first :: members = first :: before ++ (key, v) :: after := congrArg (first :: ·) split
      exact ⟨some v, .last split' free⟩
    | absent free =>
      by_cases same : first.1 = key
      · subst same
        exact ⟨some first.2, .last (List.nil_append _).symm free⟩
      · refine ⟨none, .absent ?_⟩
        rw [List.map_cons, List.mem_cons]
        exact not_or.mpr ⟨Ne.symm same, free⟩

theorem under_iff {found : Option Json} : Under key members found ↔ member? key members = found := by
  constructor
  · exact member?_of_under
  · rintro rfl
    obtain ⟨found, under⟩ := exists_under key members
    rwa [member?_of_under under]

end Members
end Json

namespace Text

/-- A text cut to a number of bytes: the text itself if it fits, else three points behind as many of its characters
as fit. -/
inductive Cut (limit : Nat) (s : String) : String → Prop where
  | whole (fits : s.utf8ByteSize ≤ limit) : Cut limit s s
  | short {front back : List Char} {c : Char} (split : s.toList = front ++ c :: back)
      (fits : (String.ofList front).utf8ByteSize ≤ limit)
      (full : limit < (String.ofList front).utf8ByteSize + c.utf8Size) : Cut limit s (String.ofList front ++ "...")

theorem cut_truncate (limit : Nat) (s : String) : Cut limit s (truncate limit s) := by
  rcases Nat.lt_or_ge limit s.utf8ByteSize with long | fits
  · obtain ⟨stop, found, last⟩ := boundaryFrom?_spec s limit
    obtain ⟨c, back, chars, full⟩ := last.next stop.splits long
    have front := (last.longest stop.splits long).fits
    have split : s.toList = (s.sliceTo stop).copy.toList ++ c :: back := by
      rw [← chars, ← String.toList_append, ← stop.splits.eq_append]
    rw [truncate_long found long]
    rw [← String.ofList_toList (s := (s.sliceTo stop).copy)] at front full ⊢
    exact .short split front full
  · rw [truncate_short fits]
    exact .whole fits

end Text

namespace Search

inductive MessageOf : Option Json → String → Prop where
  | absent : MessageOf none ""
  | text (s : String) : MessageOf (some (.string s)) s

inductive ReceiptOf : Option Json → Option String → Prop where
  | absent : ReceiptOf none none
  | null : ReceiptOf (some .null) none
  | text (s : String) : ReceiptOf (some (.string s)) (some s)

/-- A value is an event: an object, or an array of a message and a receipt time that may end early. -/
inductive EventValue : Json → Event → Prop where
  | object {members : List (String × Json)} {found found' : Option Json} {message : String}
      {receivedAt : Option String} (under : Json.Under "message" members found) (text : MessageOf found message)
      (under' : Json.Under "received_at" members found') (receipt : ReceiptOf found' receivedAt) :
      EventValue (.object members) { message, receivedAt }
  | nothing : EventValue (.array []) { message := "", receivedAt := none }
  | message (s : String) : EventValue (.array [.string s]) { message := s, receivedAt := none }
  | both (s : String) {v : Json} {receivedAt : Option String} (receipt : ReceiptOf (some v) receivedAt) :
      EventValue (.array [.string s, v]) { message := s, receivedAt }

/-- A value is a search reply: under `events` stands an array with one item for each event, in order. -/
inductive ReplyValue : Json → List Event → Prop where
  | object {members : List (String × Json)} {items : List Json} {events : List Event}
      (under : Json.Under "events" members (some (.array items))) (each : List.Forall₂ EventValue items events) :
      ReplyValue (.object members) events

section Decoding
variable {v : Json} {e : Event}

theorem messageOf?_iff {found : Option Json} {message : String} :
    messageOf? found = some message ↔ MessageOf found message := by
  constructor
  · intro read
    unfold messageOf? at read
    split at read
    · obtain rfl := Option.some.inj read
      exact .absent
    · obtain rfl := Option.some.inj read
      exact .text _
    · contradiction
  · intro text
    cases text <;> rfl

theorem receivedAtOf?_iff {found : Option Json} {receivedAt : Option String} :
    receivedAtOf? found = some receivedAt ↔ ReceiptOf found receivedAt := by
  constructor
  · intro read
    unfold receivedAtOf? at read
    split at read
    · obtain rfl := Option.some.inj read
      exact .absent
    · obtain rfl := Option.some.inj read
      exact .null
    · obtain rfl := Option.some.inj read
      exact .text _
    · contradiction
  · intro receipt
    cases receipt <;> rfl

theorem eventOf?_iff {found found' : Option Json} :
    eventOf? found found' = some e ↔ MessageOf found e.message ∧ ReceiptOf found' e.receivedAt := by
  rw [← messageOf?_iff, ← receivedAtOf?_iff, eventOf?]
  obtain ⟨message, receivedAt⟩ := e
  cases messageOf? found <;> cases receivedAtOf? found' <;> simp

theorem event?_sound (read : event? v = some e) : EventValue v e := by
  obtain ⟨message, receivedAt⟩ := e
  unfold event? at read
  split at read
  · obtain ⟨text, receipt⟩ := eventOf?_iff.mp read
    exact .object (Json.under_iff.mpr rfl) text (Json.under_iff.mpr rfl) receipt
  · obtain ⟨⟨⟩, ⟨⟩⟩ := eventOf?_iff.mp read
    exact .nothing
  · obtain ⟨⟨⟩, ⟨⟩⟩ := eventOf?_iff.mp read
    exact .message _
  · obtain ⟨⟨⟩, receipt⟩ := eventOf?_iff.mp read
    exact .both _ receipt
  · contradiction

theorem event?_iff : event? v = some e ↔ EventValue v e := by
  refine ⟨event?_sound, fun value => ?_⟩
  cases value with
  | object under text under' receipt =>
    rw [event?, Json.member?_of_under under, Json.member?_of_under under']
    exact eventOf?_iff.mpr ⟨text, receipt⟩
  | nothing => rfl
  | message s => rfl
  | both s receipt => exact eventOf?_iff.mpr ⟨.text s, receipt⟩

theorem mapM_event?_iff {items : List Json} {events : List Event} :
    items.mapM event? = some events ↔ List.Forall₂ EventValue items events := by
  induction items generalizing events with
  | nil => simp [eq_comm]
  | cons item items ih =>
    rw [List.forall₂_cons_left_iff, List.mapM_cons]
    constructor
    · intro read
      obtain ⟨e, first, read⟩ := Option.bind_eq_some_iff.mp read
      obtain ⟨rest, others, same⟩ := Option.bind_eq_some_iff.mp read
      exact ⟨e, rest, event?_iff.mp first, ih.mp others, (Option.some.inj same).symm⟩
    · rintro ⟨e, rest, value, values, rfl⟩
      rw [event?_iff.mpr value, ih.mpr values]
      rfl

theorem events?_iff {events : List Event} : events? v = some events ↔ ReplyValue v events := by
  constructor
  · intro read
    unfold events? at read
    split at read
    · next members =>
      split at read
      · next items found =>
        obtain ⟨w, under, array⟩ := Option.bind_eq_some_iff.mp found
        cases w with
        | array _ =>
          obtain rfl := Option.some.inj array
          exact .object (Json.under_iff.mpr under) (mapM_event?_iff.mp read)
        | null | bool _ | number _ | string _ | object _ => contradiction
      · contradiction
    · contradiction
  · rintro ⟨under, each⟩
    rw [events?, Json.member?_of_under under]
    exact mapM_event?_iff.mpr each

theorem readBody_iff {body : String} {events : List Event} :
    readBody body = some events ↔ ∃ v, Json.Text body.toList v ∧ ReplyValue v events := by
  simp only [readBody, Option.bind_eq_some_iff, Json.read?_iff, events?_iff]

end Decoding

/-- Two values that differ at most in the members that no event has. -/
inductive SameEvent : Json → Json → Prop where
  | object {members members' : List (String × Json)}
      (message : ∀ found, Json.Under "message" members found ↔ Json.Under "message" members' found)
      (receipt : ∀ found, Json.Under "received_at" members found ↔ Json.Under "received_at" members' found) :
      SameEvent (.object members) (.object members')
  | refl (v : Json) : SameEvent v v

/-- Two values that differ at most in the members that no reply has, and in those that no event has. -/
inductive SameReply : Json → Json → Prop where
  | object {members members' : List (String × Json)} {items items' : List Json}
      (under : Json.Under "events" members (some (.array items)))
      (under' : Json.Under "events" members' (some (.array items')))
      (each : List.Forall₂ SameEvent items items') : SameReply (.object members) (.object members')

section Sameness
variable {v w : Json} {e : Event}

theorem SameEvent.value (same : SameEvent v w) (value : EventValue v e) : EventValue w e := by
  cases same with
  | object message receipt =>
    cases value with
    | object under text under' receipt_ => exact .object ((message _).mp under) text ((receipt _).mp under') receipt_
  | refl v => exact value

theorem SameEvent.values {items items' : List Json} {events : List Event} (same : List.Forall₂ SameEvent items items')
    (each : List.Forall₂ EventValue items events) : List.Forall₂ EventValue items' events := by
  induction same generalizing events with
  | nil => exact each
  | cons first _ ih =>
    cases each with
    | cons value values => exact .cons (first.value value) (ih values)

theorem SameReply.value {events : List Event} (same : SameReply v w) (value : ReplyValue v events) :
    ReplyValue w events := by
  obtain @⟨members, members', items, items', under, under', each⟩ := same
  obtain @⟨_, items_, events, under_, each_⟩ := value
  have found := (Json.member?_of_under under).symm.trans (Json.member?_of_under under_)
  obtain rfl := Json.array.inj (Option.some.inj found)
  exact .object under' (SameEvent.values each each_)

end Sameness

/-- A body is accepted as a whole or refused as a whole. It is accepted exactly if it is a text of JSON whose value
is a reply, and then with one event for each item; what stands under other keys makes no difference. Any other body
is refused with its first 512 bytes quoted, and counted once. -/
theorem bodies_accepted_whole (body : String) :
    let reply := Reply.ofBody body
    (∀ events, reply.result = .ok events ↔ ∃ v, Json.Text body.toList v ∧ ReplyValue v events) ∧
    ((∃ events, reply.result = .ok events) ∧ reply.trace = [] ∨
      (∃ quoted, Text.Cut 512 body quoted ∧ reply.result = .error (.malformedSearch quoted)) ∧
        reply.trace = [.metric .searchMalformed]) ∧
    ∀ body' v w, Json.Text body.toList v → Json.Text body'.toList w → SameReply v w →
      ∀ events, reply.result = .ok events → (Reply.ofBody body').result = .ok events := by
  have result (text : String) (events : List Event) :
      (Reply.ofBody text).result = .ok events ↔ readBody text = some events := by
    unfold Reply.ofBody
    cases readBody text with
    | none => exact ⟨nofun, nofun⟩
    | some found =>
      exact ⟨fun same => congrArg some (Except.ok.inj same), fun same => congrArg _ (Option.some.inj same)⟩
  have accepted (text : String) (events : List Event) :
      (Reply.ofBody text).result = .ok events ↔ ∃ v, Json.Text text.toList v ∧ ReplyValue v events :=
    (result text events).trans readBody_iff
  refine ⟨accepted body, ?_, ?_⟩
  · unfold Reply.ofBody
    cases readBody body with
    | none => exact .inr ⟨⟨_, Text.cut_truncate 512 body, rfl⟩, rfl⟩
    | some events => exact .inl ⟨⟨events, rfl⟩, rfl⟩
  · intro body' v w text text' same events ok
    obtain ⟨u, text_, value⟩ := (accepted body events).mp ok
    obtain rfl := Option.some.inj ((Json.read?_iff.mpr text_).symm.trans (Json.read?_iff.mpr text))
    exact (accepted body' events).mpr ⟨w, text', same.value value⟩

/-- Two bodies with one event that differ in a member of the event and in one beside `events`. -/
theorem other_members_ignored :
    let body := "\x7b\"events\":[\x7b\"message\":\"a\"\x7d]\x7d"
    let body' := "\x7b\"n\":[],\"events\":[\x7b\"id\":1,\"message\":\"a\"\x7d]\x7d"
    (Reply.ofBody body).result = .ok [⟨"a", none⟩] ∧ (Reply.ofBody body').result = .ok [⟨"a", none⟩] := by
  intro body body'
  have accepted : (Reply.ofBody body).result = .ok [⟨"a", none⟩] := by subst body; rfl
  have read : Json.Text body.toList (.object [("events", .array [.object [("message", .string "a")]])]) :=
    Json.read?_iff.mp (by subst body; rfl)
  have read' : Json.Text body'.toList
      (.object [("n", .array []),
        ("events", .array [.object [("id", .number ⟨false, 1, 0⟩), ("message", .string "a")]])]) :=
    Json.read?_iff.mp (by subst body'; rfl)
  have same : SameEvent (.object [("message", .string "a")])
      (.object [("id", .number ⟨false, 1, 0⟩), ("message", .string "a")]) := by
    constructor <;> simp [Json.under_iff, Json.member?]
  have ignored := (bodies_accepted_whole body).2.2 body' _ _ read read'
    (.object (Json.under_iff.mpr rfl) (Json.under_iff.mpr rfl) (.cons same .nil))
  exact ⟨accepted, ignored _ accepted⟩

end Search
end DeliveryProbe
