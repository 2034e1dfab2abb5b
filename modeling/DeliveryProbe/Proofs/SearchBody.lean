import DeliveryProbe.Proofs.JsonRoundTrip
import DeliveryProbe.Search

/-! The body of a search reply and the events in it. The text of an event names its two fields, whatever
they hold, and a body made of such texts is read back as the events it was made of. -/
namespace DeliveryProbe
namespace Json

theorem toList_write (v : Json) : (write v).toList = v.toChars := String.toList_ofList

/-- The items of an array stand between commas. -/
theorem toChars_array (items : List Json) :
    toChars (.array items) = '[' :: ([','].intercalate (items.map toChars) ++ [']']) := by
  cases items with
  | nil => rfl
  | cons item items =>
    rw [toChars]
    refine congrArg (fun s => '[' :: (s ++ [']'])) ?_
    induction items generalizing item with
    | nil => simp [itemsToChars]
    | cons next items ih =>
      rw [itemsToChars, ih next]
      simp

end Json

namespace Event

theorem nested_toJson (e : Event) (n : Nat) : e.toJson.Nested (n + 1) := by
  refine .object ?_
  intro member listed
  rcases List.mem_pair.mp listed with rfl | rfl
  · exact .string n e.message
  · cases e.receivedAt with
    | none => exact .null n
    | some text => exact .string n text

/-- The text of an event. -/
theorem write_toJson (e : Event) :
    Json.write e.toJson =
      "\x7b\"message\":" ++ Json.write (.string e.message) ++ ",\"received_at\":" ++
        (match e.receivedAt with | some t => Json.write (.string t) | none => "null") ++ "\x7d" := by
  have message : Json.quote "message" = "\"message\"".toList := by decide
  have received : Json.quote "received_at" = "\"received_at\"".toList := by decide
  apply String.toList_inj.mp
  rw [Json.toList_write, toJson, Json.toChars, Json.membersToChars, message, received]
  cases e.receivedAt <;> simp [Json.toList_write, Json.toChars, Json.membersToChars]

end Event

namespace Search

theorem event?_toJson (e : Event) : event? e.toJson = some e := by
  obtain ⟨message, receivedAt⟩ := e
  cases receivedAt with
  | none => simp [Event.toJson, event?, Json.member?, eventOf?, messageOf?, receivedAtOf?]
  | some text => simp [Event.toJson, event?, Json.member?, eventOf?, messageOf?, receivedAtOf?]

theorem mapM_event?_toJson (events : List Event) : (events.map Event.toJson).mapM event? = some events := by
  induction events with
  | nil => rfl
  | cons e events ih => simp [event?_toJson, ih]

theorem nested_body (events : List Event) :
    Json.Nested Json.maxDepth (.object [("events", .array (events.map Event.toJson))]) := by
  refine .object ?_
  intro member listed
  obtain rfl := List.mem_singleton.mp listed
  refine .array ?_
  intro item listed
  obtain ⟨e, -, rfl⟩ := List.mem_map.mp listed
  exact e.nested_toJson _

theorem readBody_writeBody (events : List Event) : readBody (writeBody events) = some events := by
  rw [readBody, writeBody, Json.toList_write, Json.read?_toChars (nested_body events), Option.bind_some]
  exact mapM_event?_toJson events

theorem writeBody_eq (events : List Event) :
    writeBody events =
      "\x7b\"events\":[" ++ ",".intercalate (events.map fun e => Json.write e.toJson) ++ "]\x7d" := by
  have name : Json.quote "events" = "\"events\"".toList := by decide
  have texts : (events.map fun e => Json.write e.toJson).map String.toList =
      (events.map Event.toJson).map Json.toChars := by
    simp [Json.toList_write]
  apply String.toList_inj.mp
  rw [writeBody, Json.toList_write, Json.toChars, Json.toChars_array, name, String.toList_append,
    String.toList_append, String.toList_intercalate, texts]
  simp [Json.membersToChars]

/-- A body that is made of the texts of events is taken for what it is, whatever the messages and the receipt
times hold: the search has found exactly these events, in their order, and nothing is malformed. -/
theorem body_round_trip (events : List Event) :
    let reply := Reply.ofBody
      ("\x7b\"events\":[" ++ ",".intercalate (events.map fun e => Json.write e.toJson) ++ "]\x7d")
    reply.result = .ok events ∧ reply.trace = [] ∧
      ∀ e : Event, Json.write e.toJson =
        "\x7b\"message\":" ++ Json.write (.string e.message) ++ ",\"received_at\":" ++
          (match e.receivedAt with | some t => Json.write (.string t) | none => "null") ++ "\x7d" := by
  intro reply
  have found : reply = .found events := by
    simp only [reply, ← writeBody_eq, Reply.ofBody, readBody_writeBody]
  rw [found]
  exact ⟨rfl, rfl, Event.write_toJson⟩

end Search
end DeliveryProbe
