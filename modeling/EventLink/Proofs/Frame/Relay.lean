import EventLink.Proofs.Frame.Incoming
import EventLink.Proofs.Frame.Outgoing
/-!
Frames that come back as they were sent.

A server may hand an event on to other clients without a change to its text.  They are delivered
what was published; a subscription that comes back is neither a delivery nor a reply.
-/
namespace EventLink.OutgoingFrame

open Json (Value Represents)
open IncomingFrame (decode payloadOf dataOf ofMembers decode_of_represents IsMalformed)

theorem payloadOf_of_canonical {data : Option Value} (canonical : ∀ v ∈ data, v.canonical = v) :
    payloadOf data = data.getD .null := by
  cases data with
  | none => rfl
  | some v => exact canonical v rfl

theorem dataOf_members (topic : String) (data : Option Value) (id : Option String) :
    dataOf (members (event topic data id)) = payloadOf data := by
  cases data with
  | none => cases id <;> rfl
  | some v =>
    have written : dataOf (members (event topic (some v) id)) = v.canonical.canonical := by
      cases id <;> rfl
    rw [written, Value.canonical_canonical]
    rfl

/-- The members of an event are a delivery, whether or not there is an identifier among them. -/
theorem ofMembers_members (topic : String) (data : Option Value) (id : Option String) :
    ofMembers (members (event topic data id)) = .ok (.event topic (payloadOf data)) := by
  have hevent : Json.lookup "event" (members (event topic data id)) = some (.string topic) := by
    cases data <;> cases id <;> rfl
  rw [ofMembers, hevent]
  exact congrArg (fun data => Except.ok (IncomingFrame.event topic data))
    (dataOf_members topic data id)

theorem decode_encode_event {topic : String} {data : Option Value} {id : Option String}
    (portable : (event topic data id).IsPortable) :
    decode (event topic data id).encode = .ok (.event topic (payloadOf data)) := by
  rw [decode_of_represents (represents_encode portable)]
  exact ofMembers_members topic data id

theorem isMalformed_encode_subscribe (topic : String) : IsMalformed (subscribe topic).encode := by
  have portable : (subscribe topic).IsPortable := fun _ h => nomatch h
  refine ⟨.neither, _, ?_, rfl⟩
  rw [decode_of_represents (represents_encode portable)]
  rfl

/-- An event whose text is handed on is delivered as it was published, and never taken for a reply.
A subscription whose text is handed on is a malformed frame. -/
theorem relayed_as_published :
    (∀ topic data id, (event topic data id).IsPortable →
      decode (event topic data id).encode = .ok (.event topic (payloadOf data)) ∧
        ((∀ v ∈ data, v.canonical = v) → payloadOf data = data.getD .null)) ∧
    ∀ topic, IsMalformed (subscribe topic).encode :=
  ⟨fun _ _ _ portable => ⟨decode_encode_event portable, payloadOf_of_canonical⟩,
    isMalformed_encode_subscribe⟩

theorem relayed_as_published_asked :
    decode (event "no\"ws" (some (.array [.null, .ofInt (-5)])) (some "7")).encode =
        .ok (.event "no\"ws" (.array [.null, .ofInt (-5)])) ∧
      decode (event "news" none (some "8")).encode = .ok (.event "news" .null) ∧
      IsMalformed (subscribe "news").encode := by
  obtain ⟨delivered, malformed⟩ := relayed_as_published
  exact ⟨(delivered _ _ _ (by decide)).1, (delivered _ _ _ (by decide)).1, malformed "news"⟩

end EventLink.OutgoingFrame
