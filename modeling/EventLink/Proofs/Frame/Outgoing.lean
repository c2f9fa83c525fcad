import EventLink.Frame.Outgoing
import EventLink.Proofs.Json.Printing
/-!
Outgoing frames and their texts.

A frame is read back from its text, whatever its topic and its identifier are and however its
payload is built.  Only a payload that is null is lost: it stands for no payload at all.
-/
namespace EventLink.OutgoingFrame

open Json (Value Member Represents)

def data? : OutgoingFrame → Option Value
  | subscribe _ => none
  | event _ data _ => data

/-- A payload as it is read back. -/
def receivedData (v : Value) : Option Value :=
  match v with
  | .null => none
  | v => some v.canonical

/-- A frame as it is read back. -/
def received : OutgoingFrame → OutgoingFrame
  | subscribe topic => subscribe topic
  | event topic data id => event topic (data.bind receivedData) id

/-- A frame that can be written so that it is read back: its payload is nested at most 126 levels
and has no other numbers than integers of 64 bits. -/
def IsPortable (frame : OutgoingFrame) : Prop :=
  ∀ v ∈ frame.data?, v.IsPortable

instance (frame : OutgoingFrame) : Decidable frame.IsPortable :=
  inferInstanceAs (Decidable (∀ v ∈ frame.data?, v.IsPortable))

theorem kind_received (frame : OutgoingFrame) : frame.received.kind = frame.kind := by
  cases frame <;> rfl

/-- A frame whose payload is in canonical form, and not null, is read back as it is. -/
theorem received_eq_self {frame : OutgoingFrame}
    (plain : ∀ v ∈ frame.data?, v.canonical = v ∧ v ≠ .null) : frame.received = frame := by
  cases frame with
  | subscribe topic => rfl
  | event topic data id =>
    cases data with
    | none => rfl
    | some v =>
      obtain ⟨hcanonical, hnull⟩ := plain v rfl
      have kept : receivedData v = some v := by
        rw [receivedData]
        · rw [hcanonical]
        · exact hnull
      rw [received, Option.bind_some, kept]

theorem isPortable_of_mem_members {frame : OutgoingFrame} (portable : frame.IsPortable)
    {m : Member} (h : m ∈ frame.members) : m.2.IsPortable := by
  cases frame with
  | subscribe topic =>
    obtain rfl := List.mem_singleton.1 h
    exact Value.isPortable_string topic
  | event topic data id =>
    rcases List.mem_cons.1 h with rfl | h
    · exact Value.isPortable_string topic
    · rcases List.mem_append.1 h with h | h
      · cases data with
        | none => cases h
        | some v =>
          obtain rfl := List.mem_singleton.1 h
          exact (portable v rfl).canonical
      · cases id with
        | none => cases h
        | some id =>
          obtain rfl := List.mem_singleton.1 h
          exact Value.isPortable_string id

/-- The text of a frame is JSON for its members. -/
theorem represents_encode {frame : OutgoingFrame} (portable : frame.IsPortable) :
    Represents frame.encode (.object frame.members) :=
  Value.represents_object fun _ h => isPortable_of_mem_members portable h

theorem receivedData_canonical (v : Value) : receivedData v.canonical = receivedData v := by
  cases v with
  | array items => exact congrArg some (Value.canonical_canonical (.array items))
  | object members => exact congrArg some (Value.canonical_canonical (.object members))
  | _ => rfl

/-- A payload that is written once is read back. -/
theorem dataOf?_singleton (v : Value) : dataOf? [("data", v)] = some (receivedData v) := by
  cases v <;> rfl

theorem eventOf?_members (topic : String) (data : Option Value) (id : Option String) :
    eventOf? (members (event topic data id)) = some (event topic (data.bind receivedData) id) := by
  have hevent : valuesOf "event" (members (event topic data id)) = [.string topic] := by
    cases data <;> cases id <;> rfl
  have hdata : dataOf? (members (event topic data id)) = some (data.bind receivedData) := by
    cases data with
    | none => cases id <;> rfl
    | some v =>
      have written : dataOf? (members (event topic (some v) id)) =
          dataOf? [("data", v.canonical)] := by
        cases id <;> rfl
      rw [written, dataOf?_singleton, receivedData_canonical, Option.bind_some]
  have hid : idOf? (members (event topic data id)) = some id := by
    cases data <;> cases id <;> rfl
  rw [eventOf?, hevent, hdata, hid]

/-- The members of a frame stand for the frame. -/
theorem ofJson?_members (frame : OutgoingFrame) :
    ofJson? (.object frame.members) = some frame.received := by
  cases frame with
  | subscribe topic => rfl
  | event topic data id =>
    have notSubscribe : subscribeOf? (members (event topic data id)) = none := by
      cases data <;> cases id <;> rfl
    rw [ofJson?, notSubscribe, eventOf?_members]
    rfl

theorem parse_of_represents {text : String} {v : Value} (h : Represents text v)
    {frame : OutgoingFrame} (stands : ofJson? v = some frame) : parse text = .ok frame := by
  simp only [parse, h.readFront, stands]

/-- A portable frame is read back from its text: it is of the same kind and, unless its payload is
null, as it was.  Two frames have the same text only if they are read back as the same frame. -/
theorem parse_encode {frame : OutgoingFrame} (portable : frame.IsPortable) :
    parse frame.encode = .ok frame.received ∧
      frame.received.kind = frame.kind ∧
      ((∀ v ∈ frame.data?, v.canonical = v ∧ v ≠ .null) → frame.received = frame) ∧
      ∀ other : OutgoingFrame, other.IsPortable → other.encode = frame.encode →
        other.received = frame.received := by
  have readBack {frame : OutgoingFrame} (portable : frame.IsPortable) :
      parse frame.encode = .ok frame.received :=
    parse_of_represents (represents_encode portable) (ofJson?_members frame)
  refine ⟨readBack portable, kind_received frame, received_eq_self, ?_⟩
  intro other otherPortable same
  have read := readBack otherPortable
  rw [same, readBack portable] at read
  exact (Except.ok.inj read).symm

/-- An event for a topic with a quote, a control character and a character of two code units.  Its
payload holds the least and the greatest integer that are read back. -/
def greeting : OutgoingFrame :=
  event "\"news\x01📡"
    (some (.object [("at", .array [.ofInt (-0x8000000000000000), .ofInt 0xffffffffffffffff]),
      ("text", .object [("", .null), ("line\n", .bool true)])]))
    (some "7\\")

theorem parse_encode_greeting :
    parse greeting.encode = .ok greeting ∧
      parse (event "news" (some .null) none).encode = .ok (event "news" none none) := by
  have portable : greeting.IsPortable := by decide
  have empty : (event "news" (some .null) none).IsPortable := by decide
  have plain : ∀ v ∈ greeting.data?, v.canonical = v ∧ v ≠ .null := by
    rintro v ⟨⟩
    exact ⟨rfl, fun h => nomatch h⟩
  obtain ⟨read, -, kept, -⟩ := parse_encode portable
  rw [kept plain] at read
  exact ⟨read, (parse_encode empty).1⟩

end EventLink.OutgoingFrame
