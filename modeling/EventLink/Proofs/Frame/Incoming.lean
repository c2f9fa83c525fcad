import EventLink.Frame.Incoming
import EventLink.Proofs.Json.Lookup
import EventLink.Proofs.Json.Printing
/-!
Incoming frames and their texts.

What a text is read as depends on three values only: the last ones that are written for an event, an
identifier and data.  A frame that has been read can be written out, and is then read as the same
frame.
-/
namespace EventLink.IncomingFrame

open Json (Value Member Represents LastValue Rearranged lookup lookup_eq_iff read_eq_ok_iff
  represents_of_contents)

def knownKeys : List String :=
  ["event", "id", "data"]

/-- The payload of a frame whose data have a value, or none. -/
def payloadOf (data : Option Value) : Value :=
  (data.getD .null).canonical

/-- A text that is reported as a malformed frame. -/
def IsMalformed (text : String) : Prop :=
  ∃ fault reason, decode text = .error fault ∧ fault.error = .malformedFrame reason

/-- A text that is reported as no JSON. -/
def IsUnreadable (text : String) : Prop :=
  ∃ fault reason, decode text = .error fault ∧ fault.error = .parse reason

/-- An event that is not written, or written as null. -/
def IsSilent (event : Option Value) : Prop :=
  event = none ∨ event = some .null

/-- A text is read as the last values for an event, an identifier and data say. -/
structure IsReadBy (text : String) (event id data : Option Value) : Prop where
  delivery : ∀ topic, event = some (.string topic) →
    decode text = .ok (.event topic (payloadOf data))
  eventNotString : ∀ v, event = some v → v ≠ .null → (∀ topic, v ≠ .string topic) → IsMalformed text
  replyToString : IsSilent event → ∀ name, id = some (.string name) →
    decode text = .ok (.reply name (payloadOf data))
  replyToNumber : IsSilent event → ∀ n, id = some (.number n) →
    decode text = .ok (.reply n.text (payloadOf data))
  neither : IsSilent event → (∀ name, id ≠ some (.string name)) → (∀ n, id ≠ some (.number n)) →
    IsMalformed text

theorem decode_of_represents {text : String} {v : Value} (h : Represents text v) :
    decode text = ofJson v := by
  rw [decode, read_eq_ok_iff.2 h]

theorem ofMembers_of_isSilent {members : List Member} (silent : IsSilent (lookup "event" members)) :
    ofMembers members = replyOf members := by
  rw [ofMembers]
  rcases silent with hevent | hevent <;> rw [hevent]

theorem isReadBy_lookups {text : String} {members : List Member}
    (h : Represents text (.object members)) :
    IsReadBy text (lookup "event" members) (lookup "id" members) (lookup "data" members) where
  delivery := by
    intro topic hevent
    rw [decode_of_represents h, ofJson, ofMembers, hevent]
    rfl
  eventNotString := by
    intro v hevent notNull notString
    refine ⟨.eventNotString v, _, ?_, rfl⟩
    rw [decode_of_represents h, ofJson, ofMembers, hevent]
    split
    · next same => exact absurd (Option.some.inj same) (notString _)
    · next same => cases same
    · next same => exact absurd (Option.some.inj same) notNull
    · next same => rw [Option.some.inj same]
  replyToString := by
    intro silent name hid
    rw [decode_of_represents h, ofJson, ofMembers_of_isSilent silent, replyOf, hid]
    rfl
  replyToNumber := by
    intro silent n hid
    rw [decode_of_represents h, ofJson, ofMembers_of_isSilent silent, replyOf, hid]
    rfl
  neither := by
    intro silent notString notNumber
    rw [IsMalformed, decode_of_represents h, ofJson, ofMembers_of_isSilent silent, replyOf]
    split
    · next hid => exact absurd hid (notString _)
    · next hid => exact absurd hid (notNumber _)
    · exact ⟨.neither, _, rfl, rfl⟩
    · exact ⟨.neither, _, rfl, rfl⟩
    · exact ⟨.idNotText _, _, rfl, rfl⟩

theorem isReadBy_of_lastValues {text : String} {members : List Member}
    {event id data : Option Value} (h : Represents text (.object members))
    (hevent : LastValue "event" members event) (hid : LastValue "id" members id)
    (hdata : LastValue "data" members data) : IsReadBy text event id data := by
  have read := isReadBy_lookups h
  rwa [lookup_eq_iff.2 hevent, lookup_eq_iff.2 hid, lookup_eq_iff.2 hdata] at read

theorem isMalformed_of_not_object {text : String} {v : Value} (h : Represents text v)
    (notObject : ∀ members, v ≠ .object members) : IsMalformed text := by
  refine ⟨.notObject, _, ?_, rfl⟩
  rw [decode_of_represents h]
  cases v with
  | object members => exact absurd rfl (notObject members)
  | _ => rfl

theorem isUnreadable_of_not_json {text : String} (notJson : ∀ v, ¬Represents text v) :
    IsUnreadable text := by
  rcases hread : Json.read text with error | v
  · refine ⟨.notJson error, _, ?_, rfl⟩
    rw [decode, hread]
  · exact absurd (read_eq_ok_iff.1 hread) (notJson v)

theorem decode_of_rearranged {text other : String} {members others : List Member}
    (rearranged : Rearranged knownKeys members others) (h : Represents text (.object members))
    (hother : Represents other (.object others)) : decode other = decode text := by
  have hevent : lookup "event" others = lookup "event" members := rearranged.lookup_eq (by decide)
  have hid : lookup "id" others = lookup "id" members := rearranged.lookup_eq (by decide)
  have hdata : lookup "data" others = lookup "data" members := rearranged.lookup_eq (by decide)
  rw [decode_of_represents h, decode_of_represents hother, ofJson, ofJson, ofMembers, ofMembers,
    replyOf, replyOf, dataOf, dataOf, hevent, hid, hdata]

/-- What a text is read as.  An object is a delivery, a reply or a malformed frame, as the last
values for three keys say; blanks, escapes, unknown members and the order of different keys make no
difference.  Other JSON texts are malformed frames, and all other texts are reported as no JSON. -/
theorem decode_classifies (text : String) :
    (∀ members event id data, Represents text (.object members) →
      LastValue "event" members event → LastValue "id" members id → LastValue "data" members data →
        IsReadBy text event id data) ∧
    (∀ members others other, Rearranged knownKeys members others →
      Represents text (.object members) → Represents other (.object others) →
        decode other = decode text) ∧
    (∀ v, Represents text v → (∀ members, v ≠ .object members) → IsMalformed text) ∧
    ((∀ v, ¬Represents text v) → IsUnreadable text) :=
  ⟨fun _ _ _ _ => isReadBy_of_lastValues, fun _ _ _ => decode_of_rearranged,
    fun _ => isMalformed_of_not_object, isUnreadable_of_not_json⟩

/-- An object with blanks, an escaped key, an unknown member and two identifiers. -/
def twoIds : String :=
  "\x7b \"id\" : 7,\n\"\\u0065vent\":null,\t\"more\":[[ ]],\"id\":\"a\\n\"," ++
    "\"data\":[-1,\"\\ud83d\\udce1\"]\x7d "

def twoIdsData : Value :=
  .array [.ofInt (-1), .string "📡"]

def twoIdsMembers : List Member :=
  [("id", .ofInt 7), ("event", .null), ("more", .array [.array []]), ("id", .string "a\n"),
    ("data", twoIdsData)]

/-- The same frame without the unknown member, the event after both identifiers. -/
def plainIds : String :=
  "\x7b\"id\":7,\"id\":\"a\\n\",\"event\":null,\"data\":[-1,\"📡\"]\x7d"

theorem decode_classifies_twoIds :
    decode twoIds = .ok (.reply "a\n" twoIdsData) ∧
      decode twoIds = decode plainIds ∧ IsMalformed "[]" ∧ IsUnreadable "\"\\ud83d\"" := by
  have represents : Represents twoIds (.object twoIdsMembers) :=
    represents_of_contents (by decide +kernel) (by decide)
  have plain : Represents plainIds (.object [("id", .ofInt 7), ("id", .string "a\n"),
      ("event", .null), ("data", twoIdsData)]) :=
    represents_of_contents (by decide +kernel) (by decide)
  have swapped : Rearranged knownKeys
      ([("id", .ofInt 7)] ++ ("id", .string "a\n") :: ("event", .null) :: [("data", twoIdsData)])
      ([("id", .ofInt 7), ("event", .null)] ++ [("id", .string "a\n"), ("data", twoIdsData)]) :=
    .swapped (by decide)
  have extended : Rearranged knownKeys
      ([("id", .ofInt 7), ("event", .null)] ++ [("id", .string "a\n"), ("data", twoIdsData)])
      twoIdsMembers :=
    .extended (by decide)
  have empty : Represents "[]" (.array []) :=
    represents_of_contents (by decide +kernel) (by decide)
  have notJson (v : Value) : ¬Represents "\"\\ud83d\"" v := by
    intro h
    have found : (Json.read "\"\\ud83d\"").toBool = true := by rw [read_eq_ok_iff.2 h]; rfl
    exact absurd found (by decide +kernel)
  obtain ⟨read, -, -, -⟩ := decode_classifies twoIds
  obtain ⟨-, rearranged, -, -⟩ := decode_classifies plainIds
  obtain ⟨-, -, malformed, -⟩ := decode_classifies "[]"
  obtain ⟨-, -, -, unreadable⟩ := decode_classifies "\"\\ud83d\""
  have readBy := read twoIdsMembers (some .null) _ _ represents (lookup_eq_iff.1 rfl)
    (lookup_eq_iff.1 rfl) (lookup_eq_iff.1 rfl)
  exact ⟨readBy.replyToString (.inr rfl) _ rfl,
    rearranged _ _ _ (swapped.trans extended) plain represents,
    malformed _ empty (fun _ h => nomatch h), unreadable notJson⟩

/-- A frame is read from an object. -/
theorem exists_of_decode {text : String} {frame : IncomingFrame} (h : decode text = .ok frame) :
    ∃ members, Represents text (.object members) ∧ ofMembers members = .ok frame := by
  rw [decode] at h
  split at h
  · cases h
  · next v hread =>
    cases v with
    | object members => exact ⟨members, read_eq_ok_iff.1 hread, h⟩
    | _ => cases h

theorem data_of_ofMembers {members : List Member} {frame : IncomingFrame}
    (h : ofMembers members = .ok frame) : frame.data = dataOf members := by
  have reply {frame : IncomingFrame} (h : replyOf members = .ok frame) :
      frame.data = dataOf members := by
    rw [replyOf] at h
    split at h <;> cases h <;> rfl
  rw [ofMembers] at h
  split at h
  · cases h; rfl
  · exact reply h
  · exact reply h
  · cases h

/-- The payload is one level less deep than the object that it is read from. -/
theorem depth_dataOf_le {text : String} {members : List Member}
    (h : Represents text (.object members)) : (dataOf members).depth ≤ 126 := by
  obtain ⟨-, fits⟩ := Value.fitsIn_object.1 h.nested
  have fitsData : ((lookup "data" members).getD .null).FitsIn 1 := by
    cases hdata : lookup "data" members with
    | none => exact (by decide : Value.null.FitsIn 1)
    | some v =>
      cases lookup_eq_iff.1 hdata with
      | last front others => exact fits _ (List.mem_append_right _ List.mem_cons_self)
  have := fitsData.canonical
  rw [Value.FitsIn, Json.tooManyLevels] at this
  rw [dataOf]
  omega

/-- The text of a frame is JSON for its object. -/
theorem represents_encode {frame : IncomingFrame} (portable : frame.data.IsPortable) :
    Represents frame.encode frame.toJson := by
  have members (key name : String) :
      ∀ m ∈ [(key, Value.string name), ("data", frame.data.canonical)], m.2.IsPortable :=
    List.forall_mem_cons.2 ⟨Value.isPortable_string name,
      List.forall_mem_singleton.2 portable.canonical⟩
  cases frame with
  | event topic data => exact Value.represents_object (members "event" topic)
  | reply id data => exact Value.represents_object (members "id" id)

/-- The object of a frame stands for the frame. -/
theorem ofJson_toJson {frame : IncomingFrame} (canonical : frame.data.canonical = frame.data) :
    ofJson frame.toJson = .ok frame := by
  cases frame with
  | event topic data =>
    have hdata : data.canonical = data := canonical
    calc ofJson (toJson (event topic data)) = .ok (event topic data.canonical.canonical) := rfl
      _ = .ok (event topic data) := by rw [hdata, hdata]
  | reply id data =>
    have hdata : data.canonical = data := canonical
    calc ofJson (toJson (reply id data)) = .ok (reply id data.canonical.canonical) := rfl
      _ = .ok (reply id data) := by rw [hdata, hdata]

/-- A text in normal form, or why it is no frame. -/
def normalize (text : String) : Except IncomingFault String :=
  (decode text).map encode

/-- A frame that has been read is read again from its own text, so that bringing a text into normal
form a second time changes nothing. -/
theorem decode_encode {text : String} {frame : IncomingFrame} (h : decode text = .ok frame)
    (exact : frame.data.IsExact) :
    decode frame.encode = .ok frame ∧ normalize frame.encode = normalize text := by
  -- The data are inside an object before and after, so that they are nested just as deep.
  obtain ⟨members, hrepresents, hmembers⟩ := exists_of_decode h
  have hdata : frame.data = dataOf members := data_of_ofMembers hmembers
  have portable : frame.data.IsPortable := ⟨hdata ▸ depth_dataOf_le hrepresents, exact⟩
  have canonical : frame.data.canonical = frame.data := by
    rw [hdata, dataOf, Value.canonical_canonical]
  have again : decode frame.encode = .ok frame := by
    rw [decode_of_represents (represents_encode portable), ofJson_toJson canonical]
  exact ⟨again, by rw [normalize, normalize, again, h]⟩

/-- A reply with a fraction for an identifier, and with data that have a key twice. -/
def fractionalId : String :=
  "\x7b\"data\":0,\"data\":\x7b\"b\":[1],\"a\":-2,\"b\":\"\\u0041\"\x7d," ++
    " \"id\":-1.50e0,\"more\":1e9\x7d"

theorem decode_encode_fractionalId :
    let frame := reply "-1.5" (.object [("a", .ofInt (-2)), ("b", .string "A")])
    decode fractionalId = .ok frame ∧ decode frame.encode = .ok frame := by
  have represents : Represents fractionalId (.object [("data", .ofInt 0),
      ("data", .object [("b", .array [.ofInt 1]), ("a", .ofInt (-2)), ("b", .string "A")]),
      ("id", .number (.double ⟨true, 6755399441055744, -52⟩)),
      ("more", .number (.double ⟨false, 8388608000000000, -23⟩))]) :=
    represents_of_contents (by decide +kernel) (by decide)
  have read : decode fractionalId =
      .ok (reply "-1.5" (.object [("a", .ofInt (-2)), ("b", .string "A")])) := by
    rw [decode_of_represents represents]
    rfl
  exact ⟨read, (decode_encode read (by decide)).1⟩

end EventLink.IncomingFrame
