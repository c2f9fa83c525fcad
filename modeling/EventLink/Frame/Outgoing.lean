import EventLink.Client.Error
import EventLink.Json.Printer
import EventLink.Json.Reader
/-!
Frames that the client sends.

A frame is one JSON object.  Its members stand in a fixed order, and members without a value are
left out.  Reading a frame back tries the subscription first and the event second; a known member
that is written twice rules out the frame that knows it, and members that a frame does not know are
passed over.
-/
namespace EventLink

open Json (Value Member SyntaxError)

/-- Interest in a topic, or an event for a topic with what goes with it. -/
inductive OutgoingFrame where
  | subscribe (topic : String)
  | event (topic : String) (data : Option Value) (id : Option String)
  deriving Repr

/-- The two kinds of outgoing frames. -/
inductive FrameKind where
  | subscribe
  | event
  deriving DecidableEq, Repr

def FrameKind.name : FrameKind → String
  | subscribe => "subscribe"
  | event => "event"

/-- Why a text is no outgoing frame. -/
inductive OutgoingFault where
  | notJson (error : SyntaxError)
  | noMatch
  deriving DecidableEq, Repr

def OutgoingFault.message : OutgoingFault → String
  | notJson error => error.message
  | noMatch => "data did not match any variant of untagged enum OutboundFrame"

namespace OutgoingFrame

def topic : OutgoingFrame → String
  | subscribe topic => topic
  | event topic _ _ => topic

def kind : OutgoingFrame → FrameKind
  | subscribe _ => .subscribe
  | event _ _ _ => .event

/-- The identifier under which a reply is expected. -/
def id? : OutgoingFrame → Option String
  | subscribe _ => none
  | event _ _ id => id

/-- A member that is there if its value is. -/
def optionalMember (key : String) (value : Option Value) : List Member :=
  match value with
  | some v => [(key, v)]
  | none => []

def members : OutgoingFrame → List Member
  | subscribe topic => [("subscribe", .string topic)]
  | event topic data id =>
    ("event", .string topic) ::
      (optionalMember "data" (data.map Value.canonical) ++
        optionalMember "id" (id.map Value.string))

def toJson (frame : OutgoingFrame) : Value :=
  .object frame.members

def encode (frame : OutgoingFrame) : String :=
  frame.toJson.text

/-- The values written for a key. -/
def valuesOf (key : String) (members : List Member) : List Value :=
  (members.filter fun (m : Member) => m.1 == key).map Prod.snd

/-- A subscription has exactly one topic, a string. -/
def subscribeOf? (members : List Member) : Option OutgoingFrame :=
  match valuesOf "subscribe" members with
  | [.string topic] => some (subscribe topic)
  | _ => none

/-- The payload of an event is written at most once, and null means that there is none. -/
def dataOf? (members : List Member) : Option (Option Value) :=
  match valuesOf "data" members with
  | [] => some none
  | [.null] => some none
  | [v] => some (some v.canonical)
  | _ => none

/-- The identifier of an event is written at most once, as a string or as null. -/
def idOf? (members : List Member) : Option (Option String) :=
  match valuesOf "id" members with
  | [] => some none
  | [.null] => some none
  | [.string id] => some (some id)
  | _ => none

/-- An event has exactly one topic, a string. -/
def eventOf? (members : List Member) : Option OutgoingFrame :=
  match valuesOf "event" members, dataOf? members, idOf? members with
  | [.string topic], some data, some id => some (event topic data id)
  | _, _, _ => none

def ofJson? : Value → Option OutgoingFrame
  | .object members => (subscribeOf? members).or (eventOf? members)
  | _ => none

/-- Reads a frame.  That the value is no frame is found before anything that follows the value. -/
def parse (text : String) : Except OutgoingFault OutgoingFrame :=
  match Json.readFront text with
  | .error error => .error (.notJson error)
  | .ok (v, trailing) =>
    match ofJson? v, trailing with
    | none, _ => .error .noMatch
    | some _, some error => .error (.notJson error)
    | some frame, none => .ok frame

end OutgoingFrame

end EventLink
