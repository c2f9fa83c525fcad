import EventLink.Client.Error
import EventLink.Json.Printer
import EventLink.Json.Reader
/-!
Frames that the client receives.

A frame is a JSON object with an event, which makes it a delivery for a topic, or with an
identifier, which makes it a reply.  The event is looked at first.  Of a member that is written more
than once the last value counts.
-/
namespace EventLink

open Json (Value Member)

/-- A delivery for a topic, or the reply to a request. -/
inductive IncomingFrame where
  | event (topic : String) (data : Value)
  | reply (id : String) (data : Value)
  deriving Repr

/-- Why a text is no incoming frame. -/
inductive IncomingFault where
  | notJson (error : Json.SyntaxError)
  | notObject
  | eventNotString (value : Value)
  | idNotText (value : Value)
  | neither
  deriving Repr

namespace IncomingFault

def error : IncomingFault → ClientError
  | notJson error => .parse error.message
  | notObject => .malformedFrame "frame is not a JSON object"
  | eventNotString value =>
    .malformedFrame ("event field must be a string, got " ++ value.canonical.text)
  | idNotText value =>
    .malformedFrame ("id field must be a string or number, got " ++ value.canonical.text)
  | neither => .malformedFrame "frame carries neither event nor id"

end IncomingFault

namespace IncomingFrame

/-- The payload of a frame, null if none is written. -/
def dataOf (members : List Member) : Value :=
  ((Json.lookup "data" members).getD .null).canonical

/-- The frame of an object whose event is absent or null.  A number names the same reply as its
written form does. -/
def replyOf (members : List Member) : Except IncomingFault IncomingFrame :=
  match Json.lookup "id" members with
  | some (.string id) => .ok (reply id (dataOf members))
  | some (.number n) => .ok (reply n.text (dataOf members))
  | none => .error .neither
  | some .null => .error .neither
  | some other => .error (.idNotText other)

def ofMembers (members : List Member) : Except IncomingFault IncomingFrame :=
  match Json.lookup "event" members with
  | some (.string topic) => .ok (event topic (dataOf members))
  | none => replyOf members
  | some .null => replyOf members
  | some other => .error (.eventNotString other)

def ofJson : Value → Except IncomingFault IncomingFrame
  | .object members => ofMembers members
  | _ => .error .notObject

def decode (text : String) : Except IncomingFault IncomingFrame :=
  match Json.read text with
  | .error error => .error (.notJson error)
  | .ok v => ofJson v

/-- The topic or the identifier of a frame. -/
def key : IncomingFrame → String
  | event topic _ => topic
  | reply id _ => id

def data : IncomingFrame → Value
  | event _ data => data
  | reply _ data => data

def isEvent : IncomingFrame → Bool
  | event _ _ => true
  | reply _ _ => false

def isReply : IncomingFrame → Bool
  | event _ _ => false
  | reply _ _ => true

def toJson : IncomingFrame → Value
  | event topic data => .object [("event", .string topic), ("data", data.canonical)]
  | reply id data => .object [("id", .string id), ("data", data.canonical)]

def encode (frame : IncomingFrame) : String :=
  frame.toJson.text

end IncomingFrame

end EventLink
