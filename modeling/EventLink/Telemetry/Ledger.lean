import EventLink.Frame.Outgoing
import EventLink.LinkStatus
/-!
What the client counts about itself.

Each measurement belongs to a series.  The series of the connection's status keeps its latest value;
every other series is a counter that a measurement raises by one.
-/
namespace EventLink

/-- Something worth counting. -/
inductive Measurement where
  | status (status : LinkStatus)
  | sent (kind : FrameKind)
  | buffered
  | delivered (topic : String) (handlers : Nat)
  | replied (matched : Bool)
  | malformed
  | attempted
  | opened
  | heartbeat
  deriving DecidableEq, Repr

/-- A series of measurements with its attributes. -/
inductive Series where
  | linkStatus
  | framesSent (kind : FrameKind)
  | framesBuffered
  | eventsReceived (topic : String) (handled : Bool)
  | repliesReceived (matched : Bool)
  | framesMalformed
  | attempts
  | opens
  | heartbeats
  deriving DecidableEq, Repr

namespace Series

/-- A truth value as an attribute. -/
def flagText (b : Bool) : String :=
  if b then "true" else "false"

/-- The name of a series, with its attributes in braces. -/
def label : Series → String
  | linkStatus => "connection.state\x7b\x7d"
  | framesSent kind => "frames.sent\x7bkind=" ++ kind.name ++ "\x7d"
  | framesBuffered => "frames.buffered\x7b\x7d"
  | eventsReceived topic handled =>
    "events.received\x7bhandled=" ++ flagText handled ++ ",topic=" ++ topic ++ "\x7d"
  | repliesReceived matched => "replies.received\x7bmatched=" ++ flagText matched ++ "\x7d"
  | framesMalformed => "frames.malformed\x7b\x7d"
  | attempts => "reconnect.attempts\x7b\x7d"
  | opens => "opens\x7b\x7d"
  | heartbeats => "heartbeats\x7b\x7d"

/-- The full name of a series of a service. -/
def key (service : String) (series : Series) : String :=
  service ++ "|eventsock.client." ++ series.label

end Series

namespace Measurement

/-- The series that a measurement belongs to. -/
def series : Measurement → Series
  | status _ => .linkStatus
  | sent kind => .framesSent kind
  | buffered => .framesBuffered
  | delivered topic handlers => .eventsReceived topic (0 < handlers)
  | replied matched => .repliesReceived matched
  | malformed => .framesMalformed
  | attempted => .attempts
  | opened => .opens
  | heartbeat => .heartbeats

/-- The value of a series after a measurement. -/
def update : Measurement → Option Int → Int
  | status s, _ => s.gauge
  | _, old => old.getD 0 + 1

end Measurement

/-- The series recorded so far and their values, in the order of their first measurements. -/
structure Ledger where
  entries : List (Series × Int)
  deriving Repr

namespace Ledger

def empty : Ledger :=
  ⟨[]⟩

def value? (ledger : Ledger) (series : Series) : Option Int :=
  ledger.entries.lookup series

/-- Records a measurement among entries. -/
def recordIn (m : Measurement) : List (Series × Int) → List (Series × Int)
  | [] => [(m.series, m.update none)]
  | (series, value) :: rest =>
    if series = m.series then (series, m.update (some value)) :: rest
    else (series, value) :: recordIn m rest

def record (ledger : Ledger) (m : Measurement) : Ledger :=
  ⟨recordIn m ledger.entries⟩

/-- Everything recorded, under full names. -/
def readings (ledger : Ledger) (service : String) : List (String × Int) :=
  ledger.entries.map fun (entry : Series × Int) => (entry.1.key service, entry.2)

end Ledger

end EventLink
