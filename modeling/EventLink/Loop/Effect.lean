import EventLink.Loop.Command
import EventLink.Telemetry.Ledger
/-!
What comes into the event loop, and what goes out of it.

The loop reacts to one event at a time.  Everything that it does to the world outside is an effect,
and the effects of a reaction are listed in the order in which they happen.
-/
namespace EventLink

open Json (Value)

/-- A message from the connection, or the end of it.  Control messages ask for nothing. -/
inductive Message where
  | text (content : String)
  | binary (bytes : List UInt8)
  | control
  | close
  | failure
  | ended
  deriving DecidableEq, Repr

/-- Something that the loop reacts to. -/
inductive LoopEvent where
  /-- The next command of the queue. -/
  | command (command : Command)
  /-- No handle is left, and the queue is empty. -/
  | handlesGone
  /-- An attempt to connect succeeded; so many writes will succeed, or any number of them. -/
  | connected (budget : Option Nat)
  /-- An attempt to connect failed. -/
  | connectFailed
  | message (message : Message)
  | heartbeatDue
  | reconnectDue
  | sweepDue
  /-- From now on so many writes will succeed, or any number of them. -/
  | writeBudget (budget : Option Nat)
  deriving Repr

/-- Something that the loop does. -/
inductive Effect where
  /-- An attempt to connect begins. -/
  | attempt
  /-- A frame was written to the connection. -/
  | wrote (frame : OutgoingFrame)
  /-- The closing handshake of a connection that is not needed any more. -/
  | closing
  /-- The connection was given up. -/
  | released
  | called (call : Call)
  /-- A reply was handed over to a channel. -/
  | replied (channel : Nat) (data : Value)
  /-- Nothing will come through a channel any more. -/
  | abandoned (channel : Nat)
  | measured (measurement : Measurement)
  /-- The next attempt to connect was put off. -/
  | armed (delay : Duration)
  | summarized (summary : Summary)
  deriving Repr

namespace Effect

def ofCalls (calls : List Call) : List Effect :=
  calls.map called

/-- A reply on its way to its recipient.  A handler is called under guard. -/
def ofReply (data : Value) : Recipient → List Effect
  | .callback handler => ofCalls (Call.makeGuarded ⟨handler, some data⟩)
  | .channel number => [replied number data]

/-- A recipient that does not wait any more: its channel, if it has one, learns that nothing will
come. -/
def ofSwept (w : Waiter) : Option Effect :=
  match w.recipient with
  | .callback _ => none
  | .channel number => some (abandoned number)

end Effect

end EventLink
