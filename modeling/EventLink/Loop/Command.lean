import EventLink.LinkStatus
import EventLink.Reply.Table
import EventLink.Subscriptions
/-!
What the users of a client ask of its event loop.

Handles put commands into one queue, and the loop takes them out in their order.  A handler that
runs may ask for commands as well; they go through the same queue.
-/
namespace EventLink

open Json (Value)

/-- What the loop tells about itself: how many replies it waits for, and how many frames wait to be
sent. -/
structure Summary where
  status : LinkStatus
  waiting : Nat
  unsent : Nat
  deriving DecidableEq, Repr

/-- A command for the event loop. -/
inductive Command where
  | subscribe (topic : String) (handler : Handler)
  | watch (event : LinkEvent) (call : Call)
  | emit (topic : String) (data : Option Value) (recipient : Option Recipient)
  | summarize
  deriving Repr

namespace Command

/-- Registers a handler under a name.  Under a reserved name it is called with null. -/
def on (name : String) (handler : Handler) : Command :=
  match Interest.ofName name with
  | .topic topic => subscribe topic handler
  | .link event => watch event ⟨handler, some .null⟩

/-- Registers a handler that is called without argument when a connection gets online. -/
def onOpened (handler : Handler) : Command :=
  watch .opened ⟨handler, none⟩

/-- Registers a handler that is called without argument when the connection is lost after that. -/
def onClosed (handler : Handler) : Command :=
  watch .closed ⟨handler, none⟩

end Command

/-- What a handler asks of the client while it runs: first to emit its own name, then to register a
plain handler named after it. -/
def Handler.commands (handler : Handler) : List Command :=
  (handler.thenEmit.map fun (topic : String) =>
      Command.emit topic (some (.string handler.name)) none).toList ++
    (handler.thenOn.map fun (topic : String) =>
      Command.on topic (Handler.plain (handler.name ++ "+"))).toList

end EventLink
