import EventLink.Client.Settings
import EventLink.Loop.Step
import EventLink.Reply.Shape
/-!
A client in a simulated world: a clock that moves only when told to, a server that follows a script,
and users who hold handles of the client.

The world keeps what the event loop does not know of: the queue of commands, the handles, and the
requests whose callers wait for a reply.  What happens is noted down until it is reported.
-/
namespace EventLink

open Json (Value)

/-- Something that the server sees. -/
inductive WireEvent where
  | connect (url : String)
  | text (frame : String)
  | close
  | drop
  deriving DecidableEq, Repr

/-- A request whose caller waits: the channel of the reply, the time when the caller gives up, and
the shape that the reply should have. -/
structure Request where
  name : String
  channel : Nat
  deadline : Option Nat
  shape : ReplyShape
  deriving Repr

/-- How a request ended.  The name may have been given to several requests, the channel to one. -/
structure Finished where
  name : String
  channel : Nat
  result : Except ClientError Value

/-- What happened since the last report. -/
structure Notes where
  wire : List WireEvent
  calls : List Call
  finished : List Finished

def Notes.empty : Notes :=
  ⟨[], [], []⟩

/-- A client and the world around it.  A handle that is gone keeps its number.  `known` lists the
names of requests that may be cancelled, with their channels. -/
structure World where
  client : Client
  clock : Nat
  task : Task
  queue : List Command
  handles : List Bool
  requests : List Request
  known : List (String × Nat)
  channels : Nat
  ledger : Ledger
  notes : Notes

namespace World

def hasHandle (w : World) (handle : Nat) : Bool :=
  w.handles[handle]? = some true

def anyHandle (w : World) : Bool :=
  w.handles.any id

/-- Whether nobody waits at the other end of a channel. -/
def isGone (w : World) (channel : Nat) : Bool :=
  !w.requests.any fun (r : Request) => r.channel == channel

def noteWire (w : World) (event : WireEvent) : World :=
  { w with notes := { w.notes with wire := w.notes.wire ++ [event] } }

def noteFinished (w : World) (name : String) (channel : Nat)
    (result : Except ClientError Value) : World :=
  { w with notes := { w.notes with finished := w.notes.finished ++ [⟨name, channel, result⟩] } }

/-- Ends the request that waits at a channel, if one does. -/
def finish (w : World) (channel : Nat) (result : ReplyShape → Except ClientError Value) : World :=
  match w.requests.find? fun (r : Request) => r.channel == channel with
  | none => w
  | some request =>
    { w with requests := w.requests.filter fun (r : Request) => r.channel != channel }.noteFinished
      request.name request.channel (result request.shape)

/-- A reply as the caller of a request gets it. -/
def replyResult (data : Value) (shape : ReplyShape) : Except ClientError Value :=
  match shape.fit data with
  | .ok v => .ok v
  | .error misfit => .error misfit.error

/-- Calls a handler.  What it asks for goes through a handle, if there is one. -/
def call (w : World) (c : Call) : World :=
  let asked := if w.anyHandle then c.handler.commands else []
  { w with
    queue := w.queue ++ asked
    notes := { w.notes with calls := w.notes.calls ++ [c] } }

/-- Lets an effect of the event loop happen. -/
def perform (w : World) : Effect → World
  | .attempt => w.noteWire (.connect w.client.endpoint)
  | .wrote frame => w.noteWire (.text frame.encode)
  | .closing => w.noteWire .close
  | .released => w.noteWire .drop
  | .called c => w.call c
  | .replied channel data => w.finish channel (replyResult data)
  | .abandoned channel => w.finish channel fun (_ : ReplyShape) => .error .clientClosed
  | .measured m => { w with ledger := w.ledger.record m }
  | .armed _ => w
  | .summarized _ => w

def closeRequests (w : World) : World :=
  w.requests.foldl
    (fun (w : World) (r : Request) => w.finish r.channel fun (_ : ReplyShape) => .error .clientClosed)
    w

/-- What a reaction of the event loop leads to.  A loop that panicked drops its queue, and with it
all channels. -/
def accept (w : World) (outcome : Outcome) : World :=
  let after := outcome.effects.foldl perform { w with task := outcome.task }
  match outcome.task with
  | .crashed => { after with queue := [] }.closeRequests
  | _ => after

/-- Lets the event loop react to an event. -/
def feed (w : World) (event : LoopEvent) : World :=
  match w.task with
  | .running loop => w.accept (loop.step w.clock w.isGone event)
  | _ => w

/-- Lets the event loop take so many commands out of the queue, if there are as many.  A loop that
looks for a free identifier without end leaves the others where they are. -/
def takeCommands : Nat → World → World
  | 0, w => w
  | count + 1, w =>
    match w.task, w.queue with
    | .running _, command :: rest =>
      takeCommands count ({ w with queue := rest }.feed (.command command))
    | _, _ => w

/-- The commands that a call may lead to. -/
def callDemand (c : Call) : Nat :=
  c.handler.commands.length

/-- A command, and the commands that it may lead to through the handler that it registers.  The
handlers that such a handler registers in turn ask for nothing. -/
def commandDemand : Command → Nat
  | .watch _ c => 1 + callDemand c
  | _ => 1

/-- An upper bound of the commands to come: those that wait with what they may lead to, and what the
handlers for the loss of an open connection may ask for.  Only one connection can be lost before the
clock moves again. -/
def demand (w : World) : Nat :=
  let closers :=
    match w.task with
    | .running loop => if loop.status.isOnline then loop.subscriptions.onClosed else []
    | _ => []
  (w.queue.map commandDemand ++ closers.map callDemand).foldl (· + ·) 0

/-- Lets the event loop take out commands until it waits. -/
def takeAll (w : World) : World :=
  takeCommands w.demand w

/-- Lets everything happen that happens before the clock moves again.  When no handle is left,
neither with a user nor with a request, the event loop stops. -/
def settle (w : World) : World :=
  let idle := w.takeAll
  if idle.anyHandle || !idle.requests.isEmpty then idle else idle.feed .handlesGone

/-- A client that was just started, held by one handle. -/
def ofClient (client : Client) : World :=
  let w : World :=
    { client := client
      clock := 0
      task := .finished
      queue := []
      handles := [true]
      requests := []
      known := []
      channels := 0
      ledger := Ledger.empty
      notes := Notes.empty }
  (w.accept (Loop.start client.config 0)).settle

/-- Something that happens at a time of its own. -/
inductive Alarm where
  | timer (event : LoopEvent)
  | timeout (channel : Nat)

/-- What will happen by itself, and when. -/
def alarms (w : World) : List (Nat × Alarm) :=
  let timers :=
    match w.task with
    | .running loop =>
      loop.timers.map fun (timer : Nat × LoopEvent) => (timer.1, Alarm.timer timer.2)
    | _ => []
  let timeouts := w.requests.filterMap fun (r : Request) =>
    r.deadline.map fun (time : Nat) => (time, Alarm.timeout r.channel)
  timers ++ timeouts

/-- The earliest of several alarms, the first of them if several are equally early. -/
def earliest : List (Nat × Alarm) → Option (Nat × Alarm)
  | [] => none
  | alarm :: rest =>
    match earliest rest with
    | none => some alarm
    | some other => if alarm.1 ≤ other.1 then some alarm else some other

def ring (w : World) (alarm : Nat × Alarm) : World :=
  let now := { w with clock := max w.clock alarm.1 }
  match alarm.2 with
  | .timer event => (now.feed event).settle
  | .timeout channel => (now.finish channel fun (_ : ReplyShape) => .error .timeout).settle

/-- Lets at most so many alarms go off that are due up to a time. -/
def ringUntil (time : Nat) : Nat → World → World
  | 0, w => w
  | count + 1, w =>
    match earliest w.alarms with
    | none => w
    | some alarm => if alarm.1 ≤ time then ringUntil time count (w.ring alarm) else w

/-- Lets time pass.  A timer goes off at most once per millisecond, and a request times out once. -/
def pass (w : World) (ms : Nat) : World :=
  let time := w.clock + ms * 1000000
  { ringUntil time (3 * (ms + 2) + w.requests.length) w with clock := time }

end World

end EventLink
