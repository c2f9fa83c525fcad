import EventLink.Simulation.World
/-!
Scripts: what the server and the users do, step by step, and what can be observed after each step.
-/
namespace EventLink

open Json (Value)

/-- One step of a script. -/
inductive Action where
  /-- The server accepts the connection, which will take so many writes, or any number of them. -/
  | accept (budget : Option Nat)
  | reject
  | deliver (messages : List Message)
  | failWrites (budget : Option Nat)
  | on (handle : Nat) (topic : String) (handler : Handler)
  | onOpen (handle : Nat) (handler : Handler)
  | onClose (handle : Nat) (handler : Handler)
  | emit (handle : Nat) (topic : String) (data : Option Value)
  | emitCallback (handle : Nat) (topic : String) (data : Option Value) (handler : Handler)
  | request (handle : Nat) (topic name : String) (data : Option Value) (shape : ReplyShape)
  | clone (handle : Nat)
  | url (handle : Nat)
  | diagnostic (handle : Nat)
  | drop (handle : Nat)
  | cancel (name : String)
  | pass (ms : Nat)
  | shutdown
  deriving Repr

/-- What a step answers. -/
inductive Answer where
  | nothing
  | done
  | notConnected
  | noHandle
  | failed (error : ClientError)
  | number (n : Nat)
  | flag (b : Bool)
  | text (s : String)
  deriving DecidableEq, Repr

/-- What a user sees of the client: nothing without a handle, an error once the loop has stopped, and
no answer from a loop that takes no commands. -/
inductive ClientView where
  | noHandle
  | closed
  | silent
  | live (summary : Summary)
  deriving DecidableEq, Repr

/-- What can be observed after a step. -/
structure Report where
  answer : Answer
  millis : Nat
  wire : List WireEvent
  calls : List Call
  finished : List Finished
  view : ClientView

namespace World

def isAttempting (w : World) : Bool :=
  match w.task with
  | .running loop => loop.attempting
  | _ => false

def isConnected (w : World) : Bool :=
  match w.task with
  | .running loop => loop.isConnected
  | _ => false

/-- Lets the server do something, if the world is ready for it. -/
def serve (w : World) (ready : Bool) (act : World → World) : Answer × World :=
  if ready then (.done, (act w).settle) else (.notConnected, w)

/-- Delivers messages one after another.  Those that are left when the connection is lost are lost
with it. -/
def deliverAll (w : World) : List Message → World
  | [] => w
  | message :: rest =>
    if w.isConnected then deliverAll (w.feed (.message message)).takeAll rest else w

def submit (w : World) (handle : Nat) (command : Command) : Answer × World :=
  if !w.hasHandle handle then (.noHandle, w)
  else if !w.task.isAlive then (.failed .clientClosed, w)
  else (.nothing, { w with queue := w.queue ++ [command] }.settle)

def answer (w : World) (handle : Nat) (text : String) : Answer × World :=
  (if w.hasHandle handle then .text text else .noHandle, w)

/-- When a request that begins now is given up. -/
def deadline? (w : World) : Option Nat :=
  w.client.requestTimeout.map fun (limit : Duration) =>
    Clock.wakeUp (Clock.afterOrFar w.clock limit)

/-- Begins a request.  Its caller starts to wait before the event loop gets to see it, and gives up
at once if there is no time to wait. -/
def begin (w : World) (topic name : String) (data : Option Value) (shape : ReplyShape) : World :=
  let channel := w.channels
  let noted :=
    { w with
      channels := channel + 1
      known := (name, channel) :: w.known.filter fun (k : String × Nat) => k.1 != name }
  if !w.task.isAlive then noted.noteFinished name channel (.error .clientClosed)
  else
    let sent := { noted with queue := w.queue ++ [Command.emit topic data (some (.channel channel))] }
    let deadline := w.deadline?
    if deadline.any fun (time : Nat) => time ≤ w.clock then
      sent.noteFinished name channel (.error .timeout)
    else { sent with requests := w.requests ++ [Request.mk name channel deadline shape] }

/-- Cancels a request, whether it has ended or not. -/
def cancel (w : World) (name : String) : Answer × World :=
  match w.known.lookup name with
  | none => (.flag false, w)
  | some channel =>
    (.flag true,
      { w with
        known := w.known.filter fun (k : String × Nat) => k.1 != name
        requests := w.requests.filter fun (r : Request) => r.channel != channel }.settle)

/-- Stops everything that runs.  Nobody gets to know how the requests ended. -/
def shutdown (w : World) : World :=
  let released := if w.isConnected then w.noteWire .drop else w
  { released with task := .finished, queue := [], requests := [], known := [] }

def act (w : World) : Action → Answer × World
  | .accept budget => w.serve w.isAttempting fun (w : World) => w.feed (.connected budget)
  | .reject => w.serve w.isAttempting fun (w : World) => w.feed .connectFailed
  | .deliver messages => w.serve w.isConnected fun (w : World) => w.deliverAll messages
  | .failWrites budget => w.serve w.isConnected fun (w : World) => w.feed (.writeBudget budget)
  | .on handle topic handler => w.submit handle (.on topic handler)
  | .onOpen handle handler => w.submit handle (.onOpened handler)
  | .onClose handle handler => w.submit handle (.onClosed handler)
  | .emit handle topic data => w.submit handle (.emit topic data none)
  | .emitCallback handle topic data handler =>
    w.submit handle (.emit topic data (some (.callback handler)))
  | .request handle topic name data shape =>
    if w.hasHandle handle then (.nothing, (w.begin topic name data shape).settle)
    else (.noHandle, w)
  | .clone handle =>
    if w.hasHandle handle then (.number w.handles.length, { w with handles := w.handles ++ [true] })
    else (.noHandle, w)
  | .url handle => w.answer handle w.client.endpoint
  | .diagnostic handle => w.answer handle w.client.diagnostic
  | .drop handle =>
    (.flag (w.hasHandle handle), { w with handles := w.handles.set handle false }.settle)
  | .cancel name => w.cancel name
  | .pass ms => (.nothing, w.pass ms)
  | .shutdown => (.nothing, w.shutdown)

def view (w : World) : ClientView :=
  if !w.anyHandle then .noHandle
  else
    match w.task with
    | .running loop => .live loop.summary
    | .spinning => .silent
    | .finished => .closed
    | .crashed => .closed

def insertFinished (f : Finished) : List Finished → List Finished
  | [] => [f]
  | other :: rest => if f.name ≤ other.name then f :: other :: rest else other :: insertFinished f rest

/-- Reports what happened, and starts new notes. -/
def report (w : World) (answer : Answer) : Report × World :=
  ({ answer := answer
     millis := w.clock / 1000000
     wire := w.notes.wire
     calls := w.notes.calls
     finished := w.notes.finished.foldr insertFinished []
     view := w.view },
    { w with notes := Notes.empty })

/-- Follows a script, and returns the reports of its steps and the world at its end. -/
def follow (w : World) : List Action → List Report × World
  | [] => ([], w)
  | action :: rest =>
    let (answer, acted) := w.act action
    let (report, noted) := acted.report answer
    let (reports, last) := noted.follow rest
    (report :: reports, last)

/-- Follows a script from the start of a client.  The first report is about the start. -/
def run (client : Client) (script : List Action) : List Report × World :=
  let (report, noted) := (World.ofClient client).report .nothing
  let (reports, last) := noted.follow script
  (report :: reports, last)

end World

end EventLink
