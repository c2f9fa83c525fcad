import EventLink.Frame.Incoming
import EventLink.Loop.State
/-!
The reactions of the event loop.

A new connection is established by writing the frames that waited and by subscribing to every topic;
only then is it online.  A loss, whatever brings it about, puts the next attempt off by the next
delay.  Frames that could not be written wait for another connection, at the place in the order of
frames that is theirs.
-/
namespace EventLink.Loop

def beginAttempt (loop : Loop) : Turn :=
  ⟨{ loop with attempting := true }, [.measured .attempted, .attempt]⟩

/-- What a loss means to those who think that the connection is online. -/
def closingEffects (loop : Loop) : List Effect :=
  if loop.status.isOnline then
    .measured (.status .offline) :: Effect.ofCalls (loop.subscriptions.firing .closed)
  else []

/-- The connection, or the attempt to get one, is lost.  Nothing happens if the next attempt was put
off already. -/
def lose (loop : Loop) (now : Nat) : Turn :=
  match loop.reconnect with
  | some _ => ⟨loop, []⟩
  | none =>
    let (delay, backoff) := loop.backoff.take
    let released := if loop.isConnected then [Effect.released] else []
    ⟨{ loop with
        status := .offline
        writer := none
        listening := false
        attempting := false
        heartbeat := loop.heartbeat.stop.2
        backoff := backoff
        reconnect := some (Clock.afterOrFar now delay) },
      released ++ loop.closingEffects ++ [.armed delay]⟩

/-- Writes a frame, if there is a connection and it takes it. -/
def write (loop : Loop) (frame : OutgoingFrame) : Option Turn :=
  (loop.writer.bind Writer.spend).map fun (writer : Writer) =>
    ⟨{ loop with writer := some writer }, [.wrote frame, .measured (.sent frame.kind)]⟩

/-- Writes frames until one fails, and returns those that were not written. -/
def writeAll (loop : Loop) : List OutgoingFrame → Turn × List OutgoingFrame
  | [] => (⟨loop, []⟩, [])
  | frame :: rest =>
    match loop.write frame with
    | none => (⟨loop, []⟩, frame :: rest)
    | some turn =>
      let (later, unsent) := turn.loop.writeAll rest
      (later.after turn.effects, unsent)

def subscribeFrames (loop : Loop) : List OutgoingFrame :=
  loop.subscriptions.topics.map OutgoingFrame.subscribe

/-- What those who wait for a connection get to know when it is online. -/
def openingEffects (loop : Loop) : List Effect :=
  [.measured .opened, .measured (.status .online)] ++
    Effect.ofCalls (loop.subscriptions.firing .opened)

/-- The connection is online.  The heartbeat starts after the watchers were called. -/
def goOnline (loop : Loop) (now : Nat) : Verdict :=
  match loop.heartbeat.start? now with
  | some (_, heartbeat) =>
    .stays ⟨{ loop with status := .online, heartbeat := heartbeat }, loop.openingEffects⟩
  | none => .crashes (loop.openingEffects ++ [.released])

/-- Subscribes to every topic on a new connection.  With all of this written it is online. -/
def resubscribe (loop : Loop) (now : Nat) : Verdict :=
  let (subscribed, missing) := loop.writeAll loop.subscribeFrames
  if missing.isEmpty then (subscribed.loop.goOnline now).after subscribed.effects
  else .loses subscribed

def establish (loop : Loop) (now : Nat) : Verdict :=
  let (waiting, outbox) := loop.outbox.takeAll
  let (flushed, unsent) := { loop with outbox := outbox }.writeAll waiting
  if unsent.isEmpty then (flushed.loop.resubscribe now).after flushed.effects
  else
    .loses ⟨{ flushed.loop with outbox := flushed.loop.outbox.putBack unsent }, flushed.effects⟩

def connected (loop : Loop) (now : Nat) (budget : Option Nat) : Verdict :=
  { loop with
    attempting := false
    writer := some ⟨budget⟩
    listening := true
    backoff := loop.backoff.reset }.establish now

/-- Sends an event: at once if the connection is online, or later. -/
def send (loop : Loop) (frame : OutgoingFrame) : Verdict :=
  let kept := { loop with outbox := loop.outbox.add frame }
  if loop.status.isOnline then
    match loop.write frame with
    | some turn => .stays turn
    | none => .loses ⟨kept, []⟩
  else .stays ⟨kept, [.measured .buffered]⟩

/-- Tells the server about a topic while the connection is online. -/
def announce (loop : Loop) (topic : String) : Verdict :=
  match loop.write (.subscribe topic) with
  | some turn => .stays turn
  | none => .loses ⟨loop, []⟩

def obey (loop : Loop) (now : Nat) : Command → Verdict
  | .subscribe topic handler =>
    let noted := { loop with subscriptions := (loop.subscriptions.addHandler topic handler).2 }
    if loop.status.isOnline then noted.announce topic else .stays ⟨noted, []⟩
  | .watch event call =>
    let noted := { loop with subscriptions := loop.subscriptions.addWatcher event call }
    let calls := if event = .opened ∧ loop.status.isOnline then call.makeGuarded else []
    .stays ⟨noted, Effect.ofCalls calls⟩
  | .emit topic data none => loop.send (.event topic data none)
  | .emit topic data (some recipient) =>
    match loop.replies.expect now recipient with
    | some (id, replies) => { loop with replies := replies }.send (.event topic data (some id))
    | none => .spins
  | .summarize => .stays ⟨loop, [.summarized loop.summary]⟩

/-- Hands an incoming frame over to those who want it. -/
def deliver (loop : Loop) : IncomingFrame → Turn
  | .event topic data =>
    let calls := loop.subscriptions.delivery topic data
    let handlers := loop.subscriptions.count topic
    ⟨loop, Effect.ofCalls calls ++ [.measured (.delivered topic handlers)]⟩
  | .reply id data =>
    let (recipient, replies) := loop.replies.take id
    ⟨{ loop with replies := replies },
      (recipient.map (Effect.ofReply data)).getD [] ++
        [.measured (.replied (Resolution.ofRecipient recipient).isMatched)]⟩

/-- Takes a text that may or may not be a frame. -/
def receiveText (loop : Loop) (text : String) : Turn :=
  match IncomingFrame.decode text with
  | .ok frame => loop.deliver frame
  | .error _ => ⟨loop, [.measured .malformed]⟩

def receive (loop : Loop) : Message → Verdict
  | .text content => .stays (loop.receiveText content)
  | .binary bytes =>
    match String.fromUTF8? ⟨bytes.toArray⟩ with
    | some content => .stays (loop.receiveText content)
    | none => .stays ⟨loop, [.measured .malformed]⟩
  | .control => .stays ⟨loop, []⟩
  | .close => .loses ⟨loop, []⟩
  | .failure => .loses ⟨loop, []⟩
  | .ended => .loses ⟨loop, []⟩

def sweepReplies (loop : Loop) (now : Nat) (gone : Nat → Bool) : Turn :=
  let (swept, replies) := loop.replies.sweep now gone
  ⟨{ loop with replies := replies, sweep := loop.sweep.take now }, swept.filterMap Effect.ofSwept⟩

def beat (loop : Loop) (now : Nat) : Verdict :=
  ({ loop with heartbeat := loop.heartbeat.take now }.send
      (.event heartbeatTopic none none)).after [.measured .heartbeat]

/-- Stops, after the closing handshake of the connection if there is one. -/
def stop (loop : Loop) : Verdict :=
  .stops
    ((if loop.writer.isSome then [.closing] else []) ++
      if loop.isConnected then [.released] else [])

/-- Reacts to an event.  What cannot happen in the present state is passed over: there is no result
of an attempt that is not under way, no message without a connection, and no tick of a timer that
does not run. -/
def react (loop : Loop) (now : Nat) (gone : Nat → Bool) : LoopEvent → Verdict
  | .command command => loop.obey now command
  | .handlesGone => loop.stop
  | .connected budget =>
    if loop.attempting then loop.connected now budget else .stays ⟨loop, []⟩
  | .connectFailed =>
    if loop.attempting then .loses ⟨{ loop with attempting := false }, []⟩ else .stays ⟨loop, []⟩
  | .message message => if loop.listening then loop.receive message else .stays ⟨loop, []⟩
  | .heartbeatDue => if loop.heartbeat.isRunning then loop.beat now else .stays ⟨loop, []⟩
  | .reconnectDue =>
    if loop.reconnect.isSome then .stays { loop with reconnect := none }.beginAttempt
    else .stays ⟨loop, []⟩
  | .sweepDue => .stays (loop.sweepReplies now gone)
  | .writeBudget budget =>
    .stays ⟨{ loop with writer := loop.writer.map fun (_ : Writer) => ⟨budget⟩ }, []⟩

/-- What follows from a verdict.  A loss is dealt with in the state in which it was found out. -/
def conclude (now : Nat) : Verdict → Outcome
  | .stays turn => ⟨.running turn.loop, turn.effects⟩
  | .loses turn =>
    let loss := (turn.loop.lose now).after turn.effects
    ⟨.running loss.loop, loss.effects⟩
  | .stops effects => ⟨.finished, effects⟩
  | .crashes effects => ⟨.crashed, effects⟩
  | .spins => ⟨.spinning, []⟩

/-- Reacts to an event to the end. -/
def step (loop : Loop) (now : Nat) (gone : Nat → Bool) (event : LoopEvent) : Outcome :=
  conclude now (loop.react now gone event)

/-- Starts a loop: the first attempt to connect begins at once. -/
def start (config : LoopConfig) (now : Nat) : Outcome :=
  match initial? config now with
  | some loop => conclude now (.stays loop.beginAttempt)
  | none => ⟨.crashed, []⟩

/-- When the next attempt to connect is due, if it was put off. -/
def reconnectAt? (loop : Loop) : Option Nat :=
  loop.reconnect.map Clock.wakeUp

/-- The timers of the loop and the times when they fire next. -/
def timers (loop : Loop) : List (Nat × LoopEvent) :=
  (loop.heartbeat.firesAt?.map fun (time : Nat) => (time, LoopEvent.heartbeatDue)).toList ++
    (loop.reconnectAt?.map fun (time : Nat) => (time, LoopEvent.reconnectDue)).toList ++
    [(loop.sweep.firesAt, LoopEvent.sweepDue)]

end EventLink.Loop
