import EventLink.Loop.Effect
import EventLink.Loop.Outbox
import EventLink.Time.Backoff
import EventLink.Time.Heartbeat
/-!
The state of the event loop.

The loop owns the connection and everything that the client knows.  Its parts are independent of
each other here; that only some of their combinations occur is a property of its reactions.
-/
namespace EventLink

/-- The half of a connection that is written to, and how many more writes it takes; none if there is
no limit. -/
structure Writer where
  budget : Option Nat
  deriving DecidableEq, Repr

/-- The writer after a write, if it takes one. -/
def Writer.spend (writer : Writer) : Option Writer :=
  match writer.budget with
  | none => some writer
  | some 0 => none
  | some (n + 1) => some ⟨some n⟩

/-- Everything that the event loop keeps between two reactions.  The two halves of a connection are
kept apart: `listening` says that the half is there from which messages come.  An attempt to connect
that was put off has a time; `attempting` says that one is under way. -/
structure Loop where
  status : LinkStatus
  subscriptions : Subscriptions
  replies : ReplyTable
  outbox : Outbox OutgoingFrame
  backoff : Backoff
  heartbeat : Heartbeat
  sweep : Ticker
  writer : Option Writer
  listening : Bool
  attempting : Bool
  reconnect : Option Nat

/-- The longest time between two sweeps. -/
def longestSweep : Duration := Duration.ofSecs 30

/-- The time between two sweeps: as long as a reply may take, within bounds. -/
def sweepPeriod (lifetime : Option Duration) : Duration :=
  let period :=
    match lifetime with
    | some lifetime => Duration.shorter lifetime longestSweep
    | none => longestSweep
  Duration.longer period (Duration.ofMillis 1)

/-- What a loop is started with. -/
structure LoopConfig where
  backoff : Backoff
  heartbeat : Duration
  source : IdSource
  replyLifetime : Option Duration

namespace Loop

/-- A loop that has done nothing yet; none if its sweeps lie beyond the times of the clock. -/
def initial? (config : LoopConfig) (now : Nat) : Option Loop :=
  (Ticker.start? now (sweepPeriod config.replyLifetime)).map fun (sweep : Ticker) =>
    { status := .offline
      subscriptions := Subscriptions.empty
      replies := ReplyTable.ofSource config.source config.replyLifetime
      outbox := Outbox.empty
      backoff := config.backoff
      heartbeat := Heartbeat.ofPeriod config.heartbeat
      sweep := sweep
      writer := none
      listening := false
      attempting := false
      reconnect := none }

/-- Whether the loop holds any half of a connection. -/
def isConnected (loop : Loop) : Bool :=
  loop.writer.isSome || loop.listening

def summary (loop : Loop) : Summary :=
  ⟨loop.status, loop.replies.size, loop.outbox.size⟩

end Loop

/-- What became of the loop: it runs, it has stopped, it panicked, or it looks for a free identifier
without end. -/
inductive Task where
  | running (loop : Loop)
  | finished
  | crashed
  | spinning

/-- Whether a loop still holds the end of the queue from which it takes commands. -/
def Task.isAlive : Task → Bool
  | running _ => true
  | spinning => true
  | finished => false
  | crashed => false

/-- The result of a reaction, and its effects in their order. -/
structure Outcome where
  task : Task
  effects : List Effect

/-- A reaction, or a part of one, after which the loop goes on. -/
structure Turn where
  loop : Loop
  effects : List Effect

/-- A turn with effects that come before its own. -/
def Turn.after (turn : Turn) (effects : List Effect) : Turn :=
  { turn with effects := effects ++ turn.effects }

/-- How a reaction ends: the loop goes on as it is, or it finds out at the end of a turn that it has
lost the connection or the attempt to get one, or it does not go on. -/
inductive Verdict where
  | stays (turn : Turn)
  | loses (turn : Turn)
  | stops (effects : List Effect)
  | crashes (effects : List Effect)
  | spins

/-- A verdict after a turn with effects of its own. -/
def Verdict.after (effects : List Effect) : Verdict → Verdict
  | stays turn => stays (turn.after effects)
  | loses turn => loses (turn.after effects)
  | stops later => stops (effects ++ later)
  | crashes later => crashes (effects ++ later)
  | spins => spins

end EventLink
