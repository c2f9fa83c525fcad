import EventLink.Handler
import EventLink.Reply.IdSource
import EventLink.Time.Duration
/-!
Replies that are waited for.

Every request that wants a reply goes out under an identifier, and the table remembers who takes the
reply to it.  Identifiers are drawn from a source until one turns up that is not in use; once a reply
was taken, its identifier may be handed out again.
-/
namespace EventLink

/-- Who takes a reply: a handler that is called with it, or the channel with a number. -/
inductive Recipient where
  | callback (handler : Handler)
  | channel (number : Nat)
  deriving DecidableEq, Repr

/-- What becomes of a reply: nobody waited for it, it was handed over, or its handler panicked. -/
inductive Resolution where
  | unknown
  | delivered
  | panicked
  deriving DecidableEq, Repr

namespace Resolution

/-- What becomes of a reply that goes to a recipient, if there is one. -/
def ofRecipient : Option Recipient → Resolution
  | none => unknown
  | some (.callback handler) => if handler.panics then panicked else delivered
  | some (.channel _) => delivered

/-- Whether a reply was waited for.  A handler that panics has been found all the same. -/
def isMatched : Resolution → Bool
  | unknown => false
  | delivered => true
  | panicked => true

end Resolution

/-- A recipient that waits under an identifier, since some time. -/
structure Waiter where
  id : String
  recipient : Recipient
  since : Nat
  deriving DecidableEq, Repr

/-- The recipients that wait, the source of identifiers, and how long a reply may take. -/
structure ReplyTable where
  waiters : List Waiter
  source : IdSource
  lifetime : Option Duration

namespace ReplyTable

/-- A table in which nobody waits yet. -/
def ofSource (source : IdSource) (lifetime : Option Duration) : ReplyTable :=
  ⟨[], source, lifetime⟩

def isWaiting (t : ReplyTable) (id : String) : Bool :=
  t.waiters.any fun (w : Waiter) => w.id == id

def size (t : ReplyTable) : Nat :=
  t.waiters.length

def ids (t : ReplyTable) : List String :=
  t.waiters.map Waiter.id

/-- The index of the first free identifier among so many of the stream. -/
def freeIndex (t : ReplyTable) : Nat → Nat → Option Nat
  | 0, _ => none
  | draws + 1, index =>
    if t.isWaiting (t.source.stream index) then t.freeIndex draws (index + 1) else some index

/-- The index of the next free identifier of the stream.  The search ends without one only if there is
none, however far the stream is followed. -/
def nextFree (t : ReplyTable) : Option Nat :=
  t.freeIndex (t.source.patience t.ids t.source.drawn) t.source.drawn

/-- Lets a recipient wait under the next free identifier of the stream. -/
def expect (t : ReplyTable) (now : Nat) (recipient : Recipient) : Option (String × ReplyTable) :=
  t.nextFree.map fun (index : Nat) =>
    let id := t.source.stream index
    (id, { t with
      waiters := t.waiters ++ [⟨id, recipient, now⟩]
      source := { t.source with drawn := index + 1 } })

def expectMany (t : ReplyTable) (recipient : Recipient) : Nat → List String × ReplyTable
  | 0 => ([], t)
  | count + 1 =>
    match t.expect 0 recipient with
    | none => ([], t)
    | some (id, next) =>
      let (ids, last) := next.expectMany recipient count
      (id :: ids, last)

def take (t : ReplyTable) (id : String) : Option Recipient × ReplyTable :=
  match t.waiters.find? fun (w : Waiter) => w.id == id with
  | some w =>
    (some w.recipient, { t with waiters := t.waiters.filter fun (other : Waiter) => other.id != id })
  | none => (none, t)

/-- Whether a reply takes too long. -/
def isExpired (t : ReplyTable) (now : Nat) (w : Waiter) : Bool :=
  match t.lifetime with
  | some lifetime => lifetime.nanos ≤ now - w.since
  | none => false

/-- Whether a recipient is not there any more: the other end of its channel is gone. -/
def isAbandoned (gone : Nat → Bool) (w : Waiter) : Bool :=
  match w.recipient with
  | .callback _ => false
  | .channel number => gone number

/-- Whether a sweep lets a recipient wait on. -/
def keeps (t : ReplyTable) (now : Nat) (gone : Nat → Bool) (w : Waiter) : Bool :=
  !t.isExpired now w && !isAbandoned gone w

/-- Takes out the recipients whose replies take too long and those that are not there any more. -/
def sweep (t : ReplyTable) (now : Nat) (gone : Nat → Bool) : List Waiter × ReplyTable :=
  (t.waiters.filter fun (w : Waiter) => !t.keeps now gone w,
    { t with waiters := t.waiters.filter fun (w : Waiter) => t.keeps now gone w })

end ReplyTable

end EventLink
