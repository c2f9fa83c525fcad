import EventLink.Reply.Table
/-!
A reply table with everything that belongs to its recipients: the receiving ends of the channels, a
clock, and the calls of handlers.
-/
namespace EventLink

open Json (Value)

/-- The receiving end of a channel: nothing came yet, a value waits, or nothing will come. -/
inductive Mail where
  | empty
  | full (data : Value)
  | closed
  deriving Repr

/-- The mail of a channel that nothing can be sent through any more. -/
def Mail.close : Mail → Mail
  | empty => closed
  | full data => full data
  | closed => closed

/-- A receiving end under the name that it was asked for with. -/
structure Mailbox where
  name : String
  channel : Nat
  mail : Mail
  deriving Repr

/-- What looking into a mailbox finds. -/
inductive Received where
  | data (value : Value)
  | empty
  | closed
  | noChannel
  deriving Repr

/-- A reply table and what belongs to its recipients. -/
structure ReplySession where
  table : ReplyTable
  now : Nat
  mailboxes : List Mailbox
  channels : Nat

namespace ReplySession

/-- A session in which time has not begun to pass. -/
def ofTable (table : ReplyTable) : ReplySession :=
  ⟨table, 0, [], 0⟩

def isGone (s : ReplySession) (channel : Nat) : Bool :=
  !s.mailboxes.any fun (box : Mailbox) => box.channel == channel

def expect (s : ReplySession) (recipient : Recipient) : Option String × ReplySession :=
  match s.table.expect s.now recipient with
  | some (id, table) => (some id, { s with table := table })
  | none => (none, s)

def callback (s : ReplySession) (handler : Handler) : Option String × ReplySession :=
  s.expect (.callback handler)

/-- Lets a new channel wait, which replaces another one of the same name. -/
def channel (s : ReplySession) (name : String) : Option String × ReplySession :=
  let others := s.mailboxes.filter fun (box : Mailbox) => box.name != name
  { s with
    mailboxes := ⟨name, s.channels, .empty⟩ :: others
    channels := s.channels + 1 }.expect (.channel s.channels)

/-- Gives up the receiving end of a channel.  True if there was one. -/
def hangUp (s : ReplySession) (name : String) : Bool × ReplySession :=
  (s.mailboxes.any fun (box : Mailbox) => box.name == name,
    { s with mailboxes := s.mailboxes.filter fun (box : Mailbox) => box.name != name })

def putMail (s : ReplySession) (channel : Nat) (change : Mail → Mail) : ReplySession :=
  { s with
    mailboxes := s.mailboxes.map fun (box : Mailbox) =>
      if box.channel = channel then { box with mail := change box.mail } else box }

/-- Looks into a mailbox.  A value can be taken once. -/
def receive (s : ReplySession) (name : String) : Received × ReplySession :=
  match s.mailboxes.find? fun (box : Mailbox) => box.name == name with
  | none => (.noChannel, s)
  | some box =>
    match box.mail with
    | .empty => (.empty, s)
    | .closed => (.closed, s)
    | .full data => (.data data, s.putMail box.channel fun (_ : Mail) => .closed)

/-- Hands over a reply.  The calls that this leads to come with what becomes of it. -/
def resolve (s : ReplySession) (id : String) (data : Value) :
    Resolution × List Call × ReplySession :=
  let (recipient, table) := s.table.take id
  let resolved := { s with table := table }
  match recipient with
  | none => (.ofRecipient recipient, [], resolved)
  | some (.callback handler) =>
    (.ofRecipient recipient, (Call.makeAll [⟨handler, some data⟩]).1, resolved)
  | some (.channel number) =>
    (.ofRecipient recipient, [], resolved.putMail number fun (_ : Mail) => .full data)

/-- Sweeps the table, and counts the recipients that do not wait any more. -/
def sweep (s : ReplySession) : Nat × ReplySession :=
  let (swept, table) := s.table.sweep s.now s.isGone
  let closed := swept.foldl
    (fun (s : ReplySession) (w : Waiter) =>
      match w.recipient with
      | .callback _ => s
      | .channel number => s.putMail number Mail.close)
    { s with table := table }
  (swept.length, closed)

def pass (s : ReplySession) (ms : Nat) : ReplySession :=
  { s with now := s.now + ms * 1000000 }

end ReplySession

end EventLink
