import EventLink.Proofs.Loop.Phase
/-!
Whom a reaction calls.

The loop calls code of its users for three reasons: a frame came in, the status of the connection
changed, or somebody who asks to be called when the connection is online does so while it is.  A
change of the status is told by the status before a reaction and the one after it, so that whoever
watches the connection is called in no other reaction.
-/
namespace EventLink

open Json (Value)

@[simp]
def Effect.call? : Effect → Option Call
  | .called call => some call
  | _ => none

def callsOf (effects : List Effect) : List Call :=
  effects.filterMap Effect.call?

/-- The call of a recipient that gets a reply.  A channel is none. -/
def Recipient.callsWith (data : Value) : Recipient → List Call
  | .callback handler => [⟨handler, some data⟩]
  | .channel _ => []

@[simp]
theorem callsOf_nil : callsOf [] = [] := rfl

@[simp]
theorem callsOf_append (first later : List Effect) :
    callsOf (first ++ later) = callsOf first ++ callsOf later :=
  List.filterMap_append

@[simp]
theorem callsOf_cons (effect : Effect) (later : List Effect) :
    callsOf (effect :: later) = effect.call?.toList ++ callsOf later := by
  unfold callsOf
  rw [List.filterMap_cons]
  cases effect.call? <;> rfl

@[simp]
theorem callsOf_ofCalls (calls : List Call) : callsOf (Effect.ofCalls calls) = calls := by
  induction calls with
  | nil => rfl
  | cons call rest ih => exact congrArg (call :: ·) ih

@[simp]
theorem callsOf_ofReply (data : Value) (recipient : Recipient) :
    callsOf (Effect.ofReply data recipient) = recipient.callsWith data := by
  cases recipient with
  | callback handler =>
    rw [Effect.ofReply, callsOf_ofCalls, Call.makeGuarded_eq]
    rfl
  | channel number => rfl

@[simp]
theorem callsOf_ofSwept (swept : List Waiter) : callsOf (swept.filterMap Effect.ofSwept) = [] := by
  induction swept with
  | nil => rfl
  | cons w rest ih =>
    cases h : w.recipient with
    | callback handler => simpa [Effect.ofSwept, h] using ih
    | channel number => simpa [Effect.ofSwept, h] using ih

@[simp]
theorem callsOf_ofWrite (frame : OutgoingFrame) : callsOf (Effect.ofWrite frame) = [] := rfl

@[simp]
theorem callsOf_writes (frames : List OutgoingFrame) :
    callsOf (frames.flatMap Effect.ofWrite) = [] := by
  induction frames with
  | nil => rfl
  | cons frame rest ih => rw [List.flatMap_cons, callsOf_append, ih, callsOf_ofWrite, List.nil_append]

/-- The change of the status that those who watch the connection are told about. -/
def LinkEvent.between? : LinkStatus → LinkStatus → Option LinkEvent
  | .offline, .online => some .opened
  | .online, .offline => some .closed
  | _, _ => none

@[simp]
theorem LinkEvent.between?_self (status : LinkStatus) : between? status status = none := by
  cases status <;> rfl

/-- The calls of those who watch the connection when its status changes. -/
def Subscriptions.callsBetween (s : Subscriptions) (before after : LinkStatus) : List Call :=
  match LinkEvent.between? before after with
  | some event => s.watchersOf event
  | none => []

@[simp]
theorem Subscriptions.callsBetween_self (s : Subscriptions) (status : LinkStatus) :
    s.callsBetween status status = [] := by
  cases status <;> rfl

@[simp]
theorem Subscriptions.watchersOf_addHandler (s : Subscriptions) (topic : String) (handler : Handler)
    (event : LinkEvent) : (s.addHandler topic handler).2.watchersOf event = s.watchersOf event := by
  cases event <;> rfl

@[simp]
theorem Subscriptions.firing_eq (s : Subscriptions) (event : LinkEvent) :
    s.firing event = s.watchersOf event :=
  Call.makeEachGuarded_eq _

namespace Loop

/-- The calls that a frame leads to: of the handlers of its topic, or of the callback that waits under
its identifier. -/
def callsFor (loop : Loop) : IncomingFrame → List Call
  | .event topic data =>
    (loop.subscriptions.handlersOf topic).map fun (handler : Handler) => ⟨handler, some data⟩
  | .reply id data => ((loop.replies.take id).1.map (Recipient.callsWith data)).getD []

/-- The calls that an event leads to by itself, whatever becomes of the connection. -/
def callsAt (loop : Loop) : LoopEvent → List Call
  | .command (.watch event call) => if event = .opened ∧ loop.status.isOnline then [call] else []
  | .message message =>
    match loop.listening, message.frame? with
    | true, some frame => loop.callsFor frame
    | _, _ => []
  | _ => []

variable {loop : Loop} {now : Nat} {gone : Nat → Bool} {event : LoopEvent} {verdict : Verdict}

@[simp]
theorem callsOf_deliver (frame : IncomingFrame) :
    callsOf (loop.deliver frame).effects = loop.callsFor frame := by
  cases frame with
  | event topic data => simp [deliver, Subscriptions.delivery, callsFor]
  | reply id data =>
    simp only [deliver, callsFor]
    cases (loop.replies.take id).1 <;> simp

@[simp]
theorem callsOf_openingEffects :
    callsOf loop.openingEffects = loop.subscriptions.watchersOf .opened := by
  simp [openingEffects]

theorem callsOf_closingEffects :
    callsOf loop.closingEffects =
      if loop.status.isOnline then loop.subscriptions.watchersOf .closed else [] := by
  unfold closingEffects
  split <;> simp

/-- A loss is told to those who think that the connection is online, and to nobody else. -/
theorem callsOf_lose (now : Nat) (unarmed : loop.reconnect = none) :
    callsOf (loop.lose now).effects = loop.subscriptions.callsBetween loop.status .offline := by
  have hreleased : callsOf (if loop.isConnected then [Effect.released] else []) = [] := by
    split <;> rfl
  simp only [lose, unarmed, callsOf_append, hreleased, callsOf_closingEffects]
  cases loop.status with
  | offline => rfl
  | online => exact List.append_nil _

theorem status_lose (now : Nat) (unarmed : loop.reconnect = none) :
    (loop.lose now).loop.status = .offline := by
  rw [lose, unarmed]

theorem Offers.callsAt {ready : Loop} {frame : OutgoingFrame} {effects : List Effect}
    (offers : loop.Offers now event ready frame effects) : loop.callsAt event = [] := by
  cases offers <;> rfl

theorem Offers.callsOf {ready : Loop} {frame : OutgoingFrame} {effects : List Effect}
    (offers : loop.Offers now event ready frame effects) : EventLink.callsOf effects = [] := by
  cases offers <;> rfl

theorem PassesOver.callsAt (h : loop.PassesOver event) : loop.callsAt event = [] := by
  cases event with
  | command command => exact absurd h id
  | message message =>
    have hdeaf : loop.listening = false := h
    simp [Loop.callsAt, hdeaf]
  | _ => rfl

theorem callsAt_of_frame?_eq_none {message : Message} (h : message.frame? = none) :
    loop.callsAt (.message message) = [] := by
  simp only [callsAt, h]
  cases loop.listening <;> rfl

end Loop

namespace Loop

/-- Whoever an event concerns is called only if no loss comes of it. -/
theorem Reacts.callsAt_of_loses {loop : Loop} {now : Nat} {gone : Nat → Bool} {event : LoopEvent}
    {turn : Turn} (h : loop.Reacts now gone event (.loses turn)) : loop.callsAt event = [] := by
  cases h with
  | unsent offers => exact offers.callsAt
  | @hungUp message listening last =>
    refine callsAt_of_frame?_eq_none ?_
    cases message <;> simp_all [Message.isLast, Message.frame?]
  | _ => rfl

end Loop

/-- The status at the end of a reaction that ends so, with the status before it.  A loop that panics has
just got online. -/
def Task.statusAfter (before : LinkStatus) : Task → LinkStatus
  | running loop => loop.status
  | crashed => .online
  | finished => before
  | spinning => before

namespace Loop

variable {loop : Loop} {now : Nat} {gone : Nat → Bool} {event : LoopEvent} {verdict : Verdict}

/-- A reaction calls those whom its event concerns, and those who watch the connection if its status
changes. -/
theorem Reacts.calls (h : loop.Reacts now gone event verdict) {phase : Phase}
    (hphase : loop.IsIn phase) :
    callsOf (conclude now verdict).effects =
      loop.callsAt event ++
        loop.subscriptions.callsBetween loop.status
          ((conclude now verdict).task.statusAfter loop.status) := by
  -- A reaction that leaves the status alone calls those whom the event concerns.
  have hsteady {turn : Turn} (hcalls : callsOf turn.effects = loop.callsAt event)
      (hstatus : turn.loop.status = loop.status) :
      callsOf (conclude now (.stays turn)).effects =
        loop.callsAt event ++
          loop.subscriptions.callsBetween loop.status
            ((conclude now (.stays turn)).task.statusAfter loop.status) := by
    simp only [conclude, Task.statusAfter, hcalls, hstatus, Subscriptions.callsBetween_self,
      List.append_nil]
  -- A reaction that finds out about a loss calls nobody before it does.
  have hlost {turn : Turn} (hverdict : verdict = .loses turn) (hcalls : callsOf turn.effects = [])
      (hstatus : turn.loop.status = loop.status)
      (hwatchers : turn.loop.subscriptions.watchersOf .closed =
        loop.subscriptions.watchersOf .closed) :
      callsOf (conclude now (.loses turn)).effects =
        loop.callsAt event ++
          loop.subscriptions.callsBetween loop.status
            ((conclude now (.loses turn)).task.statusAfter loop.status) := by
    have hunarmed := (hverdict ▸ h).unarmed_of_loses hphase
    have hevent := (hverdict ▸ h).callsAt_of_loses
    simp only [conclude, Turn.after, Task.statusAfter, callsOf_append, hcalls, hevent,
      List.nil_append, callsOf_lose now hunarmed, status_lose now hunarmed, hstatus]
    cases loop.status with
    | offline => rfl
    | online => exact hwatchers
  cases h with
  | passed impossible => exact hsteady impossible.callsAt.symm rfl
  | noted => exact hsteady rfl rfl
  | announced => exact hsteady rfl rfl
  | unannounced => exact hlost rfl rfl rfl (Subscriptions.watchersOf_addHandler _ _ _ _)
  | watched => exact hsteady (callsOf_ofCalls _) rfl
  | buffered offers offline =>
    obtain ⟨replies, heartbeat, _, rfl⟩ := offers.ready_eq
    refine hsteady ?_ rfl
    rw [callsOf_append, offers.callsOf, offers.callsAt]
    rfl
  | sent offers writer online =>
    obtain ⟨replies, heartbeat, _, rfl⟩ := offers.ready_eq
    refine hsteady ?_ rfl
    rw [callsOf_append, offers.callsOf, offers.callsAt]
    rfl
  | unsent offers online =>
    obtain ⟨replies, heartbeat, _, rfl⟩ := offers.ready_eq
    exact hlost rfl offers.callsOf rfl rfl
  | spun => simp [conclude, Task.statusAfter, callsAt]
  | summarized => exact hsteady rfl rfl
  | stopped =>
    have hnobody : callsOf (conclude now loop.stop).effects = [] := by
      simp only [stop, conclude, callsOf_append]
      split <;> split <;> rfl
    rw [hnobody]
    exact (loop.subscriptions.callsBetween_self loop.status).symm
  | flushCut => exact hlost rfl (callsOf_writes _) rfl rfl
  | replayCut => exact hlost rfl (callsOf_writes _) rfl rfl
  | opened budget attempting =>
    have hoffline := (hphase.connecting_of_attempting attempting).offline
    simp only [conclude, Task.statusAfter, callsOf_append, callsOf_writes, hoffline,
      callsOf_openingEffects]
    rfl
  | overflowed budget attempting =>
    have hoffline := (hphase.connecting_of_attempting attempting).offline
    simp only [conclude, Task.statusAfter, callsOf_append, callsOf_writes, hoffline,
      callsOf_openingEffects]
    exact List.append_nil _
  | refused => exact hlost rfl rfl rfl rfl
  | @received message frame listening carries =>
    have hevent : loop.callsAt (.message message) = loop.callsFor frame := by
      simp [callsAt, listening, carries]
    refine hsteady ((callsOf_deliver frame).trans hevent.symm) ?_
    cases frame <;> rfl
  | discarded listening data carries => exact hsteady (callsAt_of_frame?_eq_none carries).symm rfl
  | ignored => exact hsteady (callsAt_of_frame?_eq_none rfl).symm rfl
  | hungUp => exact hlost rfl rfl rfl rfl
  | retried => exact hsteady rfl rfl
  | swept => exact hsteady (callsOf_ofSwept _) rfl
  | budgeted => exact hsteady rfl rfl

end Loop

end EventLink
