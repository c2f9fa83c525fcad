import EventLink.Proofs.Loop.Writing
/-!
Everything that a reaction of the event loop can come to.

The relation `Loop.Reacts` has one case for each way in which a reaction can end, with the state that
it ends in and its effects.  Properties of all reactions are proved by going through its cases, not
through the functions of the loop.
-/
namespace EventLink

open Json (Value)

def Message.frame? : Message → Option IncomingFrame
  | .text content => (IncomingFrame.decode content).toOption
  | .binary bytes =>
    (String.fromUTF8? ⟨bytes.toArray⟩).bind fun (content : String) =>
      (IncomingFrame.decode content).toOption
  | _ => none

/-- Whether a message may carry a frame. -/
def Message.isData : Message → Bool
  | .text _ => true
  | .binary _ => true
  | _ => false

def Message.isLast : Message → Bool
  | .close => true
  | .failure => true
  | .ended => true
  | _ => false

namespace Loop

/-- What cannot happen in the present state. -/
def PassesOver (loop : Loop) : LoopEvent → Prop
  | .connected _ => loop.attempting = false
  | .connectFailed => loop.attempting = false
  | .message _ => loop.listening = false
  | .heartbeatDue => loop.heartbeat.isRunning = false
  | .reconnectDue => loop.reconnect = none
  | _ => False

/-- The reaction to an event comes to have a frame to send.  The loop by then, the frame, and the
effects so far. -/
inductive Offers (loop : Loop) (now : Nat) :
    LoopEvent → Loop → OutgoingFrame → List Effect → Prop
  | plain (topic : String) (data : Option Value) :
      Offers loop now (.command (.emit topic data none)) loop (.event topic data none) []
  | request (topic : String) (data : Option Value) (recipient : Recipient) (id : String)
      (replies : ReplyTable) (expected : loop.replies.expect now recipient = some (id, replies)) :
      Offers loop now (.command (.emit topic data (some recipient)))
        { loop with replies := replies } (.event topic data (some id)) []
  | heartbeat (running : loop.heartbeat.isRunning = true) :
      Offers loop now .heartbeatDue { loop with heartbeat := loop.heartbeat.take now }
        (.event heartbeatTopic none none) [.measured .heartbeat]

/-- Having a frame to send, the loop differs in the replies and in the heartbeat's next tick. -/
theorem Offers.ready_eq {loop ready : Loop} {now : Nat} {event : LoopEvent}
    {frame : OutgoingFrame} {effects : List Effect}
    (offers : loop.Offers now event ready frame effects) :
    ∃ replies heartbeat, heartbeat.isRunning = loop.heartbeat.isRunning ∧
      ready = { loop with replies := replies, heartbeat := heartbeat } := by
  cases offers with
  | plain topic data => exact ⟨loop.replies, loop.heartbeat, rfl, rfl⟩
  | request topic data recipient id replies expected => exact ⟨replies, loop.heartbeat, rfl, rfl⟩
  | heartbeat running =>
    exact ⟨loop.replies, loop.heartbeat.take now, Heartbeat.isRunning_take _ _, rfl⟩

/-- The loop with the two halves of a connection that has just come about. -/
def shakenHands (loop : Loop) (writer : Option Writer) : Loop :=
  { loop with
    attempting := false
    writer := writer
    listening := true
    backoff := loop.backoff.reset }

/-- How the reaction to an event may end. -/
inductive Reacts (loop : Loop) (now : Nat) (gone : Nat → Bool) : LoopEvent → Verdict → Prop
  | passed {event : LoopEvent} (impossible : loop.PassesOver event) :
      Reacts loop now gone event (.stays ⟨loop, []⟩)
  | noted (topic : String) (handler : Handler) (offline : loop.status = .offline) :
      Reacts loop now gone (.command (.subscribe topic handler))
        (.stays
          ⟨{ loop with subscriptions := (loop.subscriptions.addHandler topic handler).2 }, []⟩)
  | announced (topic : String) (handler : Handler) (writer : Writer)
      (online : loop.status = .online) :
      Reacts loop now gone (.command (.subscribe topic handler))
        (.stays
          ⟨{ loop with
              subscriptions := (loop.subscriptions.addHandler topic handler).2
              writer := some writer },
            Effect.ofWrite (.subscribe topic)⟩)
  | unannounced (topic : String) (handler : Handler) (online : loop.status = .online) :
      Reacts loop now gone (.command (.subscribe topic handler))
        (.loses
          ⟨{ loop with subscriptions := (loop.subscriptions.addHandler topic handler).2 }, []⟩)
  | watched (event : LinkEvent) (call : Call) :
      Reacts loop now gone (.command (.watch event call))
        (.stays
          ⟨{ loop with subscriptions := loop.subscriptions.addWatcher event call },
            Effect.ofCalls (if event = .opened ∧ loop.status.isOnline then [call] else [])⟩)
  | buffered {event : LoopEvent} {ready : Loop} {frame : OutgoingFrame} {effects : List Effect}
      (offers : loop.Offers now event ready frame effects) (offline : loop.status = .offline) :
      Reacts loop now gone event
        (.stays ⟨{ ready with outbox := ready.outbox.add frame }, effects ++ [.measured .buffered]⟩)
  | sent {event : LoopEvent} {ready : Loop} {frame : OutgoingFrame} {effects : List Effect}
      (offers : loop.Offers now event ready frame effects) (writer : Writer)
      (online : loop.status = .online) :
      Reacts loop now gone event
        (.stays ⟨{ ready with writer := some writer }, effects ++ Effect.ofWrite frame⟩)
  | unsent {event : LoopEvent} {ready : Loop} {frame : OutgoingFrame} {effects : List Effect}
      (offers : loop.Offers now event ready frame effects) (online : loop.status = .online) :
      Reacts loop now gone event
        (.loses ⟨{ ready with outbox := ready.outbox.add frame }, effects⟩)
  | spun (topic : String) (data : Option Value) (recipient : Recipient)
      (exhausted : loop.replies.expect now recipient = none) :
      Reacts loop now gone (.command (.emit topic data (some recipient))) .spins
  | summarized :
      Reacts loop now gone (.command .summarize) (.stays ⟨loop, [.summarized loop.summary]⟩)
  | stopped : Reacts loop now gone .handlesGone loop.stop
  | flushCut (budget : Option Nat) (attempting : loop.attempting = true)
      (writer : Option Writer) (sent unsent : List OutgoingFrame)
      (split : sent ++ unsent = loop.outbox.frames) (left : unsent ≠ []) :
      Reacts loop now gone (.connected budget)
        (.loses
          ⟨{ loop.shakenHands writer with outbox := ⟨unsent⟩ }, sent.flatMap Effect.ofWrite⟩)
  | replayCut (budget : Option Nat) (attempting : loop.attempting = true)
      (writer : Option Writer) (sent missing : List OutgoingFrame)
      (split : sent ++ missing = loop.subscribeFrames) (left : missing ≠ []) :
      Reacts loop now gone (.connected budget)
        (.loses
          ⟨{ loop.shakenHands writer with outbox := Outbox.empty },
            (loop.outbox.frames ++ sent).flatMap Effect.ofWrite⟩)
  | opened (budget : Option Nat) (attempting : loop.attempting = true) (writer : Writer)
      (started : Bool) (heartbeat : Heartbeat)
      (beats : loop.heartbeat.start? now = some (started, heartbeat)) :
      Reacts loop now gone (.connected budget)
        (.stays
          ⟨{ loop.shakenHands (some writer) with
              outbox := Outbox.empty
              status := .online
              heartbeat := heartbeat },
            (loop.outbox.frames ++ loop.subscribeFrames).flatMap Effect.ofWrite ++
              loop.openingEffects⟩)
  | overflowed (budget : Option Nat) (attempting : loop.attempting = true)
      (beyond : loop.heartbeat.start? now = none) :
      Reacts loop now gone (.connected budget)
        (.crashes
          ((loop.outbox.frames ++ loop.subscribeFrames).flatMap Effect.ofWrite ++
            (loop.openingEffects ++ [.released])))
  | refused (attempting : loop.attempting = true) :
      Reacts loop now gone .connectFailed (.loses ⟨{ loop with attempting := false }, []⟩)
  | received {message : Message} {frame : IncomingFrame} (listening : loop.listening = true)
      (carries : message.frame? = some frame) :
      Reacts loop now gone (.message message) (.stays (loop.deliver frame))
  | discarded {message : Message} (listening : loop.listening = true)
      (data : message.isData = true) (carries : message.frame? = none) :
      Reacts loop now gone (.message message) (.stays ⟨loop, [.measured .malformed]⟩)
  | ignored (listening : loop.listening = true) :
      Reacts loop now gone (.message .control) (.stays ⟨loop, []⟩)
  | hungUp {message : Message} (listening : loop.listening = true)
      (last : message.isLast = true) :
      Reacts loop now gone (.message message) (.loses ⟨loop, []⟩)
  | retried (due : loop.reconnect.isSome = true) :
      Reacts loop now gone .reconnectDue (.stays { loop with reconnect := none }.beginAttempt)
  | swept : Reacts loop now gone .sweepDue (.stays (loop.sweepReplies now gone))
  | budgeted (budget : Option Nat) :
      Reacts loop now gone (.writeBudget budget)
        (.stays ⟨{ loop with writer := loop.writer.map fun (_ : Writer) => ⟨budget⟩ }, []⟩)

variable (loop : Loop) (now : Nat) (gone : Nat → Bool)

@[simp]
theorem after_nil (verdict : Verdict) : verdict.after [] = verdict := by
  cases verdict <;> rfl

theorem send_reacts {event : LoopEvent} {ready : Loop} {frame : OutgoingFrame}
    {effects : List Effect} (offers : loop.Offers now event ready frame effects) :
    loop.Reacts now gone event ((ready.send frame).after effects) := by
  have hready : ready.status = loop.status := by
    obtain ⟨replies, heartbeat, _, rfl⟩ := offers.ready_eq
    rfl
  unfold send
  split
  · next honline =>
    rw [LinkStatus.isOnline_eq_true, hready] at honline
    split
    · next turn hwrite =>
      obtain ⟨_, writer, rfl⟩ := write_eq_some hwrite
      exact .sent offers writer honline
    · simpa [Verdict.after, Turn.after] using Reacts.unsent offers honline
  · next hoffline =>
    rw [LinkStatus.not_isOnline, hready] at hoffline
    exact .buffered offers hoffline

theorem announce_reacts (topic : String) (handler : Handler) (online : loop.status = .online) :
    loop.Reacts now gone (.command (.subscribe topic handler))
      ({ loop with
          subscriptions := (loop.subscriptions.addHandler topic handler).2 }.announce topic) := by
  unfold announce
  split
  · next turn hwrite =>
    obtain ⟨_, writer, rfl⟩ := write_eq_some hwrite
    exact .announced topic handler writer online
  · exact .unannounced topic handler online

theorem obey_reacts (command : Command) :
    loop.Reacts now gone (.command command) (loop.obey now command) := by
  cases command with
  | subscribe topic handler =>
    rw [obey]
    split
    · next honline =>
      exact loop.announce_reacts now gone topic handler (LinkStatus.isOnline_eq_true.mp honline)
    · next hoffline =>
      exact .noted topic handler (LinkStatus.not_isOnline.mp hoffline)
  | watch event call =>
    rw [obey, Call.makeGuarded_eq]
    exact .watched event call
  | emit topic data recipient =>
    cases recipient with
    | none =>
      rw [obey, ← after_nil (loop.send _)]
      exact loop.send_reacts now gone (.plain topic data)
    | some recipient =>
      rw [obey]
      split
      · next id replies expected =>
        rw [← after_nil (send _ _)]
        exact loop.send_reacts now gone (.request topic data recipient id replies expected)
      · next exhausted => exact .spun topic data recipient exhausted
  | summarize => exact .summarized

@[simp]
theorem after_after (verdict : Verdict) (first later : List Effect) :
    (verdict.after later).after first = verdict.after (first ++ later) := by
  cases verdict <;> simp [Verdict.after, Turn.after]

/-- The opening sequence ends in one of four ways: the frames that waited are not all written, or the
subscriptions are not, or the connection is online, or the heartbeat has no first tick. -/
theorem connected_reacts (budget : Option Nat) (attempting : loop.attempting = true) :
    loop.Reacts now gone (.connected budget) (loop.connected now budget) := by
  change loop.Reacts now gone _ ((loop.shakenHands (some ⟨budget⟩)).establish now)
  rcases (loop.shakenHands (some ⟨budget⟩)).establish_cases now with
    ⟨sent, unsent, writer, hsplit, hleft, hlost⟩ | ⟨flushed, hflushed, hnext⟩
  · rw [hlost]
    exact .flushCut budget attempting writer sent unsent hsplit hleft
  rw [hnext]
  rcases resubscribe_cases
      { loop.shakenHands (some ⟨budget⟩) with writer := flushed, outbox := Outbox.empty } now with
    ⟨sent, missing, writer, hsplit, hleft, hlost⟩ | ⟨writer, hwriter, honline⟩
  · rw [hlost]
    simp only [Verdict.after, Turn.after]
    rw [← List.flatMap_append]
    exact .replayCut budget attempting writer sent missing hsplit hleft
  rw [honline, after_after, ← List.flatMap_append, goOnline]
  obtain ⟨writer, rfl⟩ := Option.isSome_iff_exists.mp (hwriter.trans hflushed)
  split
  · next started heartbeat beats => exact .opened budget attempting writer started heartbeat beats
  · next beyond => exact .overflowed budget attempting beyond

/-- A message may be the end of its connection, or carry a frame, or be passed over. -/
theorem receive_reacts (message : Message) (listening : loop.listening = true) :
    loop.Reacts now gone (.message message) (loop.receive message) := by
  have htext (content : String) (hdata : message.isData = true)
      (hcontent : message.frame? = (IncomingFrame.decode content).toOption) :
      loop.Reacts now gone (.message message) (.stays (loop.receiveText content)) := by
    unfold receiveText
    split
    · next frame hframe =>
      rw [hframe] at hcontent
      exact .received listening hcontent
    · next fault hfault =>
      rw [hfault] at hcontent
      exact .discarded listening hdata hcontent
  cases message with
  | text content => exact htext content rfl rfl
  | binary bytes =>
    rw [receive]
    split
    · next content hutf8 => exact htext content rfl (by rw [Message.frame?, hutf8]; rfl)
    · next hbytes => exact .discarded listening rfl (by rw [Message.frame?, hbytes]; rfl)
  | control => exact .ignored listening
  | close => exact .hungUp listening rfl
  | failure => exact .hungUp listening rfl
  | ended => exact .hungUp listening rfl

/-- Every reaction ends in one of the ways listed. -/
theorem react_reacts (event : LoopEvent) :
    loop.Reacts now gone event (loop.react now gone event) := by
  cases event with
  | command command => exact loop.obey_reacts now gone command
  | handlesGone => exact .stopped
  | connected budget =>
    rw [react]
    split
    · next attempting => exact loop.connected_reacts now gone budget attempting
    · next idle => exact .passed (eq_false_of_ne_true idle)
  | connectFailed =>
    rw [react]
    split
    · next attempting => exact .refused attempting
    · next idle => exact .passed (eq_false_of_ne_true idle)
  | message message =>
    rw [react]
    split
    · next listening => exact loop.receive_reacts now gone message listening
    · next deaf => exact .passed (eq_false_of_ne_true deaf)
  | heartbeatDue =>
    rw [react]
    split
    · next running => exact loop.send_reacts now gone (.heartbeat running)
    · next stopped => exact .passed (eq_false_of_ne_true stopped)
  | reconnectDue =>
    rw [react]
    split
    · next due => exact .retried due
    · next never => exact .passed (Option.not_isSome_iff_eq_none.mp never)
  | sweepDue => exact .swept
  | writeBudget budget => exact .budgeted budget

end Loop

end EventLink
