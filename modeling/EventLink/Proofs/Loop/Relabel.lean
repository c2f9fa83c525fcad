import EventLink.Proofs.Loop.Run
import EventLink.Proofs.Reply.Waiting
/-!
The loop does not look into its handlers.

Let every handler be exchanged for another one.  What the loop does then is what it did before, with
the handlers exchanged: each of its functions commutes with the exchange, and so does a whole run.
-/
namespace EventLink

open Json (Value)

section Exchange

variable (f : Handler → Handler)

def Call.relabel (c : Call) : Call :=
  { c with handler := f c.handler }

/-- A channel has no handler. -/
def Recipient.relabel : Recipient → Recipient
  | .callback handler => .callback (f handler)
  | .channel number => .channel number

def Waiter.relabel (w : Waiter) : Waiter :=
  { w with recipient := w.recipient.relabel f }

def ReplyTable.relabel (t : ReplyTable) : ReplyTable :=
  { t with waiters := t.waiters.map (Waiter.relabel f) }

def TopicTable.relabel (t : TopicTable) : TopicTable :=
  { t with handlers := fun (topic : String) => (t.handlers topic).map (List.map f) }

theorem TopicTable.InStep.relabel {t : TopicTable} (h : t.InStep) : (t.relabel f).InStep where
  nodup := h.nodup
  mem_order_iff := by
    intro topic
    rw [TopicTable.relabel, Option.isSome_map]
    exact h.mem_order_iff topic
  handled := by
    intro topic
    have hhandled := h.handled topic
    cases hknown : t.handlers topic <;> simp_all [TopicTable.relabel]

def Subscriptions.relabel (s : Subscriptions) : Subscriptions :=
  ⟨s.table.relabel f, s.inStep.relabel f, s.onOpened.map (Call.relabel f),
    s.onClosed.map (Call.relabel f)⟩

def Command.relabel : Command → Command
  | .subscribe topic handler => .subscribe topic (f handler)
  | .watch event call => .watch event (call.relabel f)
  | .emit topic data recipient => .emit topic data (recipient.map (Recipient.relabel f))
  | .summarize => .summarize

/-- Handlers come in with commands only. -/
def LoopEvent.relabel : LoopEvent → LoopEvent
  | .command asked => .command (asked.relabel f)
  | event => event

/-- Handlers are seen outside only when they are called. -/
def Effect.relabel : Effect → Effect
  | .called call => .called (call.relabel f)
  | effect => effect

def Loop.relabel (loop : Loop) : Loop :=
  { loop with
    subscriptions := loop.subscriptions.relabel f
    replies := loop.replies.relabel f }

def Turn.relabel (turn : Turn) : Turn :=
  ⟨turn.loop.relabel f, turn.effects.map (Effect.relabel f)⟩

def Verdict.relabel : Verdict → Verdict
  | .stays turn => .stays (turn.relabel f)
  | .loses turn => .loses (turn.relabel f)
  | .stops effects => .stops (effects.map (Effect.relabel f))
  | .crashes effects => .crashes (effects.map (Effect.relabel f))
  | .spins => .spins

def Task.relabel : Task → Task
  | .running loop => .running (loop.relabel f)
  | task => task

def Outcome.relabel (outcome : Outcome) : Outcome :=
  ⟨outcome.task.relabel f, outcome.effects.map (Effect.relabel f)⟩

def Reaction.relabel (r : Reaction) : Reaction :=
  { r with loop := r.loop.relabel f, event := r.event.relabel f }

end Exchange

variable {f : Handler → Handler}

namespace Subscriptions

variable (s : Subscriptions)

theorem topics_relabel : (s.relabel f).topics = s.topics := rfl

theorem handlersOf_relabel (topic : String) :
    (s.relabel f).handlersOf topic = (s.handlersOf topic).map f := by
  change ((s.table.handlers topic).map (List.map f)).getD [] = _
  rw [handlersOf]
  cases s.table.handlers topic <;> rfl

theorem count_relabel (topic : String) : (s.relabel f).count topic = s.count topic := by
  rw [count, handlersOf_relabel, List.length_map]
  rfl

theorem add_relabel (t : TopicTable) (topic : String) (handler : Handler) :
    ((t.relabel f).add topic (f handler)).2 = (t.add topic handler).2.relabel f := by
  have hlookup : (t.relabel f).handlers topic = (t.handlers topic).map (List.map f) := rfl
  have hput (handlers : List Handler) : (t.relabel f).put topic (handlers.map f) =
      fun (name : String) => (t.put topic handlers name).map (List.map f) := by
    funext name
    by_cases hsame : name = topic <;> simp [TopicTable.put, TopicTable.relabel, hsame]
  cases hknown : t.handlers topic with
  | some handlers =>
    rw [hknown] at hlookup
    rw [TopicTable.add_of_some hlookup, TopicTable.add_of_some hknown, ← List.map_singleton,
      ← List.map_append, hput]
    rfl
  | none =>
    rw [hknown] at hlookup
    rw [TopicTable.add_of_none hlookup, TopicTable.add_of_none hknown, ← List.map_singleton, hput]
    rfl

theorem addHandler_relabel (topic : String) (handler : Handler) :
    ((s.relabel f).addHandler topic (f handler)).2 =
      (s.addHandler topic handler).2.relabel f := by
  rw [addHandler, addHandler]
  simp only [relabel, add_relabel]

theorem addWatcher_relabel (event : LinkEvent) (call : Call) :
    (s.relabel f).addWatcher event (call.relabel f) = (s.addWatcher event call).relabel f := by
  cases event <;> simp [addWatcher, relabel]

theorem watchersOf_relabel (event : LinkEvent) :
    (s.relabel f).watchersOf event = (s.watchersOf event).map (Call.relabel f) := by
  cases event <;> rfl

/-- All handlers are called, so it does not matter which of them panic. -/
theorem delivery_relabel (topic : String) (data : Value) :
    (s.relabel f).delivery topic data = (s.delivery topic data).map (Call.relabel f) := by
  rw [delivery, delivery, Call.makeEachGuarded_eq, Call.makeEachGuarded_eq, handlersOf_relabel,
    List.map_map, List.map_map]
  rfl

theorem firing_relabel (event : LinkEvent) :
    (s.relabel f).firing event = (s.firing event).map (Call.relabel f) := by
  rw [firing, firing, Call.makeEachGuarded_eq, Call.makeEachGuarded_eq, watchersOf_relabel]

end Subscriptions

namespace ReplyTable

variable (t : ReplyTable)

theorem ids_relabel : (t.relabel f).ids = t.ids := by
  rw [ids, relabel, List.map_map]
  rfl

theorem nextFree_relabel : (t.relabel f).nextFree = t.nextFree := by
  apply Option.ext
  intro found
  rw [nextFree_eq_some_iff, nextFree_eq_some_iff, ids_relabel]
  rfl

theorem size_relabel : (t.relabel f).size = t.size :=
  List.length_map _

theorem expect_relabel (now : Nat) (recipient : Recipient) :
    (t.relabel f).expect now (recipient.relabel f) =
      (t.expect now recipient).map fun (expected : String × ReplyTable) =>
        (expected.1, expected.2.relabel f) := by
  rw [expect, expect, nextFree_relabel, Option.map_map]
  apply Option.map_congr
  intro index _
  simp [relabel, Waiter.relabel]

theorem take_relabel (id : String) :
    (t.relabel f).take id =
      ((t.take id).1.map (Recipient.relabel f), (t.take id).2.relabel f) := by
  have hfound : (t.relabel f).waiters.find? (fun (w : Waiter) => w.id == id) =
      (t.waiters.find? fun (w : Waiter) => w.id == id).map (Waiter.relabel f) :=
    List.find?_map
  rw [take, take, hfound]
  cases t.waiters.find? fun (w : Waiter) => w.id == id with
  | none => rfl
  | some w =>
    have hrest : (t.relabel f).waiters.filter (fun (other : Waiter) => other.id != id) =
        (t.waiters.filter fun (other : Waiter) => other.id != id).map (Waiter.relabel f) :=
      List.filter_map
    simp only [Option.map_some, hrest]
    rfl

theorem keeps_relabel (now : Nat) (gone : Nat → Bool) (w : Waiter) :
    (t.relabel f).keeps now gone (w.relabel f) = t.keeps now gone w := by
  have hgone : isAbandoned gone (w.relabel f) = isAbandoned gone w := by
    unfold isAbandoned Waiter.relabel
    cases w.recipient <;> rfl
  rw [keeps, keeps, hgone]
  rfl

theorem sweep_relabel (now : Nat) (gone : Nat → Bool) :
    (t.relabel f).sweep now gone =
      ((t.sweep now gone).1.map (Waiter.relabel f), (t.sweep now gone).2.relabel f) := by
  have hkeeps : (t.relabel f).keeps now gone ∘ Waiter.relabel f = t.keeps now gone :=
    funext (t.keeps_relabel now gone)
  have hdrops : (fun (w : Waiter) => !(t.relabel f).keeps now gone w) ∘ Waiter.relabel f =
      fun (w : Waiter) => !t.keeps now gone w :=
    funext fun w => congrArg _ (t.keeps_relabel now gone w)
  apply Prod.ext
  · change (t.waiters.map (Waiter.relabel f)).filter _ = (t.waiters.filter _).map _
    rw [List.filter_map, hdrops]
  · change ({ t with waiters := (t.waiters.map (Waiter.relabel f)).filter _ } : ReplyTable) = _
    rw [List.filter_map, hkeeps]
    rfl

end ReplyTable

namespace Effect

theorem map_relabel_ofCalls (calls : List Call) :
    (ofCalls calls).map (relabel f) = ofCalls (calls.map (Call.relabel f)) := by
  rw [ofCalls, ofCalls, List.map_map, List.map_map]
  rfl

theorem ofReply_relabel (data : Value) (recipient : Recipient) :
    ofReply data (recipient.relabel f) = (ofReply data recipient).map (relabel f) := by
  cases recipient with
  | callback handler =>
    rw [ofReply, Call.makeGuarded_eq, map_relabel_ofCalls, Recipient.relabel, ofReply,
      Call.makeGuarded_eq]
    rfl
  | channel number => rfl

theorem ofSwept_relabel (w : Waiter) : ofSwept (w.relabel f) = (ofSwept w).map (relabel f) := by
  unfold ofSwept Waiter.relabel
  cases w.recipient <;> rfl

end Effect

theorem Resolution.isMatched_relabel (recipient : Option Recipient) :
    (ofRecipient (recipient.map (Recipient.relabel f))).isMatched =
      (ofRecipient recipient).isMatched := by
  rw [isMatched_ofRecipient, isMatched_ofRecipient, Option.isSome_map]

theorem Turn.relabel_after (turn : Turn) (effects : List Effect) :
    (turn.after effects).relabel f = (turn.relabel f).after (effects.map (Effect.relabel f)) := by
  rw [relabel, after, List.map_append]
  rfl

theorem Verdict.relabel_after (verdict : Verdict) (effects : List Effect) :
    (verdict.after effects).relabel f =
      (verdict.relabel f).after (effects.map (Effect.relabel f)) := by
  cases verdict with
  | stays turn => exact congrArg stays (turn.relabel_after effects)
  | loses turn => exact congrArg loses (turn.relabel_after effects)
  | stops later => exact congrArg stops List.map_append
  | crashes later => exact congrArg crashes List.map_append
  | spins => rfl

namespace Loop

variable (loop : Loop) (now : Nat)

theorem write_relabel (frame : OutgoingFrame) :
    (loop.relabel f).write frame = (loop.write frame).map (Turn.relabel f) := by
  rw [write, write, Option.map_map]
  rfl

theorem writeAll_relabel (frames : List OutgoingFrame) :
    (loop.relabel f).writeAll frames =
      ((loop.writeAll frames).1.relabel f, (loop.writeAll frames).2) := by
  induction frames generalizing loop with
  | nil => rfl
  | cons frame rest ih =>
    rw [writeAll, writeAll, write_relabel]
    cases loop.write frame with
    | none => rfl
    | some turn =>
      have hrest : (turn.relabel f).loop.writeAll rest =
          ((turn.loop.writeAll rest).1.relabel f, (turn.loop.writeAll rest).2) :=
        ih turn.loop
      simp only [Option.map_some, hrest, Turn.relabel_after]
      rfl

theorem subscribeFrames_relabel : (loop.relabel f).subscribeFrames = loop.subscribeFrames := by
  rw [subscribeFrames, relabel, Subscriptions.topics_relabel]
  rfl

theorem openingEffects_relabel :
    (loop.relabel f).openingEffects = loop.openingEffects.map (Effect.relabel f) := by
  rw [openingEffects, openingEffects, List.map_append, Effect.map_relabel_ofCalls,
    ← Subscriptions.firing_relabel]
  rfl

theorem closingEffects_relabel :
    (loop.relabel f).closingEffects = loop.closingEffects.map (Effect.relabel f) := by
  have hstatus : (loop.relabel f).status = loop.status := rfl
  rw [closingEffects, closingEffects, hstatus]
  split
  · rw [List.map_cons, Effect.map_relabel_ofCalls, ← Subscriptions.firing_relabel]
    rfl
  · rfl

theorem lose_relabel : (loop.relabel f).lose now = (loop.lose now).relabel f := by
  have hreconnect : (loop.relabel f).reconnect = loop.reconnect := rfl
  have hconnected : (loop.relabel f).isConnected = loop.isConnected := rfl
  rw [lose, lose, hreconnect, hconnected, closingEffects_relabel]
  cases loop.reconnect with
  | some due => rfl
  | none =>
    simp only [Turn.relabel, List.map_append]
    cases loop.isConnected <;> rfl

theorem goOnline_relabel : (loop.relabel f).goOnline now = (loop.goOnline now).relabel f := by
  have hheartbeat : (loop.relabel f).heartbeat = loop.heartbeat := rfl
  rw [goOnline, goOnline, openingEffects_relabel, hheartbeat]
  cases loop.heartbeat.start? now with
  | some started => rfl
  | none =>
    simp only [Verdict.relabel, List.map_append]
    rfl

theorem resubscribe_relabel :
    (loop.relabel f).resubscribe now = (loop.resubscribe now).relabel f := by
  rw [resubscribe, resubscribe, subscribeFrames_relabel, writeAll_relabel]
  cases loop.writeAll loop.subscribeFrames with
  | mk subscribed missing =>
    cases missing with
    | nil =>
      change ((subscribed.loop.relabel f).goOnline now).after (subscribed.relabel f).effects = _
      rw [goOnline_relabel]
      exact (Verdict.relabel_after _ _).symm
    | cons frame rest => rfl

theorem establish_relabel :
    (loop.relabel f).establish now = (loop.establish now).relabel f := by
  obtain ⟨flushed, unsent, hflushed⟩ : ∃ flushed unsent,
      writeAll { loop with outbox := Outbox.empty } loop.outbox.frames = (flushed, unsent) :=
    ⟨_, _, rfl⟩
  have hwrites := writeAll_relabel (f := f) { loop with outbox := Outbox.empty } loop.outbox.frames
  rw [hflushed] at hwrites
  generalize hother : loop.relabel f = other
  have hother' : writeAll { other with outbox := Outbox.empty } other.outbox.frames =
      (flushed.relabel f, unsent) := by
    rw [← hother]
    exact hwrites
  simp only [establish, Outbox.takeAll, hflushed, hother']
  cases unsent with
  | nil =>
    change ((flushed.loop.relabel f).resubscribe now).after (flushed.relabel f).effects = _
    rw [resubscribe_relabel]
    exact (Verdict.relabel_after _ _).symm
  | cons frame rest => rfl

theorem connected_relabel (budget : Option Nat) :
    (loop.relabel f).connected now budget = (loop.connected now budget).relabel f := by
  rw [connected, connected, ← establish_relabel]
  rfl

theorem send_relabel (frame : OutgoingFrame) :
    (loop.relabel f).send frame = (loop.send frame).relabel f := by
  have hstatus : (loop.relabel f).status = loop.status := rfl
  rw [send, send, hstatus, write_relabel]
  cases loop.status.isOnline <;> cases loop.write frame <;> rfl

theorem announce_relabel (topic : String) :
    (loop.relabel f).announce topic = (loop.announce topic).relabel f := by
  rw [announce, announce, write_relabel]
  cases loop.write (.subscribe topic) <;> rfl

theorem obey_relabel (command : Command) :
    (loop.relabel f).obey now (command.relabel f) = (loop.obey now command).relabel f := by
  cases command with
  | subscribe topic handler =>
    have hnoted : ({ loop.relabel f with
          subscriptions := ((loop.relabel f).subscriptions.addHandler topic (f handler)).2 } : Loop) =
        relabel f { loop with subscriptions := (loop.subscriptions.addHandler topic handler).2 } :=
      congrArg (fun (s : Subscriptions) => { loop.relabel f with subscriptions := s })
        (loop.subscriptions.addHandler_relabel topic handler)
    have hstatus : (loop.relabel f).status = loop.status := rfl
    rw [Command.relabel, obey, obey, hnoted, hstatus, announce_relabel]
    cases loop.status.isOnline <;> rfl
  | watch event call =>
    have hnoted : ({ loop.relabel f with
          subscriptions := (loop.relabel f).subscriptions.addWatcher event (call.relabel f) } : Loop) =
        relabel f { loop with subscriptions := loop.subscriptions.addWatcher event call } :=
      congrArg (fun (s : Subscriptions) => { loop.relabel f with subscriptions := s })
        (loop.subscriptions.addWatcher_relabel event call)
    have hstatus : (loop.relabel f).status = loop.status := rfl
    rw [Command.relabel, obey, obey, hnoted, hstatus, Call.makeGuarded_eq, Call.makeGuarded_eq]
    split <;> rfl
  | emit topic data recipient =>
    cases recipient with
    | none => exact loop.send_relabel (.event topic data none)
    | some recipient =>
      have hexpect : (loop.relabel f).replies.expect now (recipient.relabel f) = _ :=
        loop.replies.expect_relabel now recipient
      rw [Command.relabel, Option.map_some, obey, obey, hexpect]
      cases loop.replies.expect now recipient with
      | none => rfl
      | some expected =>
        exact send_relabel { loop with replies := expected.2 } (.event topic data (some expected.1))
  | summarize =>
    have hsummary : (loop.relabel f).summary = loop.summary := by
      rw [summary, summary, relabel, ReplyTable.size_relabel]
    rw [Command.relabel, obey, obey, hsummary]
    rfl

theorem deliver_relabel (frame : IncomingFrame) :
    (loop.relabel f).deliver frame = (loop.deliver frame).relabel f := by
  cases frame with
  | event topic data =>
    have hdelivery : (loop.relabel f).subscriptions.delivery topic data = _ :=
      loop.subscriptions.delivery_relabel topic data
    have hcount : (loop.relabel f).subscriptions.count topic = _ :=
      loop.subscriptions.count_relabel topic
    rw [deliver, deliver, hdelivery, hcount, Turn.relabel, List.map_append,
      Effect.map_relabel_ofCalls]
    rfl
  | reply id data =>
    have htake : (loop.relabel f).replies.take id = _ := loop.replies.take_relabel id
    simp only [deliver, htake, Resolution.isMatched_relabel, Turn.relabel, List.map_append]
    cases (loop.replies.take id).1 with
    | none => rfl
    | some recipient =>
      simp only [Option.map_some, Option.getD_some, Effect.ofReply_relabel]
      rfl

theorem receiveText_relabel (text : String) :
    (loop.relabel f).receiveText text = (loop.receiveText text).relabel f := by
  unfold receiveText
  cases IncomingFrame.decode text with
  | ok frame => exact loop.deliver_relabel frame
  | error fault => rfl

theorem receive_relabel (message : Message) :
    (loop.relabel f).receive message = (loop.receive message).relabel f := by
  cases message with
  | text content => exact congrArg Verdict.stays (loop.receiveText_relabel content)
  | binary bytes =>
    rw [receive, receive]
    cases String.fromUTF8? ⟨bytes.toArray⟩ with
    | some content => exact congrArg Verdict.stays (loop.receiveText_relabel content)
    | none => rfl
  | control => rfl
  | close => rfl
  | failure => rfl
  | ended => rfl

theorem sweepReplies_relabel (gone : Nat → Bool) :
    (loop.relabel f).sweepReplies now gone = (loop.sweepReplies now gone).relabel f := by
  have hsweep : (loop.relabel f).replies.sweep now gone = _ :=
    loop.replies.sweep_relabel now gone
  have hswept : Effect.ofSwept ∘ Waiter.relabel f = Option.map (Effect.relabel f) ∘ Effect.ofSwept :=
    funext Effect.ofSwept_relabel
  rw [sweepReplies, sweepReplies, hsweep, Turn.relabel, List.map_filterMap]
  simp only [List.filterMap_map, hswept]
  rfl

theorem beat_relabel : (loop.relabel f).beat now = (loop.beat now).relabel f := by
  rw [beat, beat, Verdict.relabel_after, ← send_relabel]
  rfl

theorem stop_relabel : (loop.relabel f).stop = loop.stop.relabel f := by
  have hwriter : (loop.relabel f).writer = loop.writer := rfl
  have hconnected : (loop.relabel f).isConnected = loop.isConnected := rfl
  rw [stop, stop, hwriter, hconnected]
  cases loop.writer.isSome <;> cases loop.isConnected <;> rfl

/-- What cannot happen is passed over, whatever the handlers are. -/
theorem guarded_relabel (possible : Bool) (verdict : Verdict) :
    (if possible then verdict.relabel f else .stays ⟨loop.relabel f, []⟩) =
      (if possible then verdict else .stays ⟨loop, []⟩).relabel f := by
  cases possible <;> rfl

/-- A loop reacts in the same way, whatever its handlers are. -/
theorem react_relabel (gone : Nat → Bool) (event : LoopEvent) :
    (loop.relabel f).react now gone (event.relabel f) =
      (loop.react now gone event).relabel f := by
  cases event with
  | command asked => exact loop.obey_relabel now asked
  | handlesGone => exact loop.stop_relabel
  | connected budget =>
    rw [react, ← guarded_relabel, ← connected_relabel]
    rfl
  | connectFailed =>
    rw [react, ← guarded_relabel]
    rfl
  | message message =>
    rw [react, ← guarded_relabel, ← receive_relabel]
    rfl
  | heartbeatDue =>
    rw [react, ← guarded_relabel, ← beat_relabel]
    rfl
  | reconnectDue =>
    rw [react, ← guarded_relabel]
    rfl
  | sweepDue => exact congrArg Verdict.stays (loop.sweepReplies_relabel now gone)
  | writeBudget budget => rfl

theorem conclude_relabel (verdict : Verdict) :
    conclude now (verdict.relabel f) = (conclude now verdict).relabel f := by
  cases verdict with
  | loses turn =>
    have hloss : ((turn.relabel f).loop.lose now).after (turn.relabel f).effects =
        ((turn.loop.lose now).after turn.effects).relabel f := by
      rw [Turn.relabel_after, ← lose_relabel]
      rfl
    simp only [Verdict.relabel, conclude, hloss]
    rfl
  | _ => rfl

theorem step_relabel (gone : Nat → Bool) (event : LoopEvent) :
    (loop.relabel f).step now gone (event.relabel f) =
      (loop.step now gone event).relabel f := by
  rw [step, react_relabel, conclude_relabel]
  rfl

theorem start_relabel (config : LoopConfig) :
    (start config now).relabel f = start config now := by
  unfold start
  cases hinitial : initial? config now with
  | none => rfl
  | some initial =>
    obtain ⟨sweep, _, rfl⟩ := Option.map_eq_some_iff.mp hinitial
    rfl

end Loop

theorem Reaction.outcome_relabel (r : Reaction) :
    (r.relabel f).outcome = r.outcome.relabel f :=
  r.loop.step_relabel r.now r.gone r.event

end EventLink
