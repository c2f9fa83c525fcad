import EventLink.Proofs.Loop.Driven
import EventLink.Proofs.Loop.Relabel
import EventLink.Proofs.Loop.Retries
import EventLink.Proofs.Reply.Waiting
/-!
Handlers that panic.

Take two clients that are driven in the same way, only that some of their handlers panic and others do
not.  They go through the same states, they write the same frames, and they call the same handlers in
the same order.
-/
namespace EventLink

open Json (Value)

/-- The same handler, without the panic at its end. -/
def Handler.calm (handler : Handler) : Handler :=
  { handler with panics := false }

theorem Command.relabel_on (f : Handler → Handler) (name : String) (handler : Handler) :
    (Command.on name handler).relabel f = Command.on name (f handler) := by
  unfold on
  cases Interest.ofName name <;> rfl

theorem Command.FromHandle.relabel {command : Command} (asked : command.FromHandle)
    (f : Handler → Handler) : (command.relabel f).FromHandle := by
  cases asked with
  | on name handler =>
    rw [Command.relabel_on]
    exact .on name (f handler)
  | onOpened handler => exact .onOpened (f handler)
  | onClosed handler => exact .onClosed (f handler)
  | emit topic data recipient => exact .emit topic data _
  | summarize => exact .summarize

/-- A handler asks for the same, whether it panics at its end or not. -/
theorem Handler.commands_calm (handler : Handler) :
    handler.calm.commands = handler.commands.map (Command.relabel Handler.calm) := by
  have hplain (topic : String) : (Command.on topic (plain (handler.name ++ "+"))).relabel calm =
      Command.on topic (plain (handler.name ++ "+")) :=
    Command.relabel_on calm topic _
  have hemit (topic : String) (data : Option Value) :
      (Command.emit topic data none).relabel calm = .emit topic data none := rfl
  rw [commands, commands, List.map_append, calm]
  cases handler.thenEmit <;> cases handler.thenOn <;> simp [hplain, hemit]

section Effects

variable {f : Handler → Handler} (effects : List Effect)

theorem callsOf_relabel :
    callsOf (effects.map (Effect.relabel f)) = (callsOf effects).map (Call.relabel f) := by
  induction effects with
  | nil => rfl
  | cons effect later ih =>
    rw [List.map_cons, callsOf_cons, callsOf_cons, ih, List.map_append]
    cases effect <;> rfl

/-- What is not a call is the same with other handlers. -/
theorem filterMap_relabel {α : Type} {given : Effect → Option α}
    (blind : ∀ effect : Effect, given (effect.relabel f) = given effect) :
    (effects.map (Effect.relabel f)).filterMap given = effects.filterMap given := by
  rw [List.filterMap_map]
  exact congrArg (List.filterMap · effects) (funext blind)

theorem framesOf_relabel : framesOf (effects.map (Effect.relabel f)) = framesOf effects :=
  filterMap_relabel effects fun effect => by cases effect <;> rfl

theorem delaysOf_relabel : delaysOf (effects.map (Effect.relabel f)) = delaysOf effects :=
  filterMap_relabel effects fun effect => by cases effect <;> rfl

theorem asksOf_calm :
    asksOf (effects.map (Effect.relabel Handler.calm)) =
      (asksOf effects).map (Command.relabel Handler.calm) := by
  rw [asksOf, callsOf_relabel, List.flatMap_map, asksOf, List.map_flatMap]
  exact congrArg (List.flatMap · _) (funext fun c => c.handler.commands_calm)

end Effects

/-- Two reactions that differ in nothing but which handlers panic: the loop is in the same state,
and it does the same. -/
structure Reaction.Alike (r r' : Reaction) : Prop where
  now : r.now = r'.now
  gone : r.gone = r'.gone
  event : r.event.relabel Handler.calm = r'.event.relabel Handler.calm
  loop : r.loop.relabel Handler.calm = r'.loop.relabel Handler.calm
  timers : r.loop.timers = r'.loop.timers
  effects : r.effects.map (Effect.relabel Handler.calm) = r'.effects.map (Effect.relabel Handler.calm)
  frames : framesOf r.effects = framesOf r'.effects
  delays : delaysOf r.effects = delaysOf r'.effects
  calls : (callsOf r.effects).map (Call.relabel Handler.calm) =
    (callsOf r'.effects).map (Call.relabel Handler.calm)
  asks : (asksOf r.effects).map (Command.relabel Handler.calm) =
    (asksOf r'.effects).map (Command.relabel Handler.calm)

theorem Reaction.Alike.of_relabel {r r' : Reaction}
    (h : r.relabel Handler.calm = r'.relabel Handler.calm) : r.Alike r' := by
  have hloop : r.loop.relabel Handler.calm = r'.loop.relabel Handler.calm :=
    congrArg Reaction.loop h
  have htimers : (r.loop.relabel Handler.calm).timers = (r'.loop.relabel Handler.calm).timers :=
    congrArg Loop.timers hloop
  have hnow : (r.relabel Handler.calm).now = (r'.relabel Handler.calm).now :=
    congrArg Reaction.now h
  have hgone : (r.relabel Handler.calm).gone = (r'.relabel Handler.calm).gone :=
    congrArg Reaction.gone h
  have heffects : r.effects.map (Effect.relabel Handler.calm) =
      r'.effects.map (Effect.relabel Handler.calm) := by
    have hsame := congrArg Reaction.effects h
    rw [Reaction.effects, Reaction.effects, r.outcome_relabel, r'.outcome_relabel] at hsame
    exact hsame
  exact
    { now := hnow
      gone := hgone
      event := congrArg Reaction.event h
      loop := hloop
      timers := htimers
      effects := heffects
      frames := by rw [← framesOf_relabel r.effects, heffects, framesOf_relabel]
      delays := by rw [← delaysOf_relabel r.effects, heffects, delaysOf_relabel]
      calls := by rw [← callsOf_relabel, heffects, callsOf_relabel]
      asks := by rw [← asksOf_calm, heffects, asksOf_calm] }

theorem LoopEvent.isOutside_relabel (f : Handler → Handler) (event : LoopEvent) :
    (event.relabel f).isOutside = event.isOutside := by
  cases event <;> rfl

theorem Task.isAlive_relabel (f : Handler → Handler) (task : Task) :
    (task.relabel f).isAlive = task.isAlive := by
  cases task <;> rfl

def Move.relabel (f : Handler → Handler) : Move → Move
  | clone => clone
  | drop => drop
  | ask command asked => ask (command.relabel f) (asked.relabel f)
  | take now gone => take now gone
  | close now gone => close now gone
  | react now gone event outside =>
    react now gone (event.relabel f) ((event.isOutside_relabel f).trans outside)

namespace Service

def relabel (f : Handler → Handler) (s : Service) : Service :=
  { s with
    accepted := s.accepted.map (Command.relabel f)
    queue := s.queue.map (Command.relabel f)
    history := s.history.map (Reaction.relabel f)
    task := s.task.relabel f }

variable (s : Service)

theorem asks_relabel (f : Handler → Handler) (commands : List Command) :
    (s.relabel f).asks (commands.map (Command.relabel f)) = (s.asks commands).relabel f := by
  have halive : (s.relabel f).task.isAlive = s.task.isAlive := s.task.isAlive_relabel f
  have hhandles : (s.relabel f).handles = s.handles := rfl
  rw [asks, asks, halive, hhandles]
  split
  · simp [relabel]
  · rfl

theorem reacted_relabel (f : Handler → Handler) (r : Reaction) :
    (s.relabel f).reacted (r.relabel f) = (s.reacted r).relabel f := by
  rw [reacted, reacted, r.outcome_relabel]
  simp [relabel, Outcome.relabel]

/-- What follows from a reaction, what its handlers ask for included, does not depend on who panics. -/
theorem responds_calm (r : Reaction) :
    (s.relabel Handler.calm).responds (r.relabel Handler.calm) =
      (s.responds r).relabel Handler.calm := by
  rw [responds, responds, ← asks_relabel, reacted_relabel, ← asksOf_calm, Reaction.effects,
    r.outcome_relabel]
  rfl

theorem make_calm (move : Move) :
    (s.relabel Handler.calm).make (move.relabel Handler.calm) =
      (s.make move).relabel Handler.calm := by
  have hhandles : (s.relabel Handler.calm).handles = s.handles := rfl
  cases move with
  | clone =>
    rw [Move.relabel, make, make, hhandles]
    split <;> rfl
  | drop =>
    rw [Move.relabel, make, make, hhandles]
    split <;> rfl
  | ask command asked => exact s.asks_relabel Handler.calm [command]
  | take now gone =>
    obtain ⟨handles, accepted, queue, history, task⟩ := s
    cases task with
    | running loop =>
      cases queue with
      | nil => rfl
      | cons command rest =>
        exact responds_calm ⟨handles, accepted, rest, history, .running loop⟩
          ⟨loop, now, gone, .command command⟩
    | finished => rfl
    | crashed => rfl
    | spinning => rfl
  | close now gone =>
    obtain ⟨handles, accepted, queue, history, task⟩ := s
    cases task with
    | running loop =>
      cases queue with
      | nil =>
        cases handles with
        | zero => exact responds_calm _ ⟨loop, now, gone, .handlesGone⟩
        | succ handles => rfl
      | cons command rest => rfl
    | finished => rfl
    | crashed => rfl
    | spinning => rfl
  | react now gone event outside =>
    obtain ⟨handles, accepted, queue, history, task⟩ := s
    cases task with
    | running loop => exact responds_calm _ ⟨loop, now, gone, event⟩
    | finished => rfl
    | crashed => rfl
    | spinning => rfl

theorem play_calm (moves : List Move) :
    (s.relabel Handler.calm).play (moves.map (Move.relabel Handler.calm)) =
      (s.play moves).relabel Handler.calm := by
  induction moves generalizing s with
  | nil => rfl
  | cons move later ih =>
    rw [List.map_cons, play, List.foldl_cons, make_calm]
    exact ih (s.make move)

theorem driven_calm (config : LoopConfig) (now : Nat) (moves : List Move) :
    driven config now (moves.map (Move.relabel Handler.calm)) =
      (driven config now moves).relabel Handler.calm := by
  have htask : (Loop.start config now).task.relabel Handler.calm = (Loop.start config now).task :=
    congrArg Outcome.task (Loop.start_relabel now config)
  have hinitial : (initial config now).relabel Handler.calm = initial config now := by
    rw [initial, relabel, htask]
    rfl
  rw [driven, driven, ← play_calm, hinitial]

end Service

theorem Task.running_of_relabel {f : Handler → Handler} {task : Task} {loop : Loop}
    (h : task.relabel f = .running (loop.relabel f)) :
    ∃ other, task = .running other ∧ other.relabel f = loop.relabel f := by
  cases task with
  | running other => exact ⟨other, rfl, Task.running.inj h⟩
  | finished => exact absurd h (by simp [relabel])
  | crashed => exact absurd h (by simp [relabel])
  | spinning => exact absurd h (by simp [relabel])

/-- A reaction of the same loop, but for its handlers, to the same event, but for its handlers. -/
theorem Reaction.exists_relabel {f : Handler → Handler} {task : Task} {r : Reaction}
    {event : LoopEvent} (running : task.relabel f = (Task.running r.loop).relabel f)
    (same : event.relabel f = r.event.relabel f) :
    ∃ r' : Reaction, task = .running r'.loop ∧ r'.event = event ∧ r'.relabel f = r.relabel f := by
  obtain ⟨loop, htask, hloop⟩ := Task.running_of_relabel running
  refine ⟨⟨loop, r.now, r.gone, event⟩, htask, rfl, ?_⟩
  rw [Reaction.relabel, Reaction.relabel, hloop, same]

theorem Service.fields_of_relabel {f : Handler → Handler} {s s' : Service}
    (h : s'.relabel f = s.relabel f) :
    s'.handles = s.handles ∧ s'.queue.map (Command.relabel f) = s.queue.map (Command.relabel f) ∧
      s'.task.relabel f = s.task.relabel f := by
  obtain ⟨hhandles, _, hqueue, _, htask⟩ := Service.mk.inj h
  exact ⟨hhandles, hqueue, htask⟩

theorem Service.reacted_of_relabel {f : Handler → Handler} {s s' : Service} {r r' : Reaction}
    (h : s'.relabel f = s.relabel f) (hr : r'.relabel f = r.relabel f) :
    (s'.reacted r').relabel f = (s.reacted r).relabel f := by
  rw [← reacted_relabel, h, hr, reacted_relabel]

namespace Service.Reachable

variable {config : LoopConfig} {s : Service}

/-- Whatever a client has gone through, it may go through the same if the handlers that it was given
are exchanged for others from which `f` does not tell them apart. -/
theorem exists_relabel (reachable : Reachable config s) (f : Handler → Handler)
    {accepted : List Command} (asked : ∀ command ∈ accepted, command.FromHandle)
    (same : accepted.map (Command.relabel f) = s.accepted.map (Command.relabel f)) :
    ∃ s', Reachable config s' ∧ s'.accepted = accepted ∧ s'.relabel f = s.relabel f := by
  induction reachable generalizing accepted with
  | start now =>
    obtain rfl := List.map_eq_nil_iff.mp same
    exact ⟨_, .start now, rfl, rfl⟩
  | clone before held ih =>
    obtain ⟨s', hs', haccepted, hsame⟩ := ih asked same
    obtain ⟨hhandles, _, _⟩ := fields_of_relabel hsame
    refine ⟨_, hs'.clone (hhandles ▸ held), haccepted, ?_⟩
    exact congrArg (fun (t : Service) => { t with handles := t.handles + 1 }) hsame
  | drop before held ih =>
    obtain ⟨s', hs', haccepted, hsame⟩ := ih asked same
    obtain ⟨hhandles, _, _⟩ := fields_of_relabel hsame
    refine ⟨_, hs'.drop (hhandles ▸ held), haccepted, ?_⟩
    exact congrArg (fun (t : Service) => { t with handles := t.handles - 1 }) hsame
  | @ask s before held alive command hcommand ih =>
    rw [List.map_append] at same
    obtain ⟨earlier, last, rfl, hearlier, hlast⟩ := List.map_eq_append_iff.mp same
    obtain ⟨other, rfl, hother⟩ := List.map_eq_singleton_iff.mp hlast
    rw [List.forall_mem_append, List.forall_mem_singleton] at asked
    obtain ⟨s', hs', rfl, hsame⟩ := ih asked.1 hearlier
    obtain ⟨hhandles, _, htask⟩ := fields_of_relabel hsame
    have halive : s'.task.isAlive = true := by
      rw [← s'.task.isAlive_relabel f, htask, s.task.isAlive_relabel f, alive]
    refine ⟨_, hs'.ask (hhandles ▸ held) halive other asked.2, rfl, ?_⟩
    have hboth := congrArg (fun (t : Service) =>
      { t with
        accepted := t.accepted ++ [command.relabel f]
        queue := t.queue ++ [command.relabel f] }) hsame
    simpa [Service.relabel, hother] using hboth
  | @take s before r running command rest queued event ih =>
    obtain ⟨s', hs', haccepted, hsame⟩ := ih asked same
    obtain ⟨_, hqueue, htask⟩ := fields_of_relabel hsame
    rw [queued, List.map_cons] at hqueue
    obtain ⟨other, rest', hqueued, hother, hrest⟩ := List.map_eq_cons_iff.mp hqueue
    have hevent : (LoopEvent.command other).relabel f = r.event.relabel f := by
      rw [event, LoopEvent.relabel, LoopEvent.relabel, hother]
    rw [running] at htask
    obtain ⟨r', hrunning, hevent', hr⟩ := Reaction.exists_relabel htask hevent
    refine ⟨_, hs'.take r' hrunning other rest' hqueued hevent', haccepted, ?_⟩
    exact congrArg₂ (fun (t : Service) (queue : List Command) => { t with queue := queue })
      (reacted_of_relabel hsame hr) hrest
  | @close s before r running unheld drained event ih =>
    obtain ⟨s', hs', haccepted, hsame⟩ := ih asked same
    obtain ⟨hhandles, hqueue, htask⟩ := fields_of_relabel hsame
    rw [drained] at hqueue
    rw [running] at htask
    obtain ⟨r', hrunning, hevent, hr⟩ := Reaction.exists_relabel htask rfl
    refine ⟨_, hs'.close r' hrunning (hhandles.trans unheld) (List.map_eq_nil_iff.mp hqueue)
      (hevent.trans event), haccepted, ?_⟩
    exact reacted_of_relabel hsame hr
  | @react s before r running outside ih =>
    obtain ⟨s', hs', haccepted, hsame⟩ := ih asked same
    obtain ⟨_, _, htask⟩ := fields_of_relabel hsame
    rw [running] at htask
    obtain ⟨r', hrunning, hevent, hr⟩ := Reaction.exists_relabel htask rfl
    refine ⟨_, hs'.react r' hrunning (hevent ▸ outside), haccepted, ?_⟩
    exact reacted_of_relabel hsame hr

end Service.Reachable

/-- A message that carries a frame has the frame delivered. -/
theorem Loop.receive_of_frame (loop : Loop) {message : Message} {frame : IncomingFrame}
    (carries : message.frame? = some frame) : loop.receive message = .stays (loop.deliver frame) := by
  have htext {content : String} (h : (IncomingFrame.decode content).toOption = some frame) :
      loop.receiveText content = loop.deliver frame := by
    rw [receiveText]
    cases hdecode : IncomingFrame.decode content with
    | ok decoded =>
      rw [hdecode] at h
      obtain rfl := Option.some.inj h
      rfl
    | error fault =>
      rw [hdecode] at h
      exact absurd h (by simp [Except.toOption])
  cases message with
  | text content => exact congrArg Verdict.stays (htext carries)
  | binary bytes =>
    rw [Message.frame?] at carries
    obtain ⟨content, hutf8, hcontent⟩ := Option.bind_eq_some_iff.mp carries
    rw [receive, hutf8]
    exact congrArg Verdict.stays (htext hcontent)
  | _ => exact absurd carries (by simp [Message.frame?])

theorem ReplyTable.isWaiting_take (t : ReplyTable) (id : String) :
    (t.take id).2.isWaiting id = false := by
  apply eq_false_of_ne_true
  intro hwaiting
  rw [isWaiting_iff_mem_ids, ids, waiters_take] at hwaiting
  obtain ⟨w, hw, hid⟩ := List.mem_map.mp hwaiting
  have hother := (List.mem_filter.mp hw).2
  simp [hid] at hother

namespace Reaction

variable {r : Reaction} {message : Message}

theorem outcome_of_frame {frame : IncomingFrame} (listening : r.loop.listening = true)
    (event : r.event = .message message) (carries : message.frame? = some frame) :
    r.outcome = ⟨.running (r.loop.deliver frame).loop, (r.loop.deliver frame).effects⟩ := by
  rw [outcome, event, Loop.step, Loop.react, if_pos listening, r.loop.receive_of_frame carries]
  rfl

/-- All handlers of a topic are called with a delivery, also those that come after one that panics. -/
theorem calls_of_delivery {topic : String} {data : Value} (listening : r.loop.listening = true)
    (event : r.event = .message message) (carries : message.frame? = some (.event topic data)) :
    callsOf r.effects =
      (r.loop.subscriptions.handlersOf topic).map fun (h : Handler) => ⟨h, some data⟩ := by
  rw [effects, outcome_of_frame listening event carries]
  exact r.loop.callsOf_deliver (.event topic data)

/-- A callback is called with the reply, whether it panics or not, and its identifier is free again. -/
theorem calls_of_reply {id : String} {data : Value} {handler : Handler}
    (listening : r.loop.listening = true) (event : r.event = .message message)
    (carries : message.frame? = some (.reply id data))
    (waiting : (r.loop.replies.take id).1 = some (.callback handler)) :
    callsOf r.effects = [⟨handler, some data⟩] ∧
      ∃ next, r.outcome.task = .running next ∧ next.replies.isWaiting id = false := by
  have houtcome := outcome_of_frame listening event carries
  constructor
  · rw [effects, houtcome]
    refine (r.loop.callsOf_deliver (.reply id data)).trans ?_
    rw [Loop.callsFor, waiting]
    rfl
  · refine ⟨_, congrArg Outcome.task houtcome, ?_⟩
    exact r.loop.replies.isWaiting_take id

end Reaction

namespace Service

/-- Clients that differ in nothing but which handlers panic have reacted alike. -/
theorem alike_of_relabel {s s' : Service} (h : s.relabel Handler.calm = s'.relabel Handler.calm) :
    List.Forall₂ Reaction.Alike s.history s'.history := by
  have hhistory : s.history.map (Reaction.relabel Handler.calm) =
      s'.history.map (Reaction.relabel Handler.calm) :=
    congrArg history h
  rw [← List.forall₂_eq_eq_eq, List.forall₂_map_left_iff, List.forall₂_map_right_iff] at hhistory
  exact hhistory.imp fun _ _ h => Reaction.Alike.of_relabel h

/-- Handlers that panic do no harm.  Two clients that are driven in the same way, but for the panics of
any handlers of theirs, get into the same states by reactions that do the same: the same frames are
written, the same delays are set, the same handlers are called with the same arguments and in the same
order, and they ask for the same.  Nor does it matter when the commands come in that the handlers ask
for: whatever a client goes through, it may go through the same with any others of its handlers
panicking.  In particular all handlers of a topic are called with a delivery, whichever of them panic,
and a callback that panics has taken its reply, so that its identifier is free again. -/
theorem panics_isolated (config : LoopConfig) :
    (∀ now moves moves',
      moves.map (Move.relabel Handler.calm) = moves'.map (Move.relabel Handler.calm) →
      Reachable config (driven config now moves) ∧ Reachable config (driven config now moves') ∧
        (driven config now moves).relabel Handler.calm =
          (driven config now moves').relabel Handler.calm ∧
        List.Forall₂ Reaction.Alike (driven config now moves).history
          (driven config now moves').history) ∧
    ∀ s, Reachable config s →
      (∀ accepted : List Command, (∀ command ∈ accepted, command.FromHandle) →
        accepted.map (Command.relabel Handler.calm) =
          s.accepted.map (Command.relabel Handler.calm) →
        ∃ s', Reachable config s' ∧ s'.accepted = accepted ∧
          s.relabel Handler.calm = s'.relabel Handler.calm ∧
          List.Forall₂ Reaction.Alike s.history s'.history) ∧
      ∀ r ∈ s.history, r.loop.listening = true →
        ∀ message, r.event = .message message →
          (∀ topic data, message.frame? = some (.event topic data) →
            callsOf r.effects =
              (r.loop.subscriptions.handlersOf topic).map fun (h : Handler) => ⟨h, some data⟩) ∧
          ∀ id data handler, message.frame? = some (.reply id data) →
            (r.loop.replies.take id).1 = some (.callback handler) →
            callsOf r.effects = [⟨handler, some data⟩] ∧
              ∃ next, r.outcome.task = .running next ∧ next.replies.isWaiting id = false := by
  constructor
  · intro now moves moves' alike
    have hsame : (driven config now moves).relabel Handler.calm =
        (driven config now moves').relabel Handler.calm := by
      rw [← driven_calm, ← driven_calm, alike]
    exact ⟨(Reachable.start now).play moves, (Reachable.start now).play moves', hsame,
      alike_of_relabel hsame⟩
  · intro s reachable
    constructor
    · intro accepted asked same
      obtain ⟨s', hs', haccepted, hsame⟩ := reachable.exists_relabel Handler.calm asked same
      exact ⟨s', hs', haccepted, hsame.symm, alike_of_relabel hsame.symm⟩
    · intro r _ listening message event
      constructor
      · intro topic data carries
        exact Reaction.calls_of_delivery listening event carries
      · intro id data handler carries waiting
        exact Reaction.calls_of_reply listening event carries waiting

/-- A client drives a connection with two handlers of a topic, one that watches the connection and one
that takes a reply.  The first one of the topic, the one that watches, and the one that takes the reply
panic if told to. -/
def jumpy (panics : Bool) : List Move :=
  let nobody : Nat → Bool := fun (_ : Nat) => false
  [.ask _ (.on "news" ⟨"first", panics, some "seen", none⟩),
    .ask _ (.on "news" (.plain "second")), .take 0 nobody, .take 0 nobody,
    .connected 1 none,
    .ask _ (.onOpened ⟨"watcher", panics, none, none⟩), .take 2 nobody,
    .ask _ (.emit "ask" none (some (.callback ⟨"asker", panics, none, none⟩))), .take 3 nobody,
    .message 4 (.text "\x7b\"event\":\"news\"\x7d"), .message 4 (.text "\x7b\"id\":0\x7d"),
    .take 5 nobody]

theorem panics_isolated_of_jumpy :
    (jumpy true).map (Move.relabel Handler.calm) = (jumpy false).map (Move.relabel Handler.calm) ∧
      List.Forall₂ Reaction.Alike (driven LoopConfig.standard 0 (jumpy true)).history
        (driven LoopConfig.standard 0 (jumpy false)).history ∧
      (∃ s', Reachable LoopConfig.standard s' ∧
        s'.accepted = (driven LoopConfig.standard 0 (jumpy false)).accepted ∧
        List.Forall₂ Reaction.Alike (driven LoopConfig.standard 0 (jumpy true)).history s'.history) ∧
      ((driven LoopConfig.standard 0 (jumpy true)).history.flatMap fun (r : Reaction) =>
          (callsOf r.effects).map fun (c : Call) => (c.handler.name, c.handler.panics)) =
        [("watcher", true), ("first", true), ("second", false), ("asker", true)] ∧
      ((driven LoopConfig.standard 0 (jumpy true)).history.flatMap fun (r : Reaction) =>
          (framesOf r.effects).map OutgoingFrame.encode) =
        ["\x7b\"subscribe\":\"news\"\x7d", "\x7b\"event\":\"ask\",\"id\":\"0\"\x7d",
          "\x7b\"event\":\"seen\",\"data\":\"first\"\x7d"] := by
  have halike : (jumpy true).map (Move.relabel Handler.calm) =
      (jumpy false).map (Move.relabel Handler.calm) := rfl
  obtain ⟨hloud, hquiet, hsame, hhistory⟩ :=
    (panics_isolated LoopConfig.standard).1 0 _ _ halike
  obtain ⟨s', hs', haccepted, _, hother⟩ :=
    ((panics_isolated LoopConfig.standard).2 _ hloud).1 _
      (fun _ hcommand => hquiet.fromHandle_of_mem_accepted hcommand)
      (congrArg accepted hsame).symm
  refine ⟨halike, hhistory, ⟨s', hs', haccepted, hother⟩, ?_, ?_⟩
  · decide +kernel
  · decide +kernel

end Service

end EventLink
