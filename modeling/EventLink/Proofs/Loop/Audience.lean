import EventLink.Proofs.Loop.Registration
/-!
Who was registered in a run.

The loop keeps the handlers of each topic and the watchers of each moment in the order of the commands
that registered them.  Nothing but these commands adds to them, and nothing takes anybody away.
-/
namespace EventLink

def Command.handler? (topic : String) : Command → Option Handler
  | subscribe name handler => if name = topic then some handler else none
  | _ => none

def Command.watcher? (event : LinkEvent) : Command → Option Call
  | watch moment call => if moment = event then some call else none
  | _ => none

/-- The handlers that were registered for a topic, in the order of the commands. -/
def handlersRegistered (topic : String) (history : List Reaction) : List Handler :=
  (commandsTaken history).filterMap (Command.handler? topic)

/-- The watchers that were registered for a moment, in the order of the commands. -/
def watchersRegistered (event : LinkEvent) (history : List Reaction) : List Call :=
  (commandsTaken history).filterMap (Command.watcher? event)

theorem handlersRegistered_snoc (topic : String) (history : List Reaction) (r : Reaction) :
    handlersRegistered topic (history ++ [r]) =
      handlersRegistered topic history ++
        r.event.command?.toList.filterMap (Command.handler? topic) := by
  rw [handlersRegistered, commandsTaken_snoc, List.filterMap_append]
  rfl

theorem watchersRegistered_snoc (event : LinkEvent) (history : List Reaction) (r : Reaction) :
    watchersRegistered event (history ++ [r]) =
      watchersRegistered event history ++
        r.event.command?.toList.filterMap (Command.watcher? event) := by
  rw [watchersRegistered, commandsTaken_snoc, List.filterMap_append]
  rfl

/-- Under a reserved name a handle registers a watcher, so the topic of that name stays without
handlers. -/
theorem handlersRegistered_reservedName {history : List Reaction}
    (handles : ∀ command ∈ commandsTaken history, command.FromHandle) (event : LinkEvent) :
    handlersRegistered event.reservedName history = [] := by
  rw [handlersRegistered, List.filterMap_eq_nil_iff]
  intro command hcommand
  have hother := (handles command hcommand).unreserved event
  cases command with
  | subscribe topic handler =>
    have hdifferent : topic ≠ event.reservedName := fun hsame => hother (congrArg some hsame)
    exact if_neg hdifferent
  | _ => rfl

namespace Subscriptions

/-- A handler comes after those that its topic had. -/
theorem handlersOf_addHandler (s : Subscriptions) (topic other : String) (handler : Handler) :
    (s.addHandler topic handler).2.handlersOf other =
      s.handlersOf other ++ (if topic = other then [handler] else []) := by
  change ((s.table.add topic handler).2.handlers other).getD [] =
    (s.table.handlers other).getD [] ++ _
  cases hknown : s.table.handlers topic with
  | some handlers =>
    rw [TopicTable.add_of_some hknown]
    by_cases hsame : topic = other
    · simp [TopicTable.put, ← hsame, hknown]
    · simp [TopicTable.put, Ne.symm hsame, hsame]
  | none =>
    rw [TopicTable.add_of_none hknown]
    by_cases hsame : topic = other
    · simp [TopicTable.put, ← hsame, hknown]
    · simp [TopicTable.put, Ne.symm hsame, hsame]

/-- A watcher comes after those that its moment had. -/
theorem watchersOf_addWatcher (s : Subscriptions) (moment event : LinkEvent) (call : Call) :
    (s.addWatcher moment call).watchersOf event =
      s.watchersOf event ++ (if moment = event then [call] else []) := by
  cases moment <;> cases event <;> simp [addWatcher, watchersOf]

end Subscriptions

namespace Loop

variable {loop : Loop} {event : LoopEvent}

theorem handlersOf_subscriptionsAfter (topic : String) :
    (loop.subscriptionsAfter event).handlersOf topic =
      loop.subscriptions.handlersOf topic ++
        event.command?.toList.filterMap (Command.handler? topic) := by
  have hnobody : loop.subscriptions.handlersOf topic =
      loop.subscriptions.handlersOf topic ++ [] := (List.append_nil _).symm
  cases event with
  | command asked =>
    cases asked with
    | subscribe name handler =>
      refine (Subscriptions.handlersOf_addHandler _ _ _ _).trans ?_
      by_cases hsame : name = topic <;> simp [LoopEvent.command?, Command.handler?, hsame]
    | watch link call => cases link <;> exact hnobody
    | _ => exact hnobody
  | _ => exact hnobody

theorem watchersOf_subscriptionsAfter (moment : LinkEvent) :
    (loop.subscriptionsAfter event).watchersOf moment =
      loop.subscriptions.watchersOf moment ++
        event.command?.toList.filterMap (Command.watcher? moment) := by
  have hnobody : loop.subscriptions.watchersOf moment =
      loop.subscriptions.watchersOf moment ++ [] := (List.append_nil _).symm
  cases event with
  | command asked =>
    cases asked with
    | subscribe name handler => cases moment <;> exact hnobody
    | watch link call =>
      refine (Subscriptions.watchersOf_addWatcher _ _ _ _).trans ?_
      by_cases hsame : link = moment <;> simp [LoopEvent.command?, Command.watcher?, hsame]
    | _ => exact hnobody
  | _ => exact hnobody

end Loop

namespace Run

variable {config : LoopConfig} {history : List Reaction} {task : Task}

/-- The handlers of a topic are those that were registered so far. -/
theorem handlersOf_eq (run : Run config history task) (topic : String) :
    ∀ loop, task = .running loop →
      loop.subscriptions.handlersOf topic = handlersRegistered topic history := by
  induction run with
  | start now =>
    intro loop hloop
    obtain ⟨sweep, rfl⟩ := Loop.start_running hloop
    rfl
  | react r before ih =>
    intro next hnext
    rw [(Reaction.remembers hnext).1, Loop.handlersOf_subscriptionsAfter, ih r.loop rfl,
      handlersRegistered_snoc]

/-- The watchers of a moment are those that were registered so far. -/
theorem watchersOf_eq (run : Run config history task) (event : LinkEvent) :
    ∀ loop, task = .running loop →
      loop.subscriptions.watchersOf event = watchersRegistered event history := by
  induction run with
  | start now =>
    intro loop hloop
    obtain ⟨sweep, rfl⟩ := Loop.start_running hloop
    cases event <;> rfl
  | react r before ih =>
    intro next hnext
    rw [(Reaction.remembers hnext).1, Loop.watchersOf_subscriptionsAfter, ih r.loop rfl,
      watchersRegistered_snoc]

end Run

end EventLink
