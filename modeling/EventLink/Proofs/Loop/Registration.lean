import EventLink.Proofs.Loop.Memory
import EventLink.Proofs.Loop.Service
/-!
The topics that were registered in a run.

The loop knows every topic that a handler was registered for, once and in the order of the first
handlers.  Nothing but the commands adds to them, and nothing takes any of them away.
-/
namespace EventLink

def Command.topic? : Command → Option String
  | subscribe topic _ => some topic
  | _ => none

/-- A handle cannot register a handler for a topic that has a reserved name. -/
theorem Command.FromHandle.unreserved {command : Command} (h : command.FromHandle)
    (event : LinkEvent) : command.topic? ≠ some event.reservedName := by
  cases h with
  | on name handler =>
    unfold Command.on Interest.ofName
    split <;> rename_i topic hinterest
    · split at hinterest
      · exact absurd hinterest (by simp)
      · split at hinterest
        · exact absurd hinterest (by simp)
        · obtain rfl := Interest.topic.inj hinterest
          intro hsame
          obtain rfl := Option.some.inj hsame
          cases event <;> contradiction
    · simp [Command.topic?]
  | _ => simp [Command.topic?, Command.onOpened, Command.onClosed]

def Reaction.topic? (r : Reaction) : Option String :=
  r.event.command?.bind Command.topic?

/-- The topics that handlers were registered for, in the order of the commands. -/
def topicsRegistered (history : List Reaction) : List String :=
  history.filterMap Reaction.topic?

@[simp]
theorem topicsRegistered_append (first later : List Reaction) :
    topicsRegistered (first ++ later) = topicsRegistered first ++ topicsRegistered later :=
  List.filterMap_append

theorem topicsRegistered_singleton (r : Reaction) :
    topicsRegistered [r] = r.topic?.toList := by
  rw [topicsRegistered, List.filterMap_cons]
  cases r.topic? <;> rfl

theorem eraseDups_snoc (names : List String) (name : String) :
    (names ++ [name]).eraseDups =
      if name ∈ names.eraseDups then names.eraseDups else names.eraseDups ++ [name] := by
  rw [List.eraseDups_append]
  by_cases hold : name ∈ names
  · simp [List.removeAll, hold]
  · simp [List.removeAll, hold, List.eraseDups_cons]

namespace Loop

variable {loop : Loop} {now : Nat} {event : LoopEvent}

theorem Offers.topic? {ready : Loop} {frame : OutgoingFrame} {effects : List Effect}
    (offers : loop.Offers now event ready frame effects) :
    event.command?.bind Command.topic? = none := by
  cases offers <;> rfl

theorem PassesOver.topic? (h : loop.PassesOver event) :
    event.command?.bind Command.topic? = none := by
  cases event with
  | command asked => exact absurd h id
  | _ => rfl

/-- The topic of a command is added to those that the loop knows. -/
theorem topics_subscriptionsAfter {names : List String}
    (known : loop.subscriptions.topics = names.eraseDups) :
    (loop.subscriptionsAfter event).topics =
      (names ++ (event.command?.bind Command.topic?).toList).eraseDups := by
  have hkept : loop.subscriptions.topics = (names ++ []).eraseDups := by
    rw [known, List.append_nil]
  cases event with
  | command asked =>
    cases asked with
    | subscribe topic handler =>
      change (loop.subscriptions.addHandler topic handler).2.topics = (names ++ [topic]).eraseDups
      rw [Subscriptions.topics_addHandler, known, eraseDups_snoc]
    | watch link call => exact (Subscriptions.topics_addWatcher _ _ _).trans hkept
    | _ => exact hkept
  | _ => exact hkept

end Loop

/-- The loop knows the topics that were registered so far, in the order of their first handlers. -/
theorem Run.topics {config : LoopConfig} {history : List Reaction} {task : Task}
    (run : Run config history task) :
    ∀ loop, task = .running loop →
      loop.subscriptions.topics = (topicsRegistered history).eraseDups := by
  induction run with
  | start now =>
    intro loop hloop
    obtain ⟨sweep, rfl⟩ := Loop.start_running hloop
    rfl
  | react r before ih =>
    intro next hnext
    rw [(Reaction.remembers hnext).1, topicsRegistered_append, topicsRegistered_singleton]
    exact Loop.topics_subscriptionsAfter (ih r.loop rfl)

end EventLink
