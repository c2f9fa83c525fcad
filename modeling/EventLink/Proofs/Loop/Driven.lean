import EventLink.Proofs.Loop.Calls
import EventLink.Proofs.Loop.Service
/-!
What drives a client.

A client is driven from outside: by handles that ask for something, by the server, and by the clock.
The commands that handlers ask for while they run come on top of that, through the same queue.  All
that happens then follows from the moves that were made.
-/
namespace EventLink

theorem Handler.fromHandle_of_mem_commands {handler : Handler} {command : Command}
    (h : command ∈ handler.commands) : command.FromHandle := by
  rw [commands, List.mem_append, Option.mem_toList, Option.mem_toList, Option.map_eq_some_iff,
    Option.map_eq_some_iff] at h
  rcases h with ⟨topic, _, rfl⟩ | ⟨topic, _, rfl⟩
  · exact .emit topic _ none
  · exact .on topic _

/-- What the handlers that are called ask for. -/
def asksOf (effects : List Effect) : List Command :=
  (callsOf effects).flatMap fun (c : Call) => c.handler.commands

/-- What drives a client from outside.  When the loop gets to take a command out of the queue, and what
the time is then, is not up to the client either. -/
inductive Move where
  | clone
  | drop
  /-- A handle asks for something. -/
  | ask (command : Command) (asked : command.FromHandle)
  /-- The loop takes the command at the front of the queue. -/
  | take (now : Nat) (gone : Nat → Bool)
  /-- The loop looks whether there is anything left to do. -/
  | close (now : Nat) (gone : Nat → Bool)
  /-- Something that has to do with neither the queue nor the handles. -/
  | react (now : Nat) (gone : Nat → Bool) (event : LoopEvent) (outside : event.isOutside = true)

/-- The attempt to connect succeeds, while nobody gives up waiting. -/
def Move.connected (now : Nat) (budget : Option Nat) : Move :=
  react now (fun (_ : Nat) => false) (.connected budget) rfl

/-- A message comes in, while nobody gives up waiting. -/
def Move.message (now : Nat) (message : Message) : Move :=
  react now (fun (_ : Nat) => false) (.message message) rfl

namespace Service

/-- Commands are put into the queue, through a handle and as long as the queue is there. -/
def asks (s : Service) (commands : List Command) : Service :=
  if 0 < s.handles ∧ s.task.isAlive = true then
    { s with accepted := s.accepted ++ commands, queue := s.queue ++ commands }
  else s

/-- The loop reacts, and the handlers that it calls ask for something. -/
def responds (s : Service) (r : Reaction) : Service :=
  (s.reacted r).asks (asksOf r.effects)

/-- What a move comes to.  It comes to nothing if it is impossible. -/
def make (s : Service) : Move → Service
  | .clone => if 0 < s.handles then { s with handles := s.handles + 1 } else s
  | .drop => if 0 < s.handles then { s with handles := s.handles - 1 } else s
  | .ask command _ => s.asks [command]
  | .take now gone =>
    match s.task, s.queue with
    | .running loop, command :: rest =>
      { s with queue := rest }.responds ⟨loop, now, gone, .command command⟩
    | _, _ => s
  | .close now gone =>
    match s.task, s.queue, s.handles with
    | .running loop, [], 0 => s.responds ⟨loop, now, gone, .handlesGone⟩
    | _, _, _ => s
  | .react now gone event _ =>
    match s.task with
    | .running loop => s.responds ⟨loop, now, gone, event⟩
    | _ => s

def play (s : Service) (moves : List Move) : Service :=
  moves.foldl make s

/-- A client that is driven from its start on. -/
def driven (config : LoopConfig) (now : Nat) (moves : List Move) : Service :=
  (initial config now).play moves

namespace Reachable

variable {config : LoopConfig} {s : Service}

/-- Only what a handle can ask for ever gets into the queue. -/
theorem fromHandle_of_mem_accepted (h : Reachable config s) {command : Command}
    (accepted : command ∈ s.accepted) : command.FromHandle := by
  induction h with
  | start now => exact absurd accepted List.not_mem_nil
  | ask before held alive last asked ih =>
    rcases List.mem_append.mp accepted with hearlier | hlast
    · exact ih hearlier
    · obtain rfl := List.mem_singleton.mp hlast
      exact asked
  | clone before held ih => exact ih accepted
  | drop before held ih => exact ih accepted
  | take before r running first rest queued event ih => exact ih accepted
  | close before r running unheld drained event ih => exact ih accepted
  | react before r running outside ih => exact ih accepted

theorem asks (h : Reachable config s) {commands : List Command}
    (asked : ∀ command ∈ commands, command.FromHandle) : Reachable config (s.asks commands) := by
  unfold Service.asks
  split
  · next possible =>
    induction commands using List.reverseRecOn with
    | nil => simpa using h
    | append_singleton first command ih =>
      rw [List.forall_mem_append, List.forall_mem_singleton] at asked
      have hnext := (ih asked.1).ask possible.1 possible.2 command asked.2
      simpa using hnext
  · exact h

theorem make (h : Reachable config s) (move : Move) : Reachable config (s.make move) := by
  have hasked (r : Reaction) : ∀ command ∈ asksOf r.effects, command.FromHandle := by
    intro command hcommand
    obtain ⟨c, _, hc⟩ := List.mem_flatMap.mp hcommand
    exact Handler.fromHandle_of_mem_commands hc
  cases move with
  | clone =>
    rw [Service.make]
    split
    · next held => exact h.clone held
    · exact h
  | drop =>
    rw [Service.make]
    split
    · next held => exact h.drop held
    · exact h
  | ask command asked => exact h.asks (List.forall_mem_singleton.mpr asked)
  | take now gone =>
    rw [Service.make]
    split
    · next loop command rest running queued =>
      exact (h.take ⟨loop, now, gone, .command command⟩ running command rest queued rfl).asks
        (hasked _)
    · exact h
  | close now gone =>
    rw [Service.make]
    split
    · next loop running drained unheld =>
      exact (h.close ⟨loop, now, gone, .handlesGone⟩ running unheld drained rfl).asks (hasked _)
    · exact h
  | react now gone event outside =>
    rw [Service.make]
    split
    · next loop running => exact (h.react ⟨loop, now, gone, event⟩ running outside).asks (hasked _)
    · exact h

/-- Whatever drives a client, the states that it gets into are among those described before. -/
theorem play (h : Reachable config s) (moves : List Move) : Reachable config (s.play moves) := by
  induction moves generalizing s with
  | nil => exact h
  | cons move later ih => exact ih (h.make move)

end Reachable

end Service

end EventLink
