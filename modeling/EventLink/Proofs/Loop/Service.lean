import EventLink.Proofs.Loop.Run
/-!
A client in use.

Handles are cloned and dropped, and each of them asks for something now and then.  What they ask for
goes through one queue.  The event loop takes commands out of it between its other reactions, and it
learns that no handle is left only when the queue is empty.  The order of all of this is free.
-/
namespace EventLink

/-- What a handle can ask of the event loop. -/
inductive Command.FromHandle : Command → Prop
  | on (name : String) (handler : Handler) : FromHandle (.on name handler)
  | onOpened (handler : Handler) : FromHandle (.onOpened handler)
  | onClosed (handler : Handler) : FromHandle (.onClosed handler)
  | emit (topic : String) (data : Option Json.Value) (recipient : Option Recipient) :
    FromHandle (.emit topic data recipient)
  | summarize : FromHandle .summarize

def LoopEvent.command? : LoopEvent → Option Command
  | .command asked => some asked
  | _ => none

/-- Whether an event has to do with neither the queue nor the handles. -/
def LoopEvent.isOutside : LoopEvent → Bool
  | .command _ => false
  | .handlesGone => false
  | _ => true

/-- A client in use: how many handles there are, the commands that were accepted, those of them that
the loop has yet to take, its reactions, and what became of it. -/
structure Service where
  handles : Nat
  accepted : List Command
  queue : List Command
  history : List Reaction
  task : Task

namespace Service

/-- The service after another reaction of its loop. -/
def reacted (s : Service) (r : Reaction) : Service :=
  { s with history := s.history ++ [r], task := r.outcome.task }

/-- A client that was just started has one handle. -/
def initial (config : LoopConfig) (now : Nat) : Service :=
  ⟨1, [], [], [], (Loop.start config now).task⟩

/-- The states that a client may get into. -/
inductive Reachable (config : LoopConfig) : Service → Prop
  | start (now : Nat) : Reachable config (initial config now)
  | clone {s : Service} (before : Reachable config s) (held : 0 < s.handles) :
    Reachable config { s with handles := s.handles + 1 }
  | drop {s : Service} (before : Reachable config s) (held : 0 < s.handles) :
    Reachable config { s with handles := s.handles - 1 }
  /-- A handle puts a command into the queue, which is there as long as the loop is. -/
  | ask {s : Service} (before : Reachable config s) (held : 0 < s.handles)
    (alive : s.task.isAlive = true) (command : Command) (asked : command.FromHandle) :
    Reachable config
      { s with accepted := s.accepted ++ [command], queue := s.queue ++ [command] }
  /-- The loop takes the command at the front of the queue. -/
  | take {s : Service} (before : Reachable config s) (r : Reaction)
    (running : s.task = .running r.loop) (command : Command) (rest : List Command)
    (queued : s.queue = command :: rest) (event : r.event = .command command) :
    Reachable config { s.reacted r with queue := rest }
  /-- The loop learns that no handle is left. -/
  | close {s : Service} (before : Reachable config s) (r : Reaction)
    (running : s.task = .running r.loop) (unheld : s.handles = 0) (drained : s.queue = [])
    (event : r.event = .handlesGone) : Reachable config (s.reacted r)
  /-- The loop reacts to something else. -/
  | react {s : Service} (before : Reachable config s) (r : Reaction)
    (running : s.task = .running r.loop) (outside : r.event.isOutside = true) :
    Reachable config (s.reacted r)

namespace Reachable

variable {config : LoopConfig} {s : Service}

theorem run (reachable : Reachable config s) : Run config s.history s.task := by
  induction reachable with
  | start now => exact .start now
  | clone before held ih => exact ih
  | drop before held ih => exact ih
  | ask before held alive command asked ih => exact ih
  | take before r running command rest queued event ih => exact .react r (running ▸ ih)
  | close before r running unheld drained event ih => exact .react r (running ▸ ih)
  | react before r running outside ih => exact .react r (running ▸ ih)

end Reachable

end Service

def commandsTaken (history : List Reaction) : List Command :=
  history.filterMap fun (r : Reaction) => r.event.command?

@[simp]
theorem commandsTaken_snoc (history : List Reaction) (r : Reaction) :
    commandsTaken (history ++ [r]) = commandsTaken history ++ r.event.command?.toList := by
  rw [commandsTaken, List.filterMap_append, List.filterMap_cons]
  cases r.event.command? <;> rfl

namespace Service.Reachable

variable {config : LoopConfig} {s : Service}

/-- The commands are taken in the order in which they were accepted. -/
theorem taken_append_queue (reachable : Reachable config s) :
    commandsTaken s.history ++ s.queue = s.accepted := by
  induction reachable with
  | start now => rfl
  | clone before held ih => exact ih
  | drop before held ih => exact ih
  | ask before held alive command asked ih =>
    rw [← List.append_assoc, ih]
  | take before r running command rest queued event ih =>
    have htaken : r.event.command? = some command := by rw [event]; rfl
    rw [reacted, commandsTaken_snoc, htaken, ← ih, queued]
    simp
  | close before r running unheld drained event ih =>
    have htaken : r.event.command? = none := by rw [event]; rfl
    rw [reacted, commandsTaken_snoc, htaken, ← ih]
    simp
  | react before r running outside ih =>
    have htaken : r.event.command? = none := by
      cases h : r.event <;> simp_all [LoopEvent.isOutside, LoopEvent.command?]
    rw [reacted, commandsTaken_snoc, htaken, ← ih]
    simp

end Service.Reachable

/-- Any run on commands of handles is one of a client in use, which has a single handle if that is
there all the time. -/
theorem Run.exists_service {config : LoopConfig} {history : List Reaction} {task : Task}
    (run : Run config history task) (unfinished : task ≠ .finished)
    (asked : ∀ command ∈ commandsTaken history, command.FromHandle) :
    ∃ s, Service.Reachable config s ∧ s.handles = 1 ∧ s.accepted = commandsTaken history ∧
      s.queue = [] ∧ s.history = history ∧ s.task = task := by
  induction run with
  | start now => exact ⟨_, .start now, rfl, rfl, rfl, rfl, rfl⟩
  | @react history r before ih =>
    rw [commandsTaken_snoc, List.forall_mem_append] at asked
    obtain ⟨s, hs, hhandles, haccepted, hqueue, hhistory, htask⟩ := ih (by simp) asked.1
    cases hevent : r.event with
    | command command =>
      have hcommand : r.event.command? = some command := by rw [hevent]; rfl
      rw [hcommand] at asked
      have hasked := hs.ask (by omega) (by rw [htask]; rfl) command (asked.2 command (by simp))
      have htaken := hasked.take r htask command [] (by simp [hqueue]) hevent
      refine ⟨_, htaken, hhandles, ?_, rfl, ?_, rfl⟩
      · rw [commandsTaken_snoc, hcommand, ← haccepted]
        rfl
      · rw [← hhistory]
        rfl
    | handlesGone =>
      refine absurd ?_ unfinished
      rw [Reaction.outcome, hevent]
      rfl
    | _ =>
      have hcommand : r.event.command? = none := by rw [hevent]; rfl
      refine ⟨_, hs.react r htask (by rw [hevent]; rfl), hhandles, ?_, hqueue, ?_, rfl⟩
      · rw [commandsTaken_snoc, hcommand, ← haccepted]
        exact (List.append_nil _).symm
      · rw [← hhistory]
        rfl

/-- Only the end of the handles makes a loop stop. -/
theorem Loop.Reacts.handlesGone_of_stops {loop : Loop} {now : Nat} {gone : Nat → Bool}
    {event : LoopEvent} {effects : List Effect}
    (h : loop.Reacts now gone event (.stops effects)) : event = .handlesGone := by
  cases h with
  | stopped => rfl

theorem Reaction.handlesGone_of_finished {r : Reaction} (h : r.outcome.task = .finished) :
    r.event = .handlesGone := by
  have hreacts := r.reacts
  rw [Reaction.outcome_eq] at h
  cases hverdict : r.verdict with
  | stops effects => exact (hverdict ▸ hreacts).handlesGone_of_stops
  | stays turn => simp [hverdict, Loop.conclude] at h
  | loses turn => simp [hverdict, Loop.conclude] at h
  | crashes effects => simp [hverdict, Loop.conclude] at h
  | spins => simp [hverdict, Loop.conclude] at h

theorem Loop.start_ne_finished (config : LoopConfig) (now : Nat) :
    (Loop.start config now).task ≠ .finished := by
  unfold start
  cases initial? config now <;> simp [conclude]

namespace Service.Reachable

variable {config : LoopConfig} {s : Service}

/-- A loop stops when no handle is left and it has taken every command. -/
theorem of_finished (reachable : Reachable config s) (finished : s.task = .finished) :
    s.handles = 0 ∧ s.queue = [] ∧
      ∃ before r, s.history = before ++ [r] ∧ r.event = .handlesGone := by
  induction reachable with
  | start now => exact absurd finished (Loop.start_ne_finished config now)
  | clone before held ih => exact absurd (ih finished).1 (by omega)
  | drop before held ih => exact absurd (ih finished).1 (by omega)
  | ask before held alive command asked ih => exact absurd (ih finished).1 (by omega)
  | take before r running command rest queued event ih =>
    have hgone := Reaction.handlesGone_of_finished finished
    exact absurd (event.symm.trans hgone) (by simp)
  | @close s before r running unheld drained event ih =>
    exact ⟨unheld, drained, s.history, r, rfl, event⟩
  | react before r running outside ih =>
    have hgone := Reaction.handlesGone_of_finished finished
    rw [hgone] at outside
    exact absurd outside (by decide)

end Service.Reachable

end EventLink
