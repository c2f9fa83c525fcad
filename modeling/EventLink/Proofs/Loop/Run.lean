import Mathlib.Data.List.Induction
import EventLink.Proofs.Loop.Reacts
/-!
Runs of the event loop.

A run is the list of the reactions since the start, each with the state that it began in.  The clock,
the events and the channels that are gone are free at every step, so a run stands for any order of
commands, messages, failures and timers.  Whatever holds of all runs holds at every point at which
the loop waits for its next event.
-/
namespace EventLink

/-- A reaction that took place: the loop before it, the clock, the channels at whose other end nobody
waits, and the event. -/
structure Reaction where
  loop : Loop
  now : Nat
  gone : Nat → Bool
  event : LoopEvent

/-- The effects of a reaction up to the point where it ends or finds out about a loss. -/
def Verdict.effects : Verdict → List Effect
  | stays turn => turn.effects
  | loses turn => turn.effects
  | stops effects => effects
  | crashes effects => effects
  | spins => []

/-- The turn after which the loop goes on, before it deals with a loss. -/
def Verdict.turn? : Verdict → Option Turn
  | stays turn => some turn
  | loses turn => some turn
  | _ => none

/-- The effects of the loss that a reaction found out about. -/
def Verdict.lossEffects (now : Nat) : Verdict → List Effect
  | loses turn => (turn.loop.lose now).effects
  | _ => []

@[simp]
theorem Loop.framesOf_stop (loop : Loop) : framesOf loop.stop.effects = [] := by
  simp only [Loop.stop, Verdict.effects, framesOf_append]
  split <;> split <;> rfl

namespace Reaction

def verdict (r : Reaction) : Verdict :=
  r.loop.react r.now r.gone r.event

def outcome (r : Reaction) : Outcome :=
  r.loop.step r.now r.gone r.event

def effects (r : Reaction) : List Effect :=
  r.outcome.effects

/-- The reaction completed the handshake of a new connection. -/
def Handshake (r : Reaction) : Prop :=
  r.loop.attempting = true ∧ ∃ budget, r.event = .connected budget

theorem outcome_eq (r : Reaction) : r.outcome = Loop.conclude r.now r.verdict := rfl

theorem reacts (r : Reaction) : r.loop.Reacts r.now r.gone r.event r.verdict :=
  r.loop.react_reacts r.now r.gone r.event

theorem effects_eq (r : Reaction) :
    r.effects = r.verdict.effects ++ r.verdict.lossEffects r.now := by
  rw [effects, outcome_eq]
  cases r.verdict with
  | loses turn => rfl
  | stays turn => exact (List.append_nil _).symm
  | stops effects => exact (List.append_nil _).symm
  | crashes effects => exact (List.append_nil _).symm
  | spins => rfl

theorem framesOf_effects (r : Reaction) : framesOf r.effects = framesOf r.verdict.effects := by
  rw [effects_eq, framesOf_append]
  cases r.verdict with
  | loses turn =>
    have hloss : framesOf (turn.loop.lose r.now).effects = [] := Loop.framesOf_lose turn.loop r.now
    simp [Verdict.lossEffects, hloss]
  | _ => simp [Verdict.lossEffects]

theorem task_of_stays {r : Reaction} {turn : Turn} (h : r.verdict = .stays turn) :
    r.outcome.task = .running turn.loop := by
  rw [outcome_eq, h]
  rfl

/-- A loop that goes on after a reaction does so as the reaction left it, or after a loss. -/
theorem running_cases {r : Reaction} {next : Loop} (h : r.outcome.task = .running next) :
    (∃ turn, r.verdict = .stays turn ∧ turn.loop = next) ∨
      ∃ turn, r.verdict = .loses turn ∧ (turn.loop.lose r.now).loop = next := by
  rw [outcome_eq] at h
  cases hverdict : r.verdict with
  | stays turn =>
    rw [hverdict] at h
    exact Or.inl ⟨turn, rfl, Task.running.inj h⟩
  | loses turn =>
    rw [hverdict] at h
    exact Or.inr ⟨turn, rfl, Task.running.inj h⟩
  | stops effects => simp [hverdict, Loop.conclude] at h
  | crashes effects => simp [hverdict, Loop.conclude] at h
  | spins => simp [hverdict, Loop.conclude] at h

/-- What the client wants and waits for, and what it has yet to send, is as the turn left it. -/
theorem kept_of_running {r : Reaction} {next : Loop} (h : r.outcome.task = .running next) :
    ∃ turn, r.verdict.turn? = some turn ∧ next.subscriptions = turn.loop.subscriptions ∧
      next.replies = turn.loop.replies ∧ next.outbox = turn.loop.outbox := by
  rcases running_cases h with ⟨turn, hverdict, rfl⟩ | ⟨turn, hverdict, rfl⟩
  · exact ⟨turn, by rw [hverdict]; rfl, rfl, rfl, rfl⟩
  · exact ⟨turn, by rw [hverdict]; rfl, turn.loop.lose_kept r.now⟩

end Reaction

/-- The runs of a loop with the given configuration: the reactions since its start, and what became
of it. -/
inductive Run (config : LoopConfig) : List Reaction → Task → Prop
  | start (now : Nat) : Run config [] (Loop.start config now).task
  | react {history : List Reaction} (r : Reaction) (before : Run config history (.running r.loop)) :
      Run config (history ++ [r]) r.outcome.task

namespace Run

variable {config : LoopConfig}

theorem of_snoc {history : List Reaction} {r : Reaction} {task : Task}
    (run : Run config (history ++ [r]) task) :
    Run config history (.running r.loop) ∧ task = r.outcome.task := by
  generalize hall : history ++ [r] = all at run
  cases run with
  | start now => simp at hall
  | react last before =>
    obtain ⟨rfl, hlast⟩ := List.append_inj' hall rfl
    obtain rfl : r = last := List.cons.inj hlast |>.1
    exact ⟨before, rfl⟩

theorem before {first last : List Reaction} {r : Reaction} {task : Task}
    (run : Run config (first ++ r :: last) task) : Run config first (.running r.loop) := by
  induction last using List.reverseRecOn generalizing task with
  | nil => exact run.of_snoc.1
  | append_singleton last final ih =>
    rw [← List.cons_append, ← List.append_assoc] at run
    exact ih run.of_snoc.1

theorem of_append {first last : List Reaction} {task : Task}
    (run : Run config (first ++ last) task) : ∃ then_, Run config first then_ := by
  cases last with
  | nil => exact ⟨task, List.append_nil first ▸ run⟩
  | cons r last => exact ⟨.running r.loop, run.before⟩

theorem before_of_mem {history : List Reaction} {task : Task} (run : Run config history task)
    {r : Reaction} (hr : r ∈ history) : ∃ first, Run config first (.running r.loop) := by
  obtain ⟨first, last, rfl⟩ := List.append_of_mem hr
  exact ⟨first, run.before⟩

end Run

/-- What the reactions of a series gave rise to, each with the reactions that came after it. -/
def withLater {α : Type} (given : Reaction → Option α) :
    List Reaction → List (α × List Reaction)
  | [] => []
  | r :: later =>
    ((given r).map fun (a : α) => (a, later)).toList ++ withLater given later

section WithLater

variable {α : Type} {given : Reaction → Option α}

theorem withLater_snoc (history : List Reaction) (r : Reaction) :
    withLater given (history ++ [r]) =
      ((withLater given history).map fun (g : α × List Reaction) => (g.1, g.2 ++ [r])) ++
        ((given r).map fun (a : α) => (a, [])).toList := by
  induction history with
  | nil => simp [withLater]
  | cons first rest ih =>
    rw [List.cons_append, withLater, ih, withLater, List.map_append, List.append_assoc]
    congr 1
    cases given first <;> rfl

theorem map_fst_withLater (history : List Reaction) :
    (withLater given history).map Prod.fst = history.filterMap given := by
  induction history with
  | nil => rfl
  | cons r later ih =>
    rw [withLater, List.map_append, ih, List.filterMap_cons]
    cases given r <;> rfl

theorem mem_withLater {history later : List Reaction} {a : α} :
    (a, later) ∈ withLater given history ↔
      ∃ before r, history = before ++ r :: later ∧ given r = some a := by
  constructor
  · intro hmem
    induction history with
    | nil => exact absurd hmem List.not_mem_nil
    | cons r rest ih =>
      rw [withLater, List.mem_append] at hmem
      rcases hmem with hfirst | hrest
      · obtain ⟨found, hfound, hpair⟩ := Option.map_eq_some_iff.mp (Option.mem_toList.mp hfirst)
        obtain ⟨rfl, rfl⟩ := Prod.mk.inj hpair
        exact ⟨[], r, rfl, hfound⟩
      · obtain ⟨before, q, rfl, hgiven⟩ := ih hrest
        exact ⟨r :: before, q, rfl, hgiven⟩
  · rintro ⟨before, r, rfl, hgiven⟩
    induction before with
    | nil =>
      rw [List.nil_append, withLater, hgiven]
      exact List.mem_append_left _ (List.mem_singleton_self _)
    | cons first rest ih => exact List.mem_append_right _ ih

/-- What a series gave rise to earlier has what came of it later among its own later reactions. -/
theorem pairwise_withLater (history : List Reaction) :
    (withLater given history).Pairwise fun (g other : α × List Reaction) =>
      ∃ middle q, g.2 = middle ++ q :: other.2 ∧ given q = some other.1 := by
  induction history with
  | nil => exact .nil
  | cons r later ih =>
    rw [withLater, List.pairwise_append]
    refine ⟨?_, ih, ?_⟩
    · cases given r <;> simp
    · intro g hg other hother
      obtain ⟨a, _, rfl⟩ := Option.map_eq_some_iff.mp (Option.mem_toList.mp hg)
      exact mem_withLater.mp hother

end WithLater

/-- The reactions of a loop to events that come one after another, each at a time of its own, while
nobody gives up waiting; and what becomes of it. -/
def Task.replay : Task → List (Nat × LoopEvent) → List Reaction × Task
  | .running loop, (now, event) :: rest =>
    let r : Reaction := ⟨loop, now, fun (_ : Nat) => false, event⟩
    let (later, last) := r.outcome.task.replay rest
    (r :: later, last)
  | task, _ => ([], task)

theorem Run.replay {config : LoopConfig} {history : List Reaction} {task : Task}
    (run : Run config history task) (events : List (Nat × LoopEvent)) :
    Run config (history ++ (task.replay events).1) (task.replay events).2 := by
  induction events generalizing history task with
  | nil => cases task <;> simpa [Task.replay] using run
  | cons head rest ih =>
    cases task with
    | running loop =>
      have hnext := ih (Run.react ⟨loop, head.1, fun (_ : Nat) => false, head.2⟩ run)
      simpa [Task.replay] using hnext
    | finished => simpa [Task.replay] using run
    | crashed => simpa [Task.replay] using run
    | spinning => simpa [Task.replay] using run

/-- What a loop is started with if nothing is asked for. -/
def LoopConfig.standard : LoopConfig :=
  ⟨Backoff.standard, standardHeartbeat, IdSource.decimals, none⟩

/-- The run of a loop on the given events, from its start on. -/
def LoopConfig.replay (config : LoopConfig) (events : List (Nat × LoopEvent)) :
    List Reaction × Task :=
  (Loop.start config 0).task.replay events

theorem LoopConfig.run_replay (config : LoopConfig) (events : List (Nat × LoopEvent)) :
    Run config (config.replay events).1 (config.replay events).2 :=
  (Run.start 0).replay events

/-- A loop that was just started attempts to connect and has nothing else to do. -/
theorem Loop.start_running {config : LoopConfig} {now : Nat} {loop : Loop}
    (h : (Loop.start config now).task = .running loop) :
    ∃ sweep,
      loop =
        { status := .offline
          subscriptions := Subscriptions.empty
          replies := ReplyTable.ofSource config.source config.replyLifetime
          outbox := Outbox.empty
          backoff := config.backoff
          heartbeat := Heartbeat.ofPeriod config.heartbeat
          sweep := sweep
          writer := none
          listening := false
          attempting := true
          reconnect := none } := by
  unfold start initial? at h
  cases hsweep : Ticker.start? now (sweepPeriod config.replyLifetime) with
  | none => simp [hsweep] at h
  | some sweep =>
    rw [hsweep] at h
    exact ⟨sweep, (Task.running.inj h).symm⟩

end EventLink
