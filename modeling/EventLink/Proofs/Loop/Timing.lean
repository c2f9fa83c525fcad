import EventLink.Proofs.Loop.Run
import EventLink.Proofs.Time.Ticker
/-!
Time in a run.

What an event does to the timers of the loop depends on the event and on the timers only.

The reactions of a run come at any times.  Two things may be known about them: that no timer goes off
before its deadline, and how long the loop is held up, if at all, when a timer is due or goes off.
-/
namespace EventLink

/-- The nanoseconds between two sweeps: as many as a reply may take, but no less than a millisecond and
no more than half a minute. -/
def sweepNanos : Option Duration → Nat
  | some lifetime => max (min lifetime.nanos 30000000000) 1000000
  | none => 30000000000

theorem nanos_sweepPeriod_eq (lifetime : Option Duration) :
    (sweepPeriod lifetime).nanos = sweepNanos lifetime := by
  have hshortest : (Duration.ofMillis 1).nanos = 1000000 := by decide
  have hlongest : longestSweep.nanos = 30000000000 := by decide
  unfold sweepPeriod
  cases lifetime with
  | none => simp [Duration.nanos_longer, sweepNanos, hshortest, hlongest]
  | some lifetime =>
    simp [Duration.nanos_longer, Duration.nanos_shorter, sweepNanos, hshortest, hlongest]

theorem sweepNanos_bounds (lifetime : Option Duration) :
    1000000 ≤ sweepNanos lifetime ∧ sweepNanos lifetime ≤ 30000000000 := by
  unfold sweepNanos
  split <;> omega

/-- The timers of the loop and their deadlines. -/
def Loop.deadlines (loop : Loop) : List (Nat × LoopEvent) :=
  (loop.heartbeat.timer.map fun (ticker : Ticker) => (ticker.due, LoopEvent.heartbeatDue)).toList ++
    (loop.reconnect.map fun (time : Nat) => (time, LoopEvent.reconnectDue)).toList ++
    [(loop.sweep.due, LoopEvent.sweepDue)]

namespace Loop

variable {loop : Loop} {now : Nat} {gone : Nat → Bool} {event : LoopEvent} {verdict : Verdict}

/-- The backoff with which a loss after an event is dealt with. -/
def backoffAt (loop : Loop) : LoopEvent → Backoff
  | .connected _ => if loop.attempting then loop.backoff.reset else loop.backoff
  | _ => loop.backoff

/-- When the next attempt is due after an event that led to no loss. -/
def reconnectAt (loop : Loop) : LoopEvent → Option Nat
  | .reconnectDue => none
  | _ => loop.reconnect

/-- The heartbeat after an event that is no handshake. -/
def heartbeatAt (loop : Loop) (now : Nat) : LoopEvent → Heartbeat
  | .heartbeatDue => loop.heartbeat.take now
  | _ => loop.heartbeat

def sweepAt (loop : Loop) (now : Nat) : LoopEvent → Ticker
  | .sweepDue => loop.sweep.take now
  | _ => loop.sweep

/-- The timers after an event, before a loss is dealt with. -/
structure TimersAt (loop : Loop) (now : Nat) (event : LoopEvent) (after : Loop) : Prop where
  backoff : after.backoff = loop.backoffAt event
  reconnect : after.reconnect = loop.reconnectAt event
  sweep : after.sweep = loop.sweepAt now event
  heartbeat : ¬ (loop.attempting = true ∧ ∃ budget, event = .connected budget) →
    after.heartbeat = loop.heartbeatAt now event

theorem TimersAt.congr {ready after : Loop} (h : loop.TimersAt now event ready)
    (backoff : after.backoff = ready.backoff) (reconnect : after.reconnect = ready.reconnect)
    (sweep : after.sweep = ready.sweep) (heartbeat : after.heartbeat = ready.heartbeat) :
    loop.TimersAt now event after :=
  ⟨backoff.trans h.backoff, reconnect.trans h.reconnect, sweep.trans h.sweep,
    fun plain => heartbeat.trans (h.heartbeat plain)⟩

theorem Offers.timersAt {ready : Loop} {frame : OutgoingFrame} {effects : List Effect}
    (offers : loop.Offers now event ready frame effects) : loop.TimersAt now event ready := by
  cases offers <;> exact ⟨rfl, rfl, rfl, fun _ => rfl⟩

theorem PassesOver.timersAt (h : loop.PassesOver event) : loop.TimersAt now event loop := by
  cases event with
  | connected budget =>
    have hidle : loop.attempting = false := h
    exact ⟨by simp [backoffAt, hidle], rfl, rfl, fun _ => rfl⟩
  | reconnectDue =>
    have hunarmed : loop.reconnect = none := h
    exact ⟨rfl, hunarmed, rfl, fun _ => rfl⟩
  | heartbeatDue =>
    have hstill : loop.heartbeat.isRunning = false := h
    exact ⟨rfl, rfl, rfl, fun _ => (Heartbeat.take_of_still hstill now).symm⟩
  | sweepDue => exact h.elim
  | _ => exact ⟨rfl, rfl, rfl, fun _ => rfl⟩

/-- Until a reaction deals with a loss, only a handshake touches the backoff, only an attempt the time
of the next one, and only its ticks a timer that runs. -/
theorem Reacts.timersAt (h : loop.Reacts now gone event verdict) {turn : Turn}
    (hturn : verdict.turn? = some turn) : loop.TimersAt now event turn.loop := by
  cases h with
  | spun => exact absurd hturn (by simp [Verdict.turn?])
  | stopped => exact absurd hturn (by simp [Verdict.turn?, stop])
  | overflowed => exact absurd hturn (by simp [Verdict.turn?])
  | passed impossible =>
    obtain rfl := Option.some.inj hturn
    exact impossible.timersAt
  | buffered offers =>
    obtain rfl := Option.some.inj hturn
    exact offers.timersAt.congr rfl rfl rfl rfl
  | sent offers =>
    obtain rfl := Option.some.inj hturn
    exact offers.timersAt.congr rfl rfl rfl rfl
  | unsent offers =>
    obtain rfl := Option.some.inj hturn
    exact offers.timersAt.congr rfl rfl rfl rfl
  | flushCut budget attempting =>
    obtain rfl := Option.some.inj hturn
    exact ⟨(if_pos attempting).symm, rfl, rfl, fun _ => rfl⟩
  | replayCut budget attempting =>
    obtain rfl := Option.some.inj hturn
    exact ⟨(if_pos attempting).symm, rfl, rfl, fun _ => rfl⟩
  | opened budget attempting =>
    obtain rfl := Option.some.inj hturn
    exact ⟨(if_pos attempting).symm, rfl, rfl, fun plain => absurd ⟨attempting, budget, rfl⟩ plain⟩
  | received =>
    rename_i message frame _ _
    obtain rfl := Option.some.inj hturn
    cases frame <;> exact ⟨rfl, rfl, rfl, fun _ => rfl⟩
  | _ =>
    obtain rfl := Option.some.inj hturn
    exact ⟨rfl, rfl, rfl, fun _ => rfl⟩

end Loop

namespace Reaction

/-- If the reaction is one to a timer, then the deadline of the timer has passed. -/
def InTime (r : Reaction) : Prop :=
  ∀ time, (time, r.event) ∈ r.loop.deadlines → time ≤ r.now

/-- The reaction comes no later than any timer goes off. -/
def Prompt (r : Reaction) : Prop :=
  ∀ timer ∈ r.loop.timers, r.now ≤ timer.1

/-- When a heartbeat is due, the loop is held up for so many nanoseconds at most. -/
def HeldUpAtMost (r : Reaction) (lag : Nat) : Prop :=
  ∀ ticker, r.loop.heartbeat.timer = some ticker → r.now ≤ ticker.due + lag

variable {r : Reaction} {ticker : Ticker}

instance : Decidable r.Prompt :=
  inferInstanceAs (Decidable (∀ timer ∈ r.loop.timers, r.now ≤ timer.1))

/-- The end of a handshake waits for no timer. -/
theorem InTime.of_connected {budget : Option Nat} (event : r.event = .connected budget) :
    r.InTime := by
  intro time htime
  rw [event] at htime
  simp [Loop.deadlines] at htime

/-- A command waits for no timer either. -/
theorem InTime.of_command {asked : Command} (event : r.event = .command asked) : r.InTime := by
  intro time htime
  rw [event] at htime
  simp [Loop.deadlines] at htime

theorem InTime.of_sweep (swept : r.event = .sweepDue) (passed : r.loop.sweep.due ≤ r.now) :
    r.InTime := by
  intro time htime
  rw [swept] at htime
  obtain rfl : time = r.loop.sweep.due := by simpa [Loop.deadlines] using htime
  exact passed

theorem InTime.of_due (due : r.event = .heartbeatDue)
    (timer : r.loop.heartbeat.timer = some ticker) (passed : ticker.due ≤ r.now) : r.InTime := by
  intro time htime
  rw [due] at htime
  obtain rfl : time = ticker.due := by simpa [Loop.deadlines, timer] using htime
  exact passed

theorem InTime.sweep_due_le (h : r.InTime) (swept : r.event = .sweepDue) :
    r.loop.sweep.due ≤ r.now := by
  apply h
  rw [swept, Loop.deadlines]
  exact List.mem_append_right _ (List.mem_singleton_self _)

theorem InTime.due_le (h : r.InTime) (due : r.event = .heartbeatDue)
    (timer : r.loop.heartbeat.timer = some ticker) : ticker.due ≤ r.now := by
  apply h
  rw [due, Loop.deadlines, timer]
  exact List.mem_append_left _ (List.mem_append_left _ (List.mem_singleton_self _))

theorem Prompt.le_firesAt (h : r.Prompt) (timer : r.loop.heartbeat.timer = some ticker) :
    r.now ≤ ticker.firesAt := by
  apply h (ticker.firesAt, .heartbeatDue)
  rw [Loop.timers, Heartbeat.firesAt?, timer]
  exact List.mem_append_left _ (List.mem_append_left _ (List.mem_singleton_self _))

/-- A loop that deals with every timer when it goes off takes all ticks in time. -/
theorem Prompt.heldUpAtMost (h : r.Prompt) : r.HeldUpAtMost Ticker.tolerance := by
  intro ticker timer
  exact Nat.le_trans (h.le_firesAt timer) ticker.firesAt_le

/-- A reaction at the time when a heartbeat is due is not held up. -/
theorem HeldUpAtMost.of_due {period : Duration}
    (timer : r.loop.heartbeat.timer = some ⟨period, r.now⟩) :
    r.HeldUpAtMost 0 := by
  intro found hfound
  obtain rfl := Option.some.inj (timer.symm.trans hfound)
  exact Nat.le_refl _

theorem HeldUpAtMost.mono {lag more : Nat} (h : r.HeldUpAtMost lag) (le : lag ≤ more) :
    r.HeldUpAtMost more := by
  intro ticker timer
  exact Nat.le_trans (h ticker timer) (Nat.add_le_add_left le _)

end Reaction

end EventLink
