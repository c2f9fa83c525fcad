import EventLink.Client.Settings
import EventLink.Proofs.Loop.Driven
import EventLink.Proofs.Loop.Heartbeats
import EventLink.Proofs.Loop.Retries
/-!
What a client survives.

The loop panics if a timer cannot be set because its first tick lies beyond the clock.  The period of
the sweeps is bounded, and a delay beyond the clock is put to the far future.  The period of the
heartbeat is only bounded from below, so a connection that gets online may be the end of the client.
-/
namespace EventLink

/-- Sweeps are at least a millisecond apart and at most half a minute, however long a reply may
take. -/
theorem nanos_sweepPeriod (lifetime : Option Duration) :
    1000000 ≤ (sweepPeriod lifetime).nanos ∧ (sweepPeriod lifetime).nanos ≤ longestSweep.nanos := by
  have hlongest : longestSweep.nanos = 30000000000 := by decide
  rw [nanos_sweepPeriod_eq, hlongest]
  exact sweepNanos_bounds lifetime

theorem LoopConfig.le_beatPeriod (config : LoopConfig) : 1000000 ≤ config.beatPeriod := by
  have hshortest : shortestHeartbeat.nanos = 1000000 := by decide
  unfold beatPeriod
  omega

/-- A loop starts as long as the clock can show its first sweep. -/
theorem Loop.start_running_of_le {config : LoopConfig} {now : Nat}
    (room : now + (sweepPeriod config.replyLifetime).nanos ≤ Clock.latest) :
    ∃ loop, (Loop.start config now).task = .running loop := by
  have hsweep := Clock.after?_of_le room
  unfold start initial? Ticker.start?
  rw [hsweep]
  exact ⟨_, rfl⟩

namespace Loop.Reacts

variable {loop : Loop} {now : Nat} {gone : Nat → Bool} {verdict : Verdict}

/-- Only a heartbeat that cannot start makes a reaction panic. -/
theorem beyond_of_crashes {event : LoopEvent} {effects : List Effect}
    (h : loop.Reacts now gone event (.crashes effects)) :
    loop.attempting = true ∧ loop.heartbeat.start? now = none := by
  cases h with
  | overflowed budget attempting beyond => exact ⟨attempting, beyond⟩

theorem crashes_of_beyond {budget : Option Nat} (h : loop.Reacts now gone (.connected budget) verdict)
    (attempting : loop.attempting = true) (beyond : loop.heartbeat.start? now = none)
    (kept : ∀ turn, verdict ≠ .loses turn) : ∃ effects, verdict = .crashes effects := by
  cases h with
  | passed impossible => exact absurd (attempting.symm.trans impossible) (by decide)
  | buffered offers => exact absurd rfl (offers.not_connected budget)
  | sent offers => exact absurd rfl (offers.not_connected budget)
  | unsent offers => exact absurd rfl (offers.not_connected budget)
  | flushCut => exact absurd rfl (kept _)
  | replayCut => exact absurd rfl (kept _)
  | opened _ _ writer started heartbeat beats => exact absurd (beats.symm.trans beyond) (by simp)
  | overflowed => exact ⟨_, rfl⟩

end Loop.Reacts

theorem Reaction.crashed_iff {r : Reaction} :
    r.outcome.task = .crashed ↔ ∃ effects, r.verdict = .crashes effects := by
  rw [outcome_eq]
  cases r.verdict <;> simp [Loop.conclude]

namespace Run

variable {config : LoopConfig} {history : List Reaction} {r : Reaction}

/-- While a loop attempts to connect, its heartbeat can start unless the first tick is beyond the
clock. -/
theorem start?_eq_none (before : Run config history (.running r.loop))
    (attempting : r.loop.attempting = true) :
    r.loop.heartbeat.start? r.now = none ↔ Clock.latest < r.now + config.beatPeriod := by
  obtain ⟨phase, hphase⟩ := before.exists_phase r.loop rfl
  have hstill := (hphase.connecting_of_attempting attempting).still
  rw [Heartbeat.start?_eq_none hstill, before.nanos_period r.loop rfl]

theorem not_crashed_of_le (before : Run config history (.running r.loop))
    (room : r.now + config.beatPeriod ≤ Clock.latest) : r.outcome.task ≠ .crashed := by
  intro hcrashed
  obtain ⟨effects, hverdict⟩ := Reaction.crashed_iff.mp hcrashed
  obtain ⟨attempting, beyond⟩ := (hverdict ▸ r.reacts).beyond_of_crashes
  exact absurd ((before.start?_eq_none attempting).mp beyond) (Nat.not_lt.mpr room)

/-- A connection that gets online too late for its heartbeat is the end of the loop. -/
theorem crashed_of_lt (before : Run config history (.running r.loop))
    (opened : r.change? = some .opened) (beyond : Clock.latest < r.now + config.beatPeriod) :
    r.outcome.task = .crashed := by
  obtain ⟨phase, hphase⟩ := before.exists_phase r.loop rfl
  obtain ⟨⟨attempting, budget, hevent⟩, hkept⟩ := (Reaction.change?_eq_opened hphase).mp opened
  apply Reaction.crashed_iff.mpr
  exact (hevent ▸ r.reacts).crashes_of_beyond attempting
    ((before.start?_eq_none attempting).mpr beyond) hkept

end Run

namespace Service.Reachable

variable {config : LoopConfig} {s : Service}

/-- A client lasts while it is held, as long as the clock can show the deadlines of its timers.  The
periods of the timers are never zero.  The loop starts, a loss never stops it, and no reaction makes it
panic if the first heartbeat after it would be within the clock; so it stops only when no handle is
left and everything was taken out of the queue.  The exception are heartbeats that lie beyond the
clock, as their period has no upper bound: then the loop panics as soon as a connection gets online,
whoever holds the client. -/
theorem lasts_while_held (reachable : Reachable config s) :
    (1000000 ≤ config.beatPeriod ∧ 1000000 ≤ (sweepPeriod config.replyLifetime).nanos ∧
        (sweepPeriod config.replyLifetime).nanos ≤ longestSweep.nanos) ∧
      (∀ now, now + (sweepPeriod config.replyLifetime).nanos ≤ Clock.latest →
        ∃ loop, (Loop.start config now).task = .running loop) ∧
      (∀ before r later, s.history = before ++ r :: later →
        (r.Lost → ∃ next, r.outcome.task = .running next ∧ next.reconnect.isSome = true) ∧
          (r.now + config.beatPeriod ≤ Clock.latest → r.outcome.task ≠ .crashed) ∧
          (r.change? = some .opened → Clock.latest < r.now + config.beatPeriod →
            r.outcome.task = .crashed)) ∧
      (∀ before last, s.history = before ++ [last] →
        last.now + config.beatPeriod ≤ Clock.latest → s.task.isAlive = false →
          s.handles = 0 ∧ s.queue = []) := by
  refine ⟨⟨config.le_beatPeriod, nanos_sweepPeriod _⟩, fun now => Loop.start_running_of_le, ?_, ?_⟩
  · intro before r later hhistory
    have hrun := reachable.run
    rw [hhistory] at hrun
    have hbefore := hrun.before
    refine ⟨?_, hbefore.not_crashed_of_le, hbefore.crashed_of_lt⟩
    intro hlost
    obtain ⟨phase, hphase⟩ := hbefore.exists_phase r.loop rfl
    obtain ⟨next, hnext, _, harmed, _⟩ := hlost.outcome hphase
    exact ⟨next, hnext, by rw [harmed]; rfl⟩
  · intro before last hhistory hroom hdead
    have hrun := reachable.run
    rw [hhistory] at hrun
    obtain ⟨hbefore, htask⟩ := hrun.of_snoc
    have hnotCrashed : s.task ≠ .crashed := htask ▸ hbefore.not_crashed_of_le hroom
    have hfinished : s.task = .finished := by
      cases hend : s.task with
      | finished => rfl
      | crashed => exact absurd hend hnotCrashed
      | running loop => exact absurd (hend ▸ hdead) (by simp [Task.isAlive])
      | spinning => exact absurd (hend ▸ hdead) (by simp [Task.isAlive])
    obtain ⟨hunheld, hdrained, _⟩ := reachable.of_finished hfinished
    exact ⟨hunheld, hdrained⟩

end Service.Reachable

/-- A heartbeat every 2^62 seconds, which is half of what the clock can show. -/
def slowHeartbeat : LoopConfig :=
  { LoopConfig.standard with heartbeat := .ofSecs 4611686018427387904 }

/-- A client gets online and is lost, and then its handle is dropped. -/
def droppedAfterLoss : List Move :=
  [.connected 1 none, .message 2 .ended, .drop, .close 3 fun (_ : Nat) => false]

theorem Service.Reachable.lasts_while_held_of_droppedAfterLoss :
    ∃ s, Service.Reachable slowHeartbeat s ∧ s.history.length = 3 ∧ s.task.isAlive = false ∧
      s.handles = 0 ∧ s.queue = [] := by
  have hreachable : Service.Reachable slowHeartbeat
      (Service.driven slowHeartbeat 0 droppedAfterLoss) := (Service.Reachable.start 0).play _
  obtain ⟨before, last, hhistory, hlength, hroom⟩ : ∃ before last,
      (Service.driven slowHeartbeat 0 droppedAfterLoss).history = before ++ [last] ∧
        (before ++ [last]).length = 3 ∧ last.now + slowHeartbeat.beatPeriod ≤ Clock.latest :=
    ⟨[_, _], _, rfl, rfl, by decide +kernel⟩
  have hdead : (Service.driven slowHeartbeat 0 droppedAfterLoss).task.isAlive = false := rfl
  obtain ⟨hunheld, hdrained⟩ :=
    (lasts_while_held hreachable).2.2.2 before last hhistory hroom hdead
  exact ⟨_, hreachable, hhistory ▸ hlength, hdead, hunheld, hdrained⟩

def longestDuration : Duration :=
  ⟨longestNanos, Nat.le_refl _⟩

/-- Settings that ask for the longest heartbeat. -/
def endlessHeartbeat : ClientSettings :=
  { ClientSettings.ofUrl "" with origin := some ⟨false, "host"⟩, heartbeat := longestDuration }

def endlessClient : Client :=
  ⟨"ws://host/ws/events", none, { LoopConfig.standard with heartbeat := longestDuration }, none⟩

def onlineAtOnce : List Move :=
  [.connected 1 none]

/-- It is not true that a loop stops only when no handle is left: with `endlessHeartbeat` it panics
when it gets online, while its first handle is there. -/
theorem not_stopped_only_unheld :
    ¬ ∀ (settings : ClientSettings) (env : Environment) (client : Client),
      settings.connect env true = .ok client →
        ∀ s, Service.Reachable client.config s → s.task.isAlive = false → s.handles = 0 := by
  intro h
  have hconnect : endlessHeartbeat.connect ⟨[]⟩ true = .ok endlessClient := rfl
  have hreachable : Service.Reachable endlessClient.config
      (Service.driven endlessClient.config 0 onlineAtOnce) :=
    (Service.Reachable.start 0).play onlineAtOnce
  have hdead : (Service.driven endlessClient.config 0 onlineAtOnce).task.isAlive = false := by
    decide +kernel
  have hheld : (Service.driven endlessClient.config 0 onlineAtOnce).handles = 1 := by
    decide +kernel
  have hunheld := h endlessHeartbeat ⟨[]⟩ endlessClient hconnect _ hreachable hdead
  exact absurd (hheld.symm.trans hunheld) (by decide)

end EventLink
