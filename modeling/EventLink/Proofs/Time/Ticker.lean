import EventLink.Time.Heartbeat
/-!
The ticks of a timer, one after another.

A tick that is not taken before it is due is followed by one that is due a period later at least, and
exactly a period later if the tick is taken in time.  All of this is about times that a clock can
show.
-/
namespace EventLink

theorem Clock.after?_eq_some {now : Nat} {d : Duration} {time : Nat}
    (h : after? now d = some time) : time = now + d.nanos := by
  unfold after? at h
  split at h
  · exact (Option.some.inj h).symm
  · exact absurd h (by simp)

theorem Clock.after?_eq_none {now : Nat} {d : Duration} :
    after? now d = none ↔ latest < now + d.nanos := by
  unfold after?
  split <;> simp <;> omega

theorem Clock.after?_of_le {now : Nat} {d : Duration} (h : now + d.nanos ≤ latest) :
    after? now d = some (now + d.nanos) :=
  if_pos h

/-- A sleeper is woken less than a millisecond after its deadline. -/
theorem Clock.wakeUp_lt (deadline : Nat) : wakeUp deadline < deadline + 1000000 := by
  unfold wakeUp
  omega

theorem Clock.wakeUp_mono {first later : Nat} (h : first ≤ later) :
    wakeUp first ≤ wakeUp later := by
  unfold wakeUp
  omega

/-- Deadlines on whole milliseconds are met exactly. -/
theorem Clock.wakeUp_of_dvd {deadline : Nat} (h : 1000000 ∣ deadline) :
    wakeUp deadline = deadline := by
  unfold wakeUp
  omega

namespace Ticker

variable {ticker : Ticker} {now : Nat}

theorem of_start {period : Duration} (h : start? now period = some ticker) :
    ticker.period = period ∧ ticker.due = now + period.nanos := by
  obtain ⟨due, hdue, rfl⟩ := Option.map_eq_some_iff.mp h
  exact ⟨rfl, Clock.after?_eq_some hdue⟩

theorem period_take (ticker : Ticker) (now : Nat) : (ticker.take now).period = ticker.period := by
  rw [take]

/-- Two ticks are due at least a period apart. -/
theorem le_due_take (inTime : ticker.due ≤ now)
    (clock : now + ticker.period.nanos ≤ Clock.latest) :
    ticker.due + ticker.period.nanos ≤ (ticker.take now).due := by
  by_cases hlate : ticker.due + tolerance < now
  · simp only [take, if_pos hlate, Clock.after?_of_le clock, Option.getD_some]
    omega
  · have hclock : ticker.due + ticker.period.nanos ≤ Clock.latest := by omega
    simp only [take, if_neg hlate, Clock.after?_of_le hclock, Option.getD_some]
    exact Nat.le_refl _

/-- Whoever waits for a tick gets it in time. -/
theorem firesAt_le (ticker : Ticker) : ticker.firesAt ≤ ticker.due + tolerance := by
  have hsoon := Clock.wakeUp_lt ticker.due
  unfold firesAt tolerance
  omega

/-- After a tick that is taken in time, the next one is due a period after it was due. -/
theorem due_take (passed : ticker.due ≤ now) (inTime : now ≤ ticker.due + tolerance)
    (clock : now + ticker.period.nanos ≤ Clock.latest) :
    (ticker.take now).due = ticker.due + ticker.period.nanos := by
  have hclock : ticker.due + ticker.period.nanos ≤ Clock.latest := by omega
  simp only [take, if_neg (Nat.not_lt.mpr inTime), Clock.after?_of_le hclock, Option.getD_some]

/-- A tick that is taken in time leaves the next one to come, if ticks are a millisecond apart. -/
theorem le_due_of_prompt (prompt : now ≤ ticker.firesAt)
    (spaced : 1000000 ≤ ticker.period.nanos) : now ≤ (ticker.take now).due := by
  have hsoon : ticker.firesAt < ticker.due + 1000000 := Clock.wakeUp_lt ticker.due
  simp only [take, if_neg (Nat.not_lt.mpr (Nat.le_trans prompt ticker.firesAt_le))]
  cases hnext : Clock.after? ticker.due ticker.period with
  | none => exact Nat.le_add_right now _
  | some due =>
    rw [Option.getD_some, Clock.after?_eq_some hnext]
    omega

end Ticker

namespace Heartbeat

variable {h : Heartbeat} {now : Nat}

theorem nanos_period_ofPeriod (period : Duration) :
    (ofPeriod period).period.nanos = max period.nanos shortestHeartbeat.nanos :=
  Duration.nanos_longer period shortestHeartbeat

theorem period_of_start {started : Heartbeat} {first : Bool}
    (hstart : h.start? now = some (first, started)) : started.period = h.period := by
  unfold start? at hstart
  split at hstart
  · obtain ⟨_, rfl⟩ := Prod.mk.inj (Option.some.inj hstart)
    rfl
  · obtain ⟨ticker, _, hpair⟩ := Option.map_eq_some_iff.mp hstart
    obtain ⟨_, rfl⟩ := Prod.mk.inj hpair
    rfl

/-- A timer that starts is due a period from now. -/
theorem timer_of_start {started : Heartbeat} {first : Bool} (still : h.isRunning = false)
    (hstart : h.start? now = some (first, started)) :
    ∃ ticker, started.timer = some ticker ∧ ticker.period = h.period ∧
      ticker.due = now + h.period.nanos := by
  unfold start? at hstart
  split at hstart
  · next timer htimer =>
    rw [isRunning, htimer] at still
    exact absurd still (by simp)
  · obtain ⟨ticker, hticker, hpair⟩ := Option.map_eq_some_iff.mp hstart
    obtain ⟨_, rfl⟩ := Prod.mk.inj hpair
    exact ⟨ticker, rfl, Ticker.of_start hticker⟩

/-- A timer that does not run yet cannot start if its first tick is beyond the clock. -/
theorem start?_eq_none (still : h.isRunning = false) :
    h.start? now = none ↔ Clock.latest < now + h.period.nanos := by
  have htimer : h.timer = none := by simpa [isRunning] using still
  rw [start?, htimer, Option.map_eq_none_iff, Ticker.start?, Option.map_eq_none_iff,
    Clock.after?_eq_none]

theorem take_of_still (still : h.isRunning = false) (now : Nat) : h.take now = h := by
  obtain ⟨period, timer⟩ := h
  cases timer with
  | none => rfl
  | some ticker => exact absurd still (by simp [isRunning])

end Heartbeat

end EventLink
