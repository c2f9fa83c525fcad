import EventLink.Time.Ticker
/-!
The heartbeat: a sign of life that is sent once per period while a connection is open.
-/
namespace EventLink

def heartbeatTopic : String := "heartbeat"

def shortestHeartbeat : Duration := Duration.ofMillis 1

def standardHeartbeat : Duration := Duration.ofSecs 30

/-- A period, and the timer if it runs. -/
structure Heartbeat where
  period : Duration
  timer : Option Ticker
  deriving DecidableEq, Repr

namespace Heartbeat

/-- A heartbeat that does not run yet. -/
def ofPeriod (period : Duration) : Heartbeat :=
  ⟨Duration.longer period shortestHeartbeat, none⟩

def isRunning (h : Heartbeat) : Bool :=
  h.timer.isSome

/-- Starts the timer; false if it runs already.  None if the first tick would lie beyond the times
that a clock can show. -/
def start? (h : Heartbeat) (now : Nat) : Option (Bool × Heartbeat) :=
  match h.timer with
  | some _ => some (false, h)
  | none =>
    (Ticker.start? now h.period).map fun (ticker : Ticker) => (true, { h with timer := some ticker })

/-- Stops the timer; false if it did not run. -/
def stop (h : Heartbeat) : Bool × Heartbeat :=
  (h.timer.isSome, { h with timer := none })

def firesAt? (h : Heartbeat) : Option Nat :=
  h.timer.map Ticker.firesAt

def take (h : Heartbeat) (now : Nat) : Heartbeat :=
  { h with timer := h.timer.map fun (ticker : Ticker) => ticker.take now }

theorem isRunning_stop (h : Heartbeat) : h.stop.2.isRunning = false := rfl

theorem isRunning_take (h : Heartbeat) (now : Nat) : (h.take now).isRunning = h.isRunning := by
  unfold isRunning take
  exact Option.isSome_map

theorem isRunning_of_start {h started : Heartbeat} {now : Nat} {first : Bool}
    (hstart : h.start? now = some (first, started)) : started.isRunning = true := by
  unfold start? at hstart
  split at hstart
  · next timer htimer =>
    obtain ⟨_, rfl⟩ := Prod.mk.inj (Option.some.inj hstart)
    rw [isRunning, htimer]
    rfl
  · obtain ⟨ticker, _, hpair⟩ := Option.map_eq_some_iff.mp hstart
    obtain ⟨_, rfl⟩ := Prod.mk.inj hpair
    rfl

/-- Waits for a tick for some time, which counts to its end.  Returns whether a tick came, the time
when the waiting was over, and the heartbeat after it. -/
def await (h : Heartbeat) (now limit : Nat) : Bool × Nat × Heartbeat :=
  match h.firesAt? with
  | some time =>
    if time ≤ now + limit then (true, max now time, h.take (max now time))
    else (false, now + limit, h)
  | none => (false, now + limit, h)

end Heartbeat

end EventLink
