import EventLink.Time.Duration
/-!
Timers that fire again and again.

A ticker knows when it is due.  A tick that is taken in time is followed by the next one a period
after it was due; a tick that is taken late is followed by the next one a period after it was taken,
so that missed ticks do not pile up.
-/
namespace EventLink

/-- A period, and the time of the next tick. -/
structure Ticker where
  period : Duration
  due : Nat
  deriving DecidableEq, Repr

namespace Ticker

/-- How much later than due a tick may be taken and still count as taken in time. -/
def tolerance : Nat := 5000000

/-- A ticker whose first tick is a period away; none if no clock can ever show that time. -/
def start? (now : Nat) (period : Duration) : Option Ticker :=
  (Clock.after? now period).map fun (due : Nat) => ⟨period, due⟩

/-- The time at which the next tick is handed out, if anybody waits for it. -/
def firesAt (ticker : Ticker) : Nat :=
  Clock.wakeUp ticker.due

def take (ticker : Ticker) (now : Nat) : Ticker :=
  let origin := if ticker.due + tolerance < now then now else ticker.due
  { ticker with due := (Clock.after? origin ticker.period).getD (Clock.farFuture now) }

end Ticker

end EventLink
