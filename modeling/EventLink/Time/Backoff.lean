import EventLink.Time.Duration
/-!
Delays between attempts to connect.

Every loss takes the next delay and doubles it for the one after it, up to a largest delay.  A
connection that comes about sets the delay back to the smallest one.
-/
namespace EventLink

def shortestDelay : Duration := Duration.ofMillis 1

/-- The smallest and the largest delay, and the one that comes next. -/
structure Backoff where
  least : Duration
  most : Duration
  next : Duration
  deriving DecidableEq, Repr

namespace Backoff

/-- Delays within bounds.  None is shorter than a millisecond, and the largest is not smaller than
the smallest. -/
def ofBounds (least most : Duration) : Backoff :=
  let floor := Duration.longer least shortestDelay
  ⟨floor, Duration.longer most floor, floor⟩

/-- From one second to thirty-two. -/
def standard : Backoff :=
  ofBounds (Duration.ofSecs 1) (Duration.ofSecs 32)

/-- Takes the next delay; the one after it is twice as long, or the largest. -/
def take (b : Backoff) : Duration × Backoff :=
  let doubled :=
    if b.next.nanos < b.most.nanos then Duration.shorter b.next.double b.most else b.next
  (b.next, { b with next := doubled })

def reset (b : Backoff) : Backoff :=
  { b with next := b.least }

theorem next_reset (b : Backoff) : b.reset.next = b.least := rfl

end Backoff

end EventLink
