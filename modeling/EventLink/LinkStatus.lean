/-!
Whether the client is connected.
-/
namespace EventLink

/-- A connection is online from the end of its opening sequence until it is lost. -/
inductive LinkStatus where
  | offline
  | online
  deriving DecidableEq, Repr

namespace LinkStatus

def isOnline : LinkStatus → Bool
  | offline => false
  | online => true

theorem isOnline_eq_true {status : LinkStatus} : status.isOnline = true ↔ status = online := by
  cases status <;> simp [isOnline]

theorem not_isOnline {status : LinkStatus} : ¬ status.isOnline = true ↔ status = offline := by
  cases status <;> simp [isOnline]

/-- The status as a number. -/
def gauge : LinkStatus → Int
  | offline => 0
  | online => 1

def name : LinkStatus → String
  | offline => "Disconnected"
  | online => "Open"

end LinkStatus

end EventLink
