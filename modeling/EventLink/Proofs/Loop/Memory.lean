import EventLink.Proofs.Loop.Run
/-!
What the loop remembers from one reaction to the next.

Who wants to be called and who waits for a reply depend on the event alone, not on how the reaction
ends: a connection that breaks in the middle of it changes neither.
-/
namespace EventLink

namespace Loop

/-- Who wants to be called after an event. -/
def subscriptionsAfter (loop : Loop) : LoopEvent → Subscriptions
  | .command (.subscribe topic handler) => (loop.subscriptions.addHandler topic handler).2
  | .command (.watch event call) => loop.subscriptions.addWatcher event call
  | _ => loop.subscriptions

/-- Who waits for a reply after an event.  A message only counts if there is a connection. -/
def repliesAfter (loop : Loop) (now : Nat) (gone : Nat → Bool) : LoopEvent → ReplyTable
  | .command (.emit _ _ (some recipient)) =>
    match loop.replies.expect now recipient with
    | some (_, replies) => replies
    | none => loop.replies
  | .message message =>
    match message.frame?, loop.listening with
    | some (.reply id _), true => (loop.replies.take id).2
    | _, _ => loop.replies
  | .sweepDue => (loop.replies.sweep now gone).2
  | _ => loop.replies

variable {loop : Loop} {now : Nat} {gone : Nat → Bool} {event : LoopEvent} {verdict : Verdict}

theorem PassesOver.remembers (now : Nat) (gone : Nat → Bool) (h : loop.PassesOver event) :
    loop.subscriptionsAfter event = loop.subscriptions ∧
      loop.repliesAfter now gone event = loop.replies := by
  cases event with
  | command command => exact absurd h id
  | message message =>
    have hdeaf : loop.listening = false := h
    refine ⟨rfl, ?_⟩
    rw [repliesAfter, hdeaf]
    split <;> simp_all
  | sweepDue => exact absurd h id
  | _ => exact ⟨rfl, rfl⟩

theorem Offers.remembers {ready : Loop} {frame : OutgoingFrame} {effects : List Effect}
    (gone : Nat → Bool) (offers : loop.Offers now event ready frame effects) :
    ready.subscriptions = loop.subscriptionsAfter event ∧
      ready.replies = loop.repliesAfter now gone event := by
  cases offers with
  | plain topic data => exact ⟨rfl, rfl⟩
  | request topic data recipient id replies expected =>
    exact ⟨rfl, by simp [repliesAfter, expected]⟩
  | heartbeat running => exact ⟨rfl, rfl⟩

/-- However a reaction ends, if the loop goes on it remembers what the event made of its memory. -/
theorem Reacts.remembers (h : loop.Reacts now gone event verdict) {turn : Turn}
    (hturn : verdict.turn? = some turn) :
    turn.loop.subscriptions = loop.subscriptionsAfter event ∧
      turn.loop.replies = loop.repliesAfter now gone event := by
  cases h with
  | spun => exact absurd hturn (by simp [Verdict.turn?])
  | stopped => exact absurd hturn (by simp [Verdict.turn?, stop])
  | overflowed => exact absurd hturn (by simp [Verdict.turn?])
  | passed impossible =>
    obtain rfl := Option.some.inj hturn
    obtain ⟨hsubscriptions, hreplies⟩ := impossible.remembers now gone
    exact ⟨hsubscriptions.symm, hreplies.symm⟩
  | buffered offers offline =>
    obtain rfl := Option.some.inj hturn
    exact offers.remembers gone
  | sent offers writer online =>
    obtain rfl := Option.some.inj hturn
    exact offers.remembers gone
  | unsent offers online =>
    obtain rfl := Option.some.inj hturn
    exact offers.remembers gone
  | @received message frame listening carries =>
    obtain rfl := Option.some.inj hturn
    cases frame <;> simp [deliver, subscriptionsAfter, repliesAfter, listening, carries]
  | @discarded message listening data carries =>
    obtain rfl := Option.some.inj hturn
    simp [subscriptionsAfter, repliesAfter, listening, carries]
  | @hungUp message listening last =>
    obtain rfl := Option.some.inj hturn
    cases message <;> simp [Message.isLast] at last <;>
      simp [subscriptionsAfter, repliesAfter, Message.frame?]
  | _ =>
    obtain rfl := Option.some.inj hturn
    exact ⟨rfl, rfl⟩

end Loop

/-- What a loop that goes on remembers is what the event made of its memory. -/
theorem Reaction.remembers {r : Reaction} {next : Loop} (h : r.outcome.task = .running next) :
    next.subscriptions = r.loop.subscriptionsAfter r.event ∧
      next.replies = r.loop.repliesAfter r.now r.gone r.event := by
  obtain ⟨turn, hturn, hsubscriptions, hreplies, _⟩ := kept_of_running h
  rw [hsubscriptions, hreplies]
  exact r.reacts.remembers hturn

end EventLink
