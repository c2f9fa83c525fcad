import EventLink.Proofs.Loop.FrameOrder
import EventLink.Proofs.Loop.Memory
import EventLink.Proofs.Reply.Waiting
/-!
Requests and the recipients of their replies.

A request puts its recipient into the table and its identifier into its frame, in one reaction.  Only
a reply or a sweep takes a recipient out of the table again.
-/
namespace EventLink

open Json (Value)

def IncomingFrame.reply? : IncomingFrame → Option (String × Value)
  | reply id data => some (id, data)
  | event _ _ => none

def LoopEvent.reply? : LoopEvent → Option (String × Value)
  | .message incoming => incoming.frame?.bind IncomingFrame.reply?
  | _ => none

namespace Loop

variable {loop : Loop} {now : Nat} {gone : Nat → Bool} {event : LoopEvent}

theorem Offers.reply? {ready : Loop} {frame : OutgoingFrame} {effects : List Effect}
    (offers : loop.Offers now event ready frame effects) : event.reply? = none := by
  cases offers <;> rfl

theorem reply?_of_isLast {message : Message} (last : message.isLast = true) :
    (LoopEvent.message message).reply? = none := by
  cases message with
  | text content => exact absurd last Bool.false_ne_true
  | binary bytes => exact absurd last Bool.false_ne_true
  | control => rfl
  | close => rfl
  | failure => rfl
  | ended => rfl

/-- The reaction to a reply that comes in over a connection is to deliver it. -/
theorem Reacts.verdict_of_reply {verdict : Verdict} (h : loop.Reacts now gone event verdict)
    {id : String} {data : Value} (reply : event.reply? = some (id, data))
    (listening : loop.listening = true) : verdict = .stays (loop.deliver (.reply id data)) := by
  cases h with
  | @passed event impossible =>
    cases event with
    | message message => exact absurd (listening.symm.trans impossible) (by decide)
    | _ => exact absurd reply (by simp [LoopEvent.reply?])
  | buffered offers offline => exact absurd (offers.reply?.symm.trans reply) (by simp)
  | sent offers writer online => exact absurd (offers.reply?.symm.trans reply) (by simp)
  | unsent offers online => exact absurd (offers.reply?.symm.trans reply) (by simp)
  | @received message frame _ carries =>
    rw [LoopEvent.reply?, carries, Option.bind_some] at reply
    cases frame with
    | event topic data => exact absurd reply (by simp [IncomingFrame.reply?])
    | reply known given =>
      obtain ⟨rfl, rfl⟩ := Prod.mk.inj (Option.some.inj reply)
      rfl
  | discarded _ data carries =>
    rw [LoopEvent.reply?, carries] at reply
    exact absurd reply (by simp)
  | hungUp _ last => exact absurd ((reply?_of_isLast last).symm.trans reply) (by simp)
  | _ => exact absurd reply (by simp [LoopEvent.reply?, Message.frame?])

/-- An event brings a request, whose identifier was free, or what it has to send wants no reply.  It
leaves those waiting who waited, and lets the recipient of the request wait, unless it brings a reply
or makes a sweep take somebody out. -/
theorem request_or_plain (loop : Loop) (now : Nat) (gone : Nat → Bool) {event : LoopEvent}
    (unreplied : event.reply? = none)
    (unswept : event = .sweepDue → (loop.replies.sweep now gone).1 = []) :
    ((loop.repliesAfter now gone event).waiters = loop.replies.waiters ∧
        ∀ offer ∈ loop.offersAt now event, offer.frame.id? = none) ∨
      ∃ topic data id recipient,
        loop.offersAt now event = [⟨.event topic data (some id), some recipient⟩] ∧
          id ∉ loop.replies.ids ∧
          (loop.repliesAfter now gone event).waiters =
            loop.replies.waiters ++ [⟨id, recipient, now⟩] := by
  cases event with
  | command asked =>
    cases asked with
    | emit topic data recipient =>
      cases recipient with
      | none => exact Or.inl ⟨rfl, List.forall_mem_singleton.mpr rfl⟩
      | some recipient =>
        cases hexpect : loop.replies.expect now recipient with
        | none =>
          refine Or.inl ⟨?_, ?_⟩
          · simp [repliesAfter, hexpect]
          · simp [offersAt, hexpect]
        | some found =>
          obtain ⟨hfree, hwaiters⟩ := ReplyTable.of_expect_eq_some hexpect
          refine Or.inr ⟨topic, data, found.1, recipient, ?_, hfree, ?_⟩
          · simp [offersAt, hexpect]
          · rw [repliesAfter, hexpect]
            exact hwaiters
    | _ => exact Or.inl ⟨rfl, List.forall_mem_nil _⟩
  | message incoming =>
    refine Or.inl ⟨?_, List.forall_mem_nil _⟩
    rw [repliesAfter]
    split
    · next id data hcarries _ =>
      rw [LoopEvent.reply?, hcarries] at unreplied
      exact absurd unreplied (by simp [IncomingFrame.reply?])
    · rfl
  | heartbeatDue =>
    refine Or.inl ⟨rfl, ?_⟩
    intro offer hoffer
    rw [offersAt] at hoffer
    split at hoffer
    · obtain rfl := List.mem_singleton.mp hoffer
      rfl
    · exact absurd hoffer List.not_mem_nil
  | sweepDue => exact Or.inl ⟨ReplyTable.waiters_sweep (unswept rfl), List.forall_mem_nil _⟩
  | _ => exact Or.inl ⟨rfl, List.forall_mem_nil _⟩

theorem distinct_repliesAfter (distinct : loop.replies.Distinct) :
    (loop.repliesAfter now gone event).Distinct := by
  unfold repliesAfter
  split
  · split
    · next expected => exact distinct.expect expected
    · exact distinct
  · split
    · exact distinct.take
    · exact distinct
  · exact distinct.sweep
  · exact distinct

theorem lifetime_repliesAfter :
    (loop.repliesAfter now gone event).lifetime = loop.replies.lifetime := by
  unfold repliesAfter
  split
  · split
    · next expected => exact ReplyTable.lifetime_expect expected
    · rfl
  · split
    · exact ReplyTable.lifetime_take
    · rfl
  · rfl
  · rfl

end Loop

/-- At no point of a run do two recipients wait under the same identifier. -/
theorem Run.distinct {config : LoopConfig} {history : List Reaction} {task : Task}
    (run : Run config history task) : ∀ loop, task = .running loop → loop.replies.Distinct := by
  induction run with
  | start now =>
    intro loop hloop
    obtain ⟨sweep, rfl⟩ := Loop.start_running hloop
    exact List.nodup_nil
  | react r before ih =>
    intro next hnext
    rw [(Reaction.remembers hnext).2]
    exact Loop.distinct_repliesAfter (ih r.loop rfl)

/-- How long a reply may take does not change in a run. -/
theorem Run.lifetime_eq {config : LoopConfig} {history : List Reaction} {task : Task}
    (run : Run config history task) :
    ∀ loop, task = .running loop → loop.replies.lifetime = config.replyLifetime := by
  induction run with
  | start now =>
    intro loop hloop
    obtain ⟨sweep, rfl⟩ := Loop.start_running hloop
    rfl
  | react r before ih =>
    intro next hnext
    rw [(Reaction.remembers hnext).2, Loop.lifetime_repliesAfter, ih r.loop rfl]

end EventLink
