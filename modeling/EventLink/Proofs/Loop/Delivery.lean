import EventLink.Proofs.Loop.FrameOrder
import EventLink.Proofs.Loop.Service
/-!
From a handle to the wire.

What the handles of a client emit is written in the order in which it was accepted, with heartbeats in
between, unless it still waits in the queue or in the loop.
-/
namespace EventLink

open Json (Value)

/-- What a command wants to be sent. -/
def Command.content? : Command → Option (String × Option Value)
  | emit topic data _ => some (topic, data)
  | _ => none

/-- What a frame tells those who are interested in its topic. -/
def OutgoingFrame.content? : OutgoingFrame → Option (String × Option Value)
  | event topic data _ => some (topic, data)
  | subscribe _ => none

/-- What a command wants to be sent is to be sent, unless the loop looks for an identifier without
end. -/
theorem Reaction.content_sublist_offered {r : Reaction} {next : Loop}
    (h : r.outcome.task = .running next) :
    (r.event.command?.toList.filterMap Command.content?).Sublist
      (r.offered.filterMap OutgoingFrame.content?) := by
  obtain ⟨loop, now, gone, event⟩ := r
  cases event with
  | command asked =>
    cases asked with
    | emit topic data recipient =>
      cases recipient with
      | none => exact List.Sublist.refl _
      | some recipient =>
        cases hexpect : loop.replies.expect now recipient with
        | some found =>
          have hoffered : Reaction.offered ⟨loop, now, gone, .command (.emit topic data
              (some recipient))⟩ = [.event topic data (some found.1)] := by
            simp [offered, offers, Loop.offersAt, hexpect]
          rw [hoffered]
          exact List.Sublist.refl _
        | none =>
          simp [outcome, Loop.step, Loop.react, Loop.obey, hexpect, Loop.conclude] at h
    | _ => exact List.nil_sublist _
  | _ => exact List.nil_sublist _

namespace Run

variable {config : LoopConfig} {history : List Reaction} {task : Task}

/-- What the commands so far wanted to be sent was to be sent, in their order. -/
theorem contents_sublist_offered (run : Run config history task) :
    ∀ loop, task = .running loop →
      ((commandsTaken history).filterMap Command.content?).Sublist
        ((framesOffered history).filterMap OutgoingFrame.content?) := by
  induction run with
  | start now =>
    intro loop _
    exact List.nil_sublist _
  | react r before ih =>
    intro next hnext
    rw [commandsTaken_snoc, framesOffered_snoc, List.filterMap_append, List.filterMap_append]
    exact (ih r.loop rfl).append (Reaction.content_sublist_offered hnext)

end Run

namespace Service.Reachable

variable {config : LoopConfig} {s : Service}

/-- No event frame is lost, doubled or moved.  At every point of the life of a client, the frames that
were to be sent are those that were written, on whatever connections, followed by those that wait.
When the loop has stopped it has taken every command that was accepted, in their order; and if it was
online by then, everything that was emitted has been written. -/
theorem frames_in_order (reachable : Reachable config s) :
    (∀ loop, s.task = .running loop →
      framesOffered s.history = eventsWritten s.history ++ loop.outbox.frames ∧
        (framesOffered s.history).map OutgoingFrame.encode =
          (eventsWritten s.history).map OutgoingFrame.encode ++
            loop.outbox.frames.map OutgoingFrame.encode) ∧
      (s.task = .finished →
        commandsTaken s.history = s.accepted ∧
          ∃ before r, s.history = before ++ [r] ∧ r.event = .handlesGone ∧
            framesOffered s.history = eventsWritten s.history ++ r.loop.outbox.frames ∧
            (r.loop.status = .online →
              eventsWritten s.history = framesOffered s.history ∧
                (s.accepted.filterMap Command.content?).Sublist
                  ((eventsWritten s.history).filterMap OutgoingFrame.content?))) := by
  have hrun := reachable.run
  refine ⟨?_, ?_⟩
  · intro loop hloop
    have hbalance := hrun.offered_eq loop hloop
    refine ⟨hbalance, ?_⟩
    rw [hbalance, List.map_append]
  intro hfinished
  obtain ⟨_, hdrained, before, r, hhistory, hgone⟩ := reachable.of_finished hfinished
  have htaken : commandsTaken s.history = s.accepted := by
    rw [← reachable.taken_append_queue, hdrained, List.append_nil]
  rw [hhistory] at hrun htaken ⊢
  have hbefore := hrun.of_snoc.1
  have hunsent : r.verdict.unsent r.loop = r.loop.outbox.frames := by
    rw [Reaction.verdict, hgone]
    rfl
  have hbalance := hbefore.offered_after_of_offered (hbefore.offered_eq r.loop rfl)
  rw [hunsent] at hbalance
  refine ⟨htaken, before, r, rfl, hgone, hbalance, ?_⟩
  intro honline
  obtain ⟨phase, hphase⟩ := hbefore.exists_phase r.loop rfl
  rw [(hphase.online_of_status honline).drained, List.append_nil] at hbalance
  refine ⟨hbalance.symm, ?_⟩
  have hcontents := hbefore.contents_sublist_offered r.loop rfl
  have hlast : r.event.command? = none := by
    rw [hgone]
    rfl
  rw [← hbalance, ← htaken, commandsTaken_snoc, framesOffered_snoc, hlast, Option.toList_none,
    List.append_nil, List.filterMap_append]
  exact hcontents.trans (List.sublist_append_left _ _)

/-- After the frame of `brokenFlush` was written the only handle is dropped. -/
theorem frames_in_order_after_brokenFlush :
    ∃ s, Reachable LoopConfig.standard s ∧ s.task = .finished ∧
      s.accepted = [.emit "news" none none] ∧
      framesOffered s.history = [.event "news" none none] ∧
      eventsWritten s.history = framesOffered s.history := by
  obtain ⟨loop, hloop, honline⟩ : ∃ loop,
      (LoopConfig.standard.replay Run.brokenFlush).2 = .running loop ∧ loop.status = .online :=
    ⟨_, rfl, rfl⟩
  obtain ⟨s, hs, hhandles, haccepted, hqueue, hhistory, htask⟩ :=
    (LoopConfig.standard.run_replay Run.brokenFlush).exists_service (by simp [hloop]) <| by
      intro asked hasked
      obtain rfl := List.mem_singleton.mp hasked
      exact .emit "news" none none
  have closed := (hs.drop (by omega)).close ⟨loop, 9, fun _ => false, .handlesGone⟩
    (htask.trans hloop) (by simp [hhandles]) hqueue rfl
  refine ⟨_, closed, rfl, haccepted, ?_, ?_⟩
  · rw [reacted, framesOffered_snoc, hhistory]
    rfl
  obtain ⟨_, before, r, hlast, _, _, hwritten⟩ := closed.frames_in_order.2 rfl
  obtain rfl := (List.cons.inj (List.append_inj' hlast rfl).2).1
  exact (hwritten honline).1

end Service.Reachable

end EventLink
