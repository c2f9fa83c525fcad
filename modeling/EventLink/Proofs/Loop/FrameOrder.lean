import EventLink.Proofs.Loop.Phase
/-!
The order of event frames.

A frame that is to be sent is written at once, or it waits for a connection, or it is written later
when a new connection takes what has waited, which may be cut short.  On each of these ways it keeps
its place: what was handed over is what was written followed by what waits.
-/
namespace EventLink

open Json (Value)

/-- A frame that is to be sent, and who takes the reply to it. -/
structure Offer where
  frame : OutgoingFrame
  recipient : Option Recipient

/-- What the reaction to an event has to send: the frame of an event that is emitted, or a heartbeat.
There is no frame without an identifier for its reply. -/
def Loop.offersAt (loop : Loop) (now : Nat) : LoopEvent → List Offer
  | .command (.emit topic data none) => [⟨.event topic data none, none⟩]
  | .command (.emit topic data (some recipient)) =>
    match loop.replies.expect now recipient with
    | some (id, _) => [⟨.event topic data (some id), some recipient⟩]
    | none => []
  | .heartbeatDue =>
    if loop.heartbeat.isRunning then [⟨.event heartbeatTopic none none, none⟩] else []
  | _ => []

namespace Reaction

/-- What a reaction has to send. -/
def offers (r : Reaction) : List Offer :=
  r.loop.offersAt r.now r.event

def offered (r : Reaction) : List OutgoingFrame :=
  r.offers.map Offer.frame

end Reaction

/-- The frames that were to be sent in a series of reactions, in the order of the reactions. -/
def framesOffered (history : List Reaction) : List OutgoingFrame :=
  history.flatMap Reaction.offered

def eventFramesOf (effects : List Effect) : List OutgoingFrame :=
  (framesOf effects).filter fun (frame : OutgoingFrame) => frame.kind = .event

/-- The event frames that were written in a series of reactions, on any connection. -/
def eventsWritten (history : List Reaction) : List OutgoingFrame :=
  history.flatMap fun (r : Reaction) => eventFramesOf r.effects

@[simp]
theorem framesOffered_snoc (history : List Reaction) (r : Reaction) :
    framesOffered (history ++ [r]) = framesOffered history ++ r.offered := by
  simp [framesOffered]

@[simp]
theorem eventsWritten_snoc (history : List Reaction) (r : Reaction) :
    eventsWritten (history ++ [r]) = eventsWritten history ++ eventFramesOf r.effects := by
  simp [eventsWritten]

@[simp]
theorem eventFramesOf_append (first later : List Effect) :
    eventFramesOf (first ++ later) = eventFramesOf first ++ eventFramesOf later := by
  simp [eventFramesOf]

theorem eventFramesOf_eq_nil {effects : List Effect} (h : framesOf effects = []) :
    eventFramesOf effects = [] := by
  rw [eventFramesOf, h, List.filter_nil]

theorem eventFramesOf_writes {frames : List OutgoingFrame}
    (events : ∀ frame ∈ frames, frame.kind = .event) :
    eventFramesOf (frames.flatMap Effect.ofWrite) = frames := by
  rw [eventFramesOf, framesOf_writes, List.filter_eq_self]
  intro frame hframe
  exact decide_eq_true (events frame hframe)

theorem eventFramesOf_subscribes {frames : List OutgoingFrame}
    (subscribes : ∀ frame ∈ frames, frame.kind = .subscribe) :
    eventFramesOf (frames.flatMap Effect.ofWrite) = [] := by
  rw [eventFramesOf, framesOf_writes, List.filter_eq_nil_iff]
  intro frame hframe
  simp [subscribes frame hframe]

namespace Loop

variable {loop : Loop} {now : Nat} {gone : Nat → Bool} {event : LoopEvent} {verdict : Verdict}

theorem kind_of_offersAt {offer : Offer} (h : offer ∈ loop.offersAt now event) :
    offer.frame.kind = .event := by
  unfold offersAt at h
  split at h
  · obtain rfl := List.mem_singleton.mp h
    rfl
  · split at h
    · obtain rfl := List.mem_singleton.mp h
      rfl
    · exact absurd h List.not_mem_nil
  · split at h
    · obtain rfl := List.mem_singleton.mp h
      rfl
    · exact absurd h List.not_mem_nil
  · exact absurd h List.not_mem_nil

/-- What is passed over has nothing to send. -/
theorem PassesOver.offersAt (h : loop.PassesOver event) : loop.offersAt now event = [] := by
  cases event with
  | command command => exact absurd h id
  | heartbeatDue =>
    have hstopped : loop.heartbeat.isRunning = false := h
    simp [Loop.offersAt, hstopped]
  | _ => rfl

namespace Offers

variable {ready : Loop} {frame : OutgoingFrame} {effects : List Effect}

theorem offersAt (offers : loop.Offers now event ready frame effects) :
    (loop.offersAt now event).map Offer.frame = [frame] := by
  cases offers with
  | plain topic data => rfl
  | request topic data recipient id replies expected => simp [Loop.offersAt, expected]
  | heartbeat running => simp [Loop.offersAt, running]

theorem framesOf (offers : loop.Offers now event ready frame effects) :
    framesOf effects = [] := by
  cases offers <;> rfl

theorem kind (offers : loop.Offers now event ready frame effects) : frame.kind = .event := by
  cases offers <;> rfl

end Offers

theorem kind_of_subscribeFrames : ∀ frame ∈ loop.subscribeFrames, frame.kind = .subscribe := by
  intro frame hframe
  obtain ⟨topic, _, rfl⟩ := List.mem_map.mp hframe
  rfl

end Loop

/-- The frames that wait when a reaction ends.  A loop that panics has written all of them. -/
def Verdict.unsent (before : Loop) : Verdict → List OutgoingFrame
  | stays turn => turn.loop.outbox.frames
  | loses turn => turn.loop.outbox.frames
  | stops _ => before.outbox.frames
  | crashes _ => []
  | spins => before.outbox.frames

/-- A reaction moves no frame past another.  The frames that waited, followed by those that it has to
send, are those that it writes, followed by those that wait after it. -/
theorem Loop.Reacts.frames_balance {loop : Loop} {now : Nat} {gone : Nat → Bool} {event : LoopEvent}
    {verdict : Verdict} (h : loop.Reacts now gone event verdict) {phase : Phase}
    (hphase : loop.IsIn phase) (events : ∀ frame ∈ loop.outbox.frames, frame.kind = .event) :
    loop.outbox.frames ++ (loop.offersAt now event).map Offer.frame =
      eventFramesOf verdict.effects ++ verdict.unsent loop := by
  have hreplay : eventFramesOf ((loop.outbox.frames ++ loop.subscribeFrames).flatMap
      Effect.ofWrite) = loop.outbox.frames := by
    rw [List.flatMap_append, eventFramesOf_append, eventFramesOf_writes events,
      eventFramesOf_subscribes kind_of_subscribeFrames, List.append_nil]
  cases h with
  | passed impossible => simp [impossible.offersAt, Verdict.unsent, Verdict.effects, eventFramesOf]
  | announced topic handler writer online =>
    have hdrained := (hphase.online_of_status online).drained
    simp [Loop.offersAt, Verdict.unsent, Verdict.effects, eventFramesOf, OutgoingFrame.kind,
      hdrained]
  | buffered offers offline =>
    obtain ⟨replies, heartbeat, _, rfl⟩ := offers.ready_eq
    rw [offers.offersAt, Verdict.effects, eventFramesOf_append, eventFramesOf_eq_nil offers.framesOf]
    rfl
  | sent offers writer online =>
    obtain ⟨replies, heartbeat, _, rfl⟩ := offers.ready_eq
    -- A frame overtakes nothing when it is written at once, because nothing waits then.
    have hdrained := (hphase.online_of_status online).drained
    simp [Verdict.effects, Verdict.unsent, hdrained, offers.offersAt, eventFramesOf,
      offers.framesOf, offers.kind]
  | unsent offers online =>
    obtain ⟨replies, heartbeat, _, rfl⟩ := offers.ready_eq
    rw [offers.offersAt, Verdict.effects, eventFramesOf_eq_nil offers.framesOf]
    rfl
  | flushCut budget attempting writer sent unsent split left =>
    have hsent : ∀ frame ∈ sent, frame.kind = .event := by
      intro frame hframe
      exact events frame (split ▸ List.mem_append_left unsent hframe)
    rw [Verdict.effects, eventFramesOf_writes hsent]
    exact (List.append_nil _).trans split.symm
  | replayCut budget attempting writer sent missing split left =>
    have hsent : ∀ frame ∈ sent, frame.kind = .subscribe := by
      intro frame hframe
      exact kind_of_subscribeFrames frame (split ▸ List.mem_append_left missing hframe)
    rw [Verdict.effects, List.flatMap_append, eventFramesOf_append, eventFramesOf_writes events,
      eventFramesOf_subscribes hsent]
    simp [Loop.offersAt, Verdict.unsent, Outbox.empty]
  | opened budget attempting writer started heartbeat beats =>
    rw [Verdict.effects, eventFramesOf_append, hreplay,
      eventFramesOf_eq_nil loop.framesOf_openingEffects]
    simp [Loop.offersAt, Verdict.unsent, Outbox.empty]
  | overflowed budget attempting beyond =>
    rw [Verdict.effects, eventFramesOf_append, hreplay]
    simp [Loop.offersAt, Verdict.unsent, eventFramesOf]
  | stopped =>
    rw [eventFramesOf_eq_nil loop.framesOf_stop]
    exact List.append_nil _
  | received listening carries =>
    rename_i message frame
    rw [Verdict.effects, eventFramesOf_eq_nil (loop.framesOf_deliver frame)]
    cases frame <;> exact List.append_nil _
  | swept =>
    rw [Verdict.effects, sweepReplies, eventFramesOf_eq_nil (framesOf_ofSwept _)]
    exact List.append_nil _
  | _ => simp [Loop.offersAt, Verdict.unsent, Verdict.effects, eventFramesOf, Loop.beginAttempt, *]

namespace Run

variable {config : LoopConfig} {history : List Reaction} {task : Task}

/-- Every frame that waits was to be sent, so it is an event. -/
theorem kind_of_waiting {frames written : List OutgoingFrame}
    (h : framesOffered history = written ++ frames) : ∀ frame ∈ frames, frame.kind = .event := by
  intro frame hframe
  have hoffered : frame ∈ framesOffered history := h ▸ List.mem_append_right written hframe
  obtain ⟨r, _, hr⟩ := List.mem_flatMap.mp hoffered
  obtain ⟨offer, hoffer, rfl⟩ := List.mem_map.mp hr
  exact Loop.kind_of_offersAt hoffer

/-- After a reaction, the frames to be sent so far are those that were written and those that it left
waiting. -/
theorem offered_after_of_offered {r : Reaction} (run : Run config history (.running r.loop))
    (balance : framesOffered history = eventsWritten history ++ r.loop.outbox.frames) :
    framesOffered (history ++ [r]) =
      eventsWritten (history ++ [r]) ++ r.verdict.unsent r.loop := by
  obtain ⟨phase, hphase⟩ := run.exists_phase r.loop rfl
  have hstep := r.reacts.frames_balance hphase (kind_of_waiting balance)
  rw [framesOffered_snoc, eventsWritten_snoc, balance, List.append_assoc, List.append_assoc]
  congr 1
  rw [eventFramesOf, r.framesOf_effects, ← eventFramesOf]
  exact hstep

/-- At every point of a run, the frames to be sent so far are those that were written and those that
wait. -/
theorem offered_eq (run : Run config history task) :
    ∀ loop, task = .running loop →
      framesOffered history = eventsWritten history ++ loop.outbox.frames := by
  induction run with
  | start now =>
    intro loop hloop
    obtain ⟨sweep, rfl⟩ := Loop.start_running hloop
    rfl
  | react r before ih =>
    intro next hnext
    rw [before.offered_after_of_offered (ih r.loop rfl)]
    rcases Reaction.running_cases hnext with ⟨turn, hverdict, rfl⟩ | ⟨turn, hverdict, rfl⟩
    · rw [hverdict, Verdict.unsent]
    · rw [hverdict, Verdict.unsent, (turn.loop.lose_kept r.now).2.2]

end Run

end EventLink
