import EventLink.Proofs.Loop.Run
/-!
Effects that most reactions have, and those that only few have.

Three kinds of effects are rare: an attempt to connect begins, the next attempt is put off, and the
loop tells about itself.  Each of them has one source, so whoever sees such an effect knows the
reaction that it comes from.
-/
namespace EventLink

/-- Whether an effect is none of the rare ones. -/
def Effect.isRoutine : Effect → Bool
  | .attempt => false
  | .armed _ => false
  | .summarized _ => false
  | _ => true

def Routine (effects : List Effect) : Prop :=
  ∀ effect ∈ effects, effect.isRoutine = true

@[simp]
theorem routine_nil : Routine [] :=
  List.forall_mem_nil _

@[simp]
theorem routine_cons (effect : Effect) (later : List Effect) :
    Routine (effect :: later) ↔ effect.isRoutine = true ∧ Routine later :=
  List.forall_mem_cons

@[simp]
theorem routine_append (first later : List Effect) :
    Routine (first ++ later) ↔ Routine first ∧ Routine later :=
  List.forall_mem_append

@[simp]
theorem routine_ofCalls (calls : List Call) : Routine (Effect.ofCalls calls) := by
  intro effect heffect
  obtain ⟨call, _, rfl⟩ := List.mem_map.mp heffect
  rfl

@[simp]
theorem routine_ofReply (data : Json.Value) (recipient : Recipient) :
    Routine (Effect.ofReply data recipient) := by
  cases recipient with
  | callback handler => exact routine_ofCalls _
  | channel number => simp [Effect.ofReply, Effect.isRoutine]

@[simp]
theorem routine_ofSwept (swept : List Waiter) : Routine (swept.filterMap Effect.ofSwept) := by
  intro effect heffect
  obtain ⟨w, _, hw⟩ := List.mem_filterMap.mp heffect
  unfold Effect.ofSwept at hw
  split at hw
  · exact absurd hw (by simp)
  · obtain rfl := Option.some.inj hw
    rfl

@[simp]
theorem routine_ofWrite (frame : OutgoingFrame) : Routine (Effect.ofWrite frame) := by
  simp [Effect.ofWrite, Effect.isRoutine]

@[simp]
theorem routine_writes (frames : List OutgoingFrame) :
    Routine (frames.flatMap Effect.ofWrite) := by
  induction frames with
  | nil => exact routine_nil
  | cons frame rest ih =>
    rw [List.flatMap_cons, routine_append]
    exact ⟨routine_ofWrite frame, ih⟩

namespace Loop

variable {loop : Loop} {now : Nat} {gone : Nat → Bool} {event : LoopEvent} {verdict : Verdict}

@[simp]
theorem routine_openingEffects : Routine loop.openingEffects := by
  simp [openingEffects, Effect.isRoutine]

@[simp]
theorem routine_deliver (frame : IncomingFrame) : Routine (loop.deliver frame).effects := by
  cases frame with
  | event topic data => simp [deliver, Effect.isRoutine]
  | reply id data =>
    simp only [deliver]
    cases (loop.replies.take id).1 <;> simp [Effect.isRoutine]

@[simp]
theorem Offers.routine {ready : Loop} {frame : OutgoingFrame} {effects : List Effect}
    (offers : loop.Offers now event ready frame effects) : Routine effects := by
  cases offers <;> simp [Effect.isRoutine]

/-- Most events lead to nothing but routine. -/
theorem Reacts.routine (h : loop.Reacts now gone event verdict)
    (notAsked : event ≠ .command .summarize) (notDue : event ≠ .reconnectDue) :
    Routine verdict.effects := by
  cases h with
  | summarized => exact absurd rfl notAsked
  | retried => exact absurd rfl notDue
  | buffered offers => simp [Verdict.effects, Effect.isRoutine, offers.routine]
  | sent offers => simp [Verdict.effects, offers.routine]
  | unsent offers => exact offers.routine
  | received => exact routine_deliver _
  | swept => exact routine_ofSwept _
  | stopped =>
    simp only [stop, Verdict.effects, routine_append]
    constructor <;> split <;> simp [Effect.isRoutine]
  | _ => simp [Verdict.effects, Effect.isRoutine]

/-- A loss is dealt with by routine, but for putting off the next attempt. -/
theorem rare_of_mem_lossEffects {effect : Effect} (hmem : effect ∈ verdict.lossEffects now) :
    effect.isRoutine = true ∨ ∃ delay, effect = .armed delay := by
  cases verdict with
  | loses turn =>
    simp only [Verdict.lossEffects, lose] at hmem
    split at hmem
    · exact absurd hmem (by simp)
    rcases List.mem_append.mp hmem with hmem | hmem
    · left
      have hroutine : Routine ((if turn.loop.isConnected then [Effect.released] else []) ++
          turn.loop.closingEffects) := by
        rw [closingEffects, routine_append]
        constructor <;> split <;> simp [Effect.isRoutine]
      exact hroutine effect hmem
    · exact Or.inr ⟨_, List.mem_singleton.mp hmem⟩
  | _ => exact absurd hmem (by simp [Verdict.lossEffects])

end Loop

namespace Reaction

variable {r : Reaction}

/-- A rare effect that is no putting off comes from the event that asks for it. -/
theorem event_of_rare {effect : Effect} (hmem : effect ∈ r.effects)
    (hrare : effect.isRoutine = false) (hfree : ∀ delay, effect ≠ .armed delay) :
    (r.event = .command .summarize ∨ r.event = .reconnectDue) ∧ effect ∈ r.verdict.effects := by
  rw [effects_eq, List.mem_append] at hmem
  rcases hmem with hmem | hmem
  · refine ⟨?_, hmem⟩
    by_contra hevent
    rw [not_or] at hevent
    have hroutine := r.reacts.routine hevent.1 hevent.2 effect hmem
    exact absurd (hroutine.symm.trans hrare) (by decide)
  · rcases Loop.rare_of_mem_lossEffects hmem with hroutine | ⟨delay, hdelay⟩
    · exact absurd (hroutine.symm.trans hrare) (by decide)
    · exact absurd hdelay (hfree delay)

theorem verdict_of_summarize (h : r.event = .command .summarize) :
    r.verdict = .stays ⟨r.loop, [.summarized r.loop.summary]⟩ := by
  rw [verdict, h]
  rfl

theorem verdict_of_reconnectDue (h : r.event = .reconnectDue) :
    r.verdict =
      if r.loop.reconnect.isSome then .stays { r.loop with reconnect := none }.beginAttempt
      else .stays ⟨r.loop, []⟩ := by
  rw [verdict, h]
  rfl

/-- What the loop tells about itself is about the state in which it is asked. -/
theorem summary_of_mem {summary : Summary} (hmem : .summarized summary ∈ r.effects) :
    summary = r.loop.summary := by
  obtain ⟨hasked | hdue, hmem⟩ := event_of_rare hmem rfl (by simp)
  · rw [verdict_of_summarize hasked] at hmem
    exact Effect.summarized.inj (List.mem_singleton.mp hmem)
  · rw [verdict_of_reconnectDue hdue] at hmem
    split at hmem <;> simp [Verdict.effects, Loop.beginAttempt] at hmem

/-- An attempt to connect begins when its time has come, and only then. -/
theorem armed_of_attempt_mem (hmem : .attempt ∈ r.effects) : r.loop.reconnect.isSome = true := by
  obtain ⟨hasked | hdue, hmem⟩ := event_of_rare hmem rfl (by simp)
  · rw [verdict_of_summarize hasked] at hmem
    exact absurd (List.mem_singleton.mp hmem) (by simp)
  · rw [verdict_of_reconnectDue hdue] at hmem
    split at hmem
    · next armed => exact armed
    · exact absurd hmem (by simp [Verdict.effects])

end Reaction

end EventLink
