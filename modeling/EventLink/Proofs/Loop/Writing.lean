import EventLink.Loop.Step
/-!
Writing frames: what goes out, what is left, and what a loss leaves alone.

A write changes nothing of the loop but the half of the connection that is written to.  So a series
of writes is described by the frames that went out, which are the front of those that were to go.
-/
namespace EventLink

def Effect.ofWrite (frame : OutgoingFrame) : List Effect :=
  [.wrote frame, .measured (.sent frame.kind)]

@[simp]
def Effect.frame? : Effect → Option OutgoingFrame
  | .wrote frame => some frame
  | _ => none

def framesOf (effects : List Effect) : List OutgoingFrame :=
  effects.filterMap Effect.frame?

@[simp]
theorem framesOf_nil : framesOf [] = [] := rfl

@[simp]
theorem framesOf_append (first later : List Effect) :
    framesOf (first ++ later) = framesOf first ++ framesOf later :=
  List.filterMap_append

@[simp]
theorem framesOf_cons (effect : Effect) (later : List Effect) :
    framesOf (effect :: later) = effect.frame?.toList ++ framesOf later := by
  unfold framesOf
  rw [List.filterMap_cons]
  cases effect.frame? <;> rfl

@[simp]
theorem framesOf_ofCalls (calls : List Call) : framesOf (Effect.ofCalls calls) = [] := by
  induction calls with
  | nil => rfl
  | cons call rest ih => exact ih

@[simp]
theorem framesOf_ofReply (data : Json.Value) (recipient : Recipient) :
    framesOf (Effect.ofReply data recipient) = [] := by
  cases recipient with
  | callback handler => exact framesOf_ofCalls _
  | channel number => rfl

@[simp]
theorem framesOf_ofSwept (swept : List Waiter) :
    framesOf (swept.filterMap Effect.ofSwept) = [] := by
  induction swept with
  | nil => rfl
  | cons w rest ih =>
    cases h : w.recipient with
    | callback handler => simpa [Effect.ofSwept, h] using ih
    | channel number => simpa [Effect.ofSwept, h, framesOf, Effect.frame?] using ih

@[simp]
theorem framesOf_ofWrite (frame : OutgoingFrame) : framesOf (Effect.ofWrite frame) = [frame] := rfl

/-- Nothing but the given frames goes out when they are written. -/
@[simp]
theorem framesOf_writes (frames : List OutgoingFrame) :
    framesOf (frames.flatMap Effect.ofWrite) = frames := by
  induction frames with
  | nil => rfl
  | cons frame rest ih =>
    rw [List.flatMap_cons, framesOf_append, ih]
    rfl

namespace Loop

theorem write_eq_some {loop : Loop} {frame : OutgoingFrame} {turn : Turn}
    (h : loop.write frame = some turn) :
    loop.writer.isSome ∧
      ∃ writer, turn = ⟨{ loop with writer := some writer }, Effect.ofWrite frame⟩ := by
  cases hwriter : loop.writer with
  | none => simp [write, hwriter] at h
  | some old =>
    rw [write, hwriter, Option.bind_some, Option.map_eq_some_iff] at h
    obtain ⟨writer, _, hturn⟩ := h
    exact ⟨rfl, writer, hturn.symm⟩

/-- A series of writes sends the front of the given frames and leaves the others.  The loop stays as
it is, but for the writer; if there was one, there still is. -/
theorem writeAll_spec (loop : Loop) (frames : List OutgoingFrame) :
    ∃ sent unsent writer, sent ++ unsent = frames ∧ writer.isSome = loop.writer.isSome ∧
      loop.writeAll frames =
        (⟨{ loop with writer := writer }, sent.flatMap Effect.ofWrite⟩, unsent) := by
  induction frames generalizing loop with
  | nil => exact ⟨[], [], loop.writer, rfl, rfl, rfl⟩
  | cons frame rest ih =>
    cases hwrite : loop.write frame with
    | none => exact ⟨[], frame :: rest, loop.writer, rfl, rfl, by simp [writeAll, hwrite]⟩
    | some turn =>
      obtain ⟨hold, writer, rfl⟩ := write_eq_some hwrite
      obtain ⟨sent, unsent, last, hsplit, hlast, hrest⟩ := ih { loop with writer := some writer }
      refine ⟨frame :: sent, unsent, last, ?_, ?_, ?_⟩
      · rw [List.cons_append, hsplit]
      · rw [hlast, hold]
        rfl
      · rw [writeAll, hwrite]
        simp only [hrest]
        rfl

@[simp]
theorem framesOf_openingEffects (loop : Loop) : framesOf loop.openingEffects = [] := by
  simp [openingEffects, Effect.frame?]

@[simp]
theorem framesOf_deliver (loop : Loop) (frame : IncomingFrame) :
    framesOf (loop.deliver frame).effects = [] := by
  cases frame with
  | event topic data => simp [deliver]
  | reply id data =>
    simp only [deliver]
    cases (loop.replies.take id).1 <;> simp

/-- A new connection on which nothing waits any more is lost while the topics are written, or they
are all written. -/
theorem resubscribe_cases (loop : Loop) (now : Nat) :
    (∃ sent missing writer, sent ++ missing = loop.subscribeFrames ∧ missing ≠ [] ∧
      loop.resubscribe now =
        .loses ⟨{ loop with writer := writer }, sent.flatMap Effect.ofWrite⟩) ∨
    ∃ writer, writer.isSome = loop.writer.isSome ∧
      loop.resubscribe now =
        ({ loop with writer := writer }.goOnline now).after
          (loop.subscribeFrames.flatMap Effect.ofWrite) := by
  obtain ⟨sent, missing, writer, hsplit, hwriter, hwrites⟩ :=
    loop.writeAll_spec loop.subscribeFrames
  rw [resubscribe, hwrites]
  cases missing with
  | nil =>
    rw [List.append_nil] at hsplit
    exact Or.inr ⟨writer, hwriter, by rw [← hsplit]; rfl⟩
  | cons frame rest => exact Or.inl ⟨sent, frame :: rest, writer, hsplit, by simp, rfl⟩

/-- A new connection is lost while the frames that waited are written, or they are all written. -/
theorem establish_cases (loop : Loop) (now : Nat) :
    (∃ sent unsent writer, sent ++ unsent = loop.outbox.frames ∧ unsent ≠ [] ∧
      loop.establish now =
        .loses ⟨{ loop with writer := writer, outbox := ⟨unsent⟩ },
          sent.flatMap Effect.ofWrite⟩) ∨
    ∃ writer, writer.isSome = loop.writer.isSome ∧
      loop.establish now =
        ({ loop with writer := writer, outbox := Outbox.empty }.resubscribe now).after
          (loop.outbox.frames.flatMap Effect.ofWrite) := by
  obtain ⟨sent, unsent, writer, hsplit, hwriter, hwrites⟩ :=
    writeAll_spec { loop with outbox := Outbox.empty } loop.outbox.frames
  simp only [establish, Outbox.takeAll, hwrites]
  cases unsent with
  | nil =>
    rw [List.append_nil] at hsplit
    exact Or.inr ⟨writer, hwriter, by rw [← hsplit]; rfl⟩
  | cons frame rest =>
    refine Or.inl ⟨sent, frame :: rest, writer, hsplit, by simp, ?_⟩
    simp [Outbox.putBack, Outbox.empty]

/-- A loss leaves alone what the client wants and waits for, and what it has yet to send. -/
theorem lose_kept (loop : Loop) (now : Nat) :
    (loop.lose now).loop.subscriptions = loop.subscriptions ∧
      (loop.lose now).loop.replies = loop.replies ∧
      (loop.lose now).loop.outbox = loop.outbox := by
  unfold lose
  split <;> exact ⟨rfl, rfl, rfl⟩

@[simp]
theorem framesOf_closingEffects (loop : Loop) : framesOf loop.closingEffects = [] := by
  unfold closingEffects
  split <;> simp

@[simp]
theorem framesOf_lose (loop : Loop) (now : Nat) : framesOf (loop.lose now).effects = [] := by
  unfold lose
  split
  · rfl
  · simp only [framesOf_append, framesOf_closingEffects]
    split <;> simp

end Loop

end EventLink
