import EventLink.Proofs.Loop.FrameOrder
import EventLink.Proofs.Loop.Lifecycle
import EventLink.Proofs.Reply.Waiting
/-!
What a reaction measures.

Measurements are taken all over the loop: before a frame is offered, after it was written, where it is
kept, behind calls of handlers, at the two changes of the status.  Of a whole reaction they are told by
its event, by the frames that it wrote, and by the change of the status, whatever broke off in between.
-/
namespace EventLink

open Json (Value)

@[simp]
def Effect.measurement? : Effect → Option Measurement
  | .measured m => some m
  | _ => none

def measurementsOf (effects : List Effect) : List Measurement :=
  effects.filterMap Effect.measurement?

def OutgoingFrame.measurement (frame : OutgoingFrame) : Measurement :=
  .sent frame.kind

/-- What a change of the status measures. -/
def LinkEvent.measurements : LinkEvent → List Measurement
  | .opened => [.opened, .status .online]
  | .closed => [.status .offline]

@[simp]
theorem measurementsOf_nil : measurementsOf [] = [] := rfl

@[simp]
theorem measurementsOf_append (first later : List Effect) :
    measurementsOf (first ++ later) = measurementsOf first ++ measurementsOf later :=
  List.filterMap_append

@[simp]
theorem measurementsOf_cons (effect : Effect) (later : List Effect) :
    measurementsOf (effect :: later) = effect.measurement?.toList ++ measurementsOf later := by
  unfold measurementsOf
  rw [List.filterMap_cons]
  cases effect.measurement? <;> rfl

@[simp]
theorem measurementsOf_ofCalls (calls : List Call) :
    measurementsOf (Effect.ofCalls calls) = [] := by
  induction calls with
  | nil => rfl
  | cons call rest ih => exact ih

@[simp]
theorem measurementsOf_ofReply (data : Value) (recipient : Recipient) :
    measurementsOf (Effect.ofReply data recipient) = [] := by
  cases recipient with
  | callback handler => exact measurementsOf_ofCalls _
  | channel number => rfl

@[simp]
theorem measurementsOf_ofSwept (swept : List Waiter) :
    measurementsOf (swept.filterMap Effect.ofSwept) = [] := by
  induction swept with
  | nil => rfl
  | cons w rest ih =>
    cases h : w.recipient with
    | callback handler => simpa [Effect.ofSwept, h] using ih
    | channel number => simpa [Effect.ofSwept, h] using ih

@[simp]
theorem measurementsOf_writes (frames : List OutgoingFrame) :
    measurementsOf (frames.flatMap Effect.ofWrite) = frames.map OutgoingFrame.measurement := by
  induction frames with
  | nil => rfl
  | cons frame rest ih =>
    rw [List.flatMap_cons, measurementsOf_append, ih]
    rfl

namespace Loop

variable {loop : Loop} {now : Nat} {gone : Nat → Bool} {event : LoopEvent} {verdict : Verdict}

/-- What a message with data comes to: no frame, an event, or a reply that somebody waits for or that
nobody waits for. -/
def measurementFor (loop : Loop) : Option IncomingFrame → Measurement
  | none => .malformed
  | some (.event topic _) => .delivered topic (loop.subscriptions.count topic)
  | some (.reply id _) => .replied (loop.replies.take id).1.isSome

/-- What the reaction to an event measures before anything is written. -/
def measuredAt (loop : Loop) : LoopEvent → List Measurement
  | .heartbeatDue => if loop.heartbeat.isRunning then [.heartbeat] else []
  | .reconnectDue => if loop.reconnect.isSome then [.attempted] else []
  | .message message =>
    if loop.listening && message.isData then [loop.measurementFor message.frame?] else []
  | _ => []

/-- A frame that is offered while there is no connection is kept, which is measured as well. -/
def keptAt (loop : Loop) (now : Nat) (event : LoopEvent) : List Measurement :=
  if loop.status.isOnline then []
  else (loop.offersAt now event).map fun (_ : Offer) => .buffered

@[simp]
theorem keptAt_of_online (online : loop.status = .online) : loop.keptAt now event = [] :=
  if_pos (LinkStatus.isOnline_eq_true.mpr online)

theorem Offers.keptAt {ready : Loop} {frame : OutgoingFrame} {effects : List Effect}
    (offers : loop.Offers now event ready frame effects) (offline : loop.status = .offline) :
    loop.keptAt now event = [.buffered] := by
  have hone := congrArg (List.map fun (_ : OutgoingFrame) => Measurement.buffered) offers.offersAt
  rw [List.map_map] at hone
  rw [Loop.keptAt, if_neg (LinkStatus.not_isOnline.mpr offline)]
  exact hone

theorem Offers.measurementsOf {ready : Loop} {frame : OutgoingFrame} {effects : List Effect}
    (offers : loop.Offers now event ready frame effects) :
    EventLink.measurementsOf effects = loop.measuredAt event := by
  cases offers with
  | heartbeat running => simp [measuredAt, running]
  | _ => rfl

theorem PassesOver.measuredAt (h : loop.PassesOver event) : loop.measuredAt event = [] := by
  cases event with
  | command command => exact absurd h id
  | message message =>
    have hdeaf : loop.listening = false := h
    simp [Loop.measuredAt, hdeaf]
  | heartbeatDue =>
    have hstopped : loop.heartbeat.isRunning = false := h
    simp [Loop.measuredAt, hstopped]
  | reconnectDue =>
    have hunarmed : loop.reconnect = none := h
    simp [Loop.measuredAt, hunarmed]
  | _ => rfl

@[simp]
theorem measurementsOf_deliver (frame : IncomingFrame) :
    measurementsOf (loop.deliver frame).effects = [loop.measurementFor (some frame)] := by
  cases frame with
  | event topic data => simp [deliver, measurementFor]
  | reply id data =>
    simp only [deliver, measurementFor, Resolution.isMatched_ofRecipient]
    cases (loop.replies.take id).1 <;> simp

@[simp]
theorem measurementsOf_openingEffects :
    measurementsOf loop.openingEffects = LinkEvent.opened.measurements := by
  simp [openingEffects, LinkEvent.measurements]

/-- A loss is measured by the change of the status, if there is one. -/
theorem measurementsOf_lose (now : Nat) (unarmed : loop.reconnect = none) :
    measurementsOf (loop.lose now).effects =
      ((LinkEvent.between? loop.status .offline).map LinkEvent.measurements).getD [] := by
  have hreleased : measurementsOf (if loop.isConnected then [Effect.released] else []) = [] := by
    split <;> rfl
  simp only [lose, unarmed, measurementsOf_append, hreleased, closingEffects]
  cases loop.status <;> simp [LinkStatus.isOnline, LinkEvent.between?, LinkEvent.measurements]

@[simp]
theorem measurementsOf_stop : measurementsOf loop.stop.effects = [] := by
  simp only [stop, Verdict.effects, measurementsOf_append]
  split <;> split <;> rfl

/-- What a message that carries a frame or could carry one is counted as. -/
theorem measuredAt_message {message : Message} (listening : loop.listening = true)
    (data : message.isData = true) :
    loop.measuredAt (.message message) = [loop.measurementFor message.frame?] := by
  simp [measuredAt, listening, data]

theorem isData_of_frame? {message : Message} {frame : IncomingFrame}
    (carries : message.frame? = some frame) : message.isData = true := by
  cases message <;> simp_all [Message.frame?, Message.isData]

/-- A reaction measures what its event comes to, the frames that it writes, a frame that it keeps, and
the change of the status. -/
theorem Reacts.measurements (h : loop.Reacts now gone event verdict) {phase : Phase}
    (hphase : loop.IsIn phase) :
    measurementsOf (conclude now verdict).effects =
      loop.measuredAt event ++ (framesOf verdict.effects).map OutgoingFrame.measurement ++
        loop.keptAt now event ++
        ((LinkEvent.between? loop.status
          ((conclude now verdict).task.statusAfter loop.status)).map
            LinkEvent.measurements).getD [] := by
  -- A reaction that leaves the status alone measures nothing else.
  have hsteady {turn : Turn}
      (hown : measurementsOf turn.effects =
        loop.measuredAt event ++ (framesOf turn.effects).map OutgoingFrame.measurement ++
          loop.keptAt now event)
      (hstatus : turn.loop.status = loop.status) :
      measurementsOf (conclude now (.stays turn)).effects =
        loop.measuredAt event ++ (framesOf turn.effects).map OutgoingFrame.measurement ++
          loop.keptAt now event ++
          ((LinkEvent.between? loop.status
            ((conclude now (.stays turn)).task.statusAfter loop.status)).map
              LinkEvent.measurements).getD [] := by
    simp only [conclude, Task.statusAfter, hown, hstatus, LinkEvent.between?_self, Option.map_none,
      Option.getD_none, List.append_nil]
  -- Whatever is measured at a loss comes after the rest.
  have hlost {turn : Turn} (hverdict : verdict = .loses turn)
      (hown : measurementsOf turn.effects =
        loop.measuredAt event ++ (framesOf turn.effects).map OutgoingFrame.measurement ++
          loop.keptAt now event)
      (hstatus : turn.loop.status = loop.status) :
      measurementsOf (conclude now (.loses turn)).effects =
        loop.measuredAt event ++ (framesOf turn.effects).map OutgoingFrame.measurement ++
          loop.keptAt now event ++
          ((LinkEvent.between? loop.status
            ((conclude now (.loses turn)).task.statusAfter loop.status)).map
              LinkEvent.measurements).getD [] := by
    have hunarmed := (hverdict ▸ h).unarmed_of_loses hphase
    simp only [conclude, Turn.after, Task.statusAfter, measurementsOf_append, hown,
      measurementsOf_lose now hunarmed, status_lose now hunarmed, hstatus]
  cases h with
  | passed impossible =>
    exact hsteady (by simp [impossible.measuredAt, keptAt, impossible.offersAt]) rfl
  | noted => exact hsteady (by simp [measuredAt, keptAt, offersAt]) rfl
  | announced =>
    refine hsteady ?_ rfl
    simp [measuredAt, keptAt, offersAt, Effect.ofWrite, OutgoingFrame.measurement]
  | unannounced => exact hlost rfl (by simp [measuredAt, keptAt, offersAt]) rfl
  | watched => exact hsteady (by simp [measuredAt, keptAt, offersAt]) rfl
  | buffered offers offline =>
    obtain ⟨replies, heartbeat, _, rfl⟩ := offers.ready_eq
    refine hsteady ?_ rfl
    simp [offers.measurementsOf, offers.framesOf, offers.keptAt offline]
  | sent offers writer online =>
    obtain ⟨replies, heartbeat, _, rfl⟩ := offers.ready_eq
    refine hsteady ?_ rfl
    simp [offers.measurementsOf, offers.framesOf, online, Effect.ofWrite, OutgoingFrame.measurement]
  | unsent offers online =>
    obtain ⟨replies, heartbeat, _, rfl⟩ := offers.ready_eq
    refine hlost rfl ?_ rfl
    simp [offers.measurementsOf, offers.framesOf, online]
  | spun topic data recipient exhausted =>
    simp [conclude, Task.statusAfter, Verdict.effects, measuredAt, keptAt, offersAt, exhausted]
  | summarized => exact hsteady (by simp [measuredAt, keptAt, offersAt]) rfl
  | stopped =>
    have hnothing : measurementsOf (conclude now loop.stop).effects = [] := loop.measurementsOf_stop
    rw [hnothing, framesOf_stop]
    simp [measuredAt, keptAt, offersAt, stop, conclude, Task.statusAfter]
  | flushCut => exact hlost rfl (by simp [measuredAt, keptAt, offersAt]) rfl
  | replayCut => exact hlost rfl (by simp [measuredAt, keptAt, offersAt]) rfl
  | opened budget attempting =>
    have hoffline := (hphase.connecting_of_attempting attempting).offline
    simp [conclude, Verdict.effects, Task.statusAfter, hoffline, measuredAt, keptAt, offersAt,
      LinkEvent.between?]
  | overflowed budget attempting =>
    have hoffline := (hphase.connecting_of_attempting attempting).offline
    simp [conclude, Verdict.effects, Task.statusAfter, hoffline, measuredAt, keptAt, offersAt,
      LinkEvent.between?]
  | refused => exact hlost rfl (by simp [measuredAt, keptAt, offersAt]) rfl
  | @received message frame listening carries =>
    refine hsteady ?_ ?_
    · simp [measuredAt_message listening (isData_of_frame? carries), carries, keptAt, offersAt]
    · cases frame <;> rfl
  | discarded listening data carries =>
    refine hsteady ?_ rfl
    simp [measuredAt_message listening data, carries, keptAt, offersAt, measurementFor]
  | ignored => exact hsteady (by simp [measuredAt, keptAt, offersAt, Message.isData]) rfl
  | @hungUp message listening last =>
    have hdata : message.isData = false := by
      cases message <;> simp_all [Message.isLast, Message.isData]
    exact hlost rfl (by simp [measuredAt, hdata, keptAt, offersAt]) rfl
  | retried due => exact hsteady (by simp [beginAttempt, measuredAt, keptAt, offersAt, due]) rfl
  | swept => exact hsteady (by simp [sweepReplies, measuredAt, keptAt, offersAt]) rfl
  | budgeted => exact hsteady (by simp [measuredAt, keptAt, offersAt]) rfl

end Loop

end EventLink
