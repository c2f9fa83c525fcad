import EventLink.Proofs.Loop.Incoming
import EventLink.Proofs.Loop.Lifecycle
/-!
Who gets to know about a reply, or that none will come.

Those who wait for a reply get to know about it in the reaction to the reply, and nowhere else; that
none will come they get to know in a sweep.  All other reactions are silent about them, whatever
becomes of the connection.
-/
namespace EventLink

open Json (Value)

/-- What a recipient gets with a reply: a callback is called with it, whether it panics or not. -/
def Effect.handover (data : Value) : Recipient → Effect
  | .callback handler => .called ⟨handler, some data⟩
  | .channel number => .replied number data

theorem Effect.ofReply_eq (data : Value) (recipient : Recipient) :
    Effect.ofReply data recipient = [handover data recipient] := by
  cases recipient with
  | callback handler => rw [ofReply, Call.makeGuarded_eq]; rfl
  | channel number => rfl

/-- Whether an effect tells about a reply, or about the end of the waiting for one. -/
def Effect.isNotice : Effect → Bool
  | .replied _ _ => true
  | .abandoned _ => true
  | .measured (.replied _) => true
  | _ => false

/-- The effects that tell about replies. -/
def noticesOf (effects : List Effect) : List Effect :=
  effects.filter Effect.isNotice

@[simp]
theorem noticesOf_append (first later : List Effect) :
    noticesOf (first ++ later) = noticesOf first ++ noticesOf later :=
  List.filter_append ..

@[simp]
theorem noticesOf_ofCalls (calls : List Call) : noticesOf (Effect.ofCalls calls) = [] := by
  induction calls with
  | nil => rfl
  | cons call rest ih => exact ih

@[simp]
theorem noticesOf_writes (frames : List OutgoingFrame) :
    noticesOf (frames.flatMap Effect.ofWrite) = [] := by
  induction frames with
  | nil => rfl
  | cons frame rest ih => exact ih

namespace Loop

variable {loop : Loop} {now : Nat} {gone : Nat → Bool} {event : LoopEvent} {verdict : Verdict}

@[simp]
theorem noticesOf_openingEffects : noticesOf loop.openingEffects = [] :=
  noticesOf_ofCalls _

@[simp]
theorem noticesOf_lose (loop : Loop) (now : Nat) : noticesOf (loop.lose now).effects = [] := by
  have hclosing : noticesOf loop.closingEffects = [] := by
    unfold closingEffects
    split
    · exact noticesOf_ofCalls _
    · rfl
  unfold lose
  split
  · rfl
  · simp only [noticesOf_append, hclosing]
    split <;> rfl

theorem Offers.noticesOf {ready : Loop} {frame : OutgoingFrame} {effects : List Effect}
    (offers : loop.Offers now event ready frame effects) : EventLink.noticesOf effects = [] := by
  cases offers <;> rfl

/-- A reaction to anything but a reply or a sweep is silent about replies. -/
theorem Reacts.noticesOf (h : loop.Reacts now gone event verdict)
    (unreplied : loop.listening = true → event.reply? = none) (unswept : event ≠ .sweepDue) :
    EventLink.noticesOf (conclude now verdict).effects = [] := by
  have hlost (turn : Turn) (silent : EventLink.noticesOf turn.effects = []) :
      EventLink.noticesOf (conclude now (.loses turn)).effects = [] := by
    simp only [conclude, Turn.after, noticesOf_append, silent, noticesOf_lose, List.append_nil]
  cases h with
  | watched => exact noticesOf_ofCalls _
  | buffered offers => exact (noticesOf_append _ _).trans (by rw [offers.noticesOf]; rfl)
  | sent offers => exact (noticesOf_append _ _).trans (by rw [offers.noticesOf]; rfl)
  | unsent offers => exact hlost _ offers.noticesOf
  | unannounced => exact hlost _ rfl
  | flushCut => exact hlost _ (noticesOf_writes _)
  | replayCut => exact hlost _ (noticesOf_writes _)
  | refused => exact hlost _ rfl
  | hungUp => exact hlost _ rfl
  | stopped =>
    simp only [stop, conclude, noticesOf_append]
    split <;> split <;> rfl
  | opened => simp only [conclude, noticesOf_append, noticesOf_writes, noticesOf_openingEffects,
      List.append_nil]
  | overflowed =>
    simp only [conclude, noticesOf_append, noticesOf_writes, noticesOf_openingEffects,
      List.nil_append]
    rfl
  | @received message frame listening carries =>
    have hplain := unreplied listening
    rw [LoopEvent.reply?, carries] at hplain
    cases frame with
    | event topic data => exact (noticesOf_append _ _).trans (by rw [noticesOf_ofCalls]; rfl)
    | reply id data => exact absurd hplain (by simp [IncomingFrame.reply?])
  | swept => exact absurd rfl unswept
  | _ => rfl

/-- Nothing is lost in the reaction to a reply or in a sweep. -/
theorem Reacts.of_loses {turn : Turn} (h : loop.Reacts now gone event (.loses turn)) :
    (loop.listening = true → event.reply? = none) ∧ event ≠ .sweepDue := by
  constructor
  · intro listening
    cases hreply : event.reply? with
    | none => rfl
    | some found => exact absurd (h.verdict_of_reply hreply listening) (by simp)
  · rintro rfl
    cases h with
    | unsent offers => cases offers

end Loop

def Reaction.reply? (r : Reaction) : Option (String × Value) :=
  if r.loop.listening then r.event.reply? else none

namespace Reaction

variable {r : Reaction}

theorem reply?_eq_some {id : String} {data : Value} :
    r.reply? = some (id, data) ↔ r.loop.listening = true ∧ r.event.reply? = some (id, data) := by
  unfold reply?
  split <;> simp_all

theorem reply?_eq_none : r.reply? = none ↔ (r.loop.listening = true → r.event.reply? = none) := by
  unfold reply?
  split <;> simp_all

/-- A reaction takes in a reply, or it sweeps, or it does neither. -/
theorem reply_or_sweep_or_other (r : Reaction) :
    (∃ id data, r.reply? = some (id, data) ∧ r.event ≠ .sweepDue) ∨
      (r.reply? = none ∧ r.event = .sweepDue) ∨ (r.reply? = none ∧ r.event ≠ .sweepDue) := by
  by_cases hsweep : r.event = .sweepDue
  · have hreply : r.reply? = none := reply?_eq_none.mpr fun _ => by rw [hsweep]; rfl
    exact .inr (.inl ⟨hreply, hsweep⟩)
  · cases hreply : r.reply? with
    | none => exact .inr (.inr ⟨rfl, hsweep⟩)
    | some found => exact .inl ⟨found.1, found.2, rfl, hsweep⟩

theorem outcome_of_reply {id : String} {data : Value} (h : r.reply? = some (id, data)) :
    r.outcome = Loop.conclude r.now (.stays (r.loop.deliver (.reply id data))) := by
  obtain ⟨listening, hreply⟩ := reply?_eq_some.mp h
  rw [outcome_eq, r.reacts.verdict_of_reply hreply listening]

/-- A reply under an identifier that nobody waits under reaches nobody. -/
theorem effects_of_unknown {id : String} {data : Value} (h : r.reply? = some (id, data))
    (unknown : id ∉ r.loop.replies.ids) : r.effects = [.measured (.replied false)] := by
  rw [effects, outcome_of_reply h, Loop.deliver_unknown unknown]
  rfl

/-- A reply reaches the one who waits under its identifier. -/
theorem effects_of_known {w : Waiter} {data : Value} (h : r.reply? = some (w.id, data))
    (distinct : r.loop.replies.Distinct) (waits : w ∈ r.loop.replies.waiters) :
    r.effects = [.handover data w.recipient, .measured (.replied true)] := by
  obtain ⟨first, last, hsplit⟩ := List.append_of_mem waits
  rw [effects, outcome_of_reply h, Loop.deliver_reply distinct hsplit]
  simp only [Loop.conclude, Effect.ofReply_eq]
  rfl

theorem noticesOf_effects (unreplied : r.reply? = none) (unswept : r.event ≠ .sweepDue) :
    noticesOf r.effects = [] :=
  r.reacts.noticesOf (reply?_eq_none.mp unreplied) unswept

theorem effects_of_sweep (h : r.event = .sweepDue) :
    r.effects = (r.loop.replies.sweep r.now r.gone).1.filterMap Effect.ofSwept := by
  rw [effects, outcome, h]
  rfl

/-- Only a sweep tells anybody that no reply will come: somebody who has waited for too long, or who is
not there any more. -/
theorem of_abandoned (distinct : r.loop.replies.Distinct) {channel : Nat}
    (told : .abandoned channel ∈ r.effects) :
    ∃ w ∈ r.loop.replies.waiters, w.recipient = .channel channel ∧
      (r.loop.replies.isExpired r.now w = true ∨ r.gone channel = true) := by
  rcases r.reply_or_sweep_or_other with ⟨id, data, hreply, _⟩ | ⟨_, hsweep⟩ | ⟨hreply, hother⟩
  · by_cases hknown : id ∈ r.loop.replies.ids
    · obtain ⟨w, hw, rfl⟩ := List.mem_map.mp hknown
      rw [effects_of_known hreply distinct hw] at told
      cases hrecipient : w.recipient <;> simp [Effect.handover, hrecipient] at told
    · rw [effects_of_unknown hreply hknown] at told
      simp at told
  · rw [effects_of_sweep hsweep] at told
    obtain ⟨w, hw, htold⟩ := List.mem_filterMap.mp told
    obtain ⟨hwaits, hdropped⟩ := List.mem_filter.mp hw
    unfold Effect.ofSwept at htold
    split at htold
    · cases htold
    · next number hrecipient =>
      obtain rfl : number = channel := by simpa using htold
      refine ⟨w, hwaits, hrecipient, ?_⟩
      simp only [ReplyTable.keeps, ReplyTable.isAbandoned, hrecipient] at hdropped
      by_cases hexpired : r.loop.replies.isExpired r.now w = true
      · exact .inl hexpired
      · exact .inr (by simpa [hexpired] using hdropped)
  · have hsilent := noticesOf_effects hreply hother
    exact absurd (List.filter_eq_nil_iff.mp hsilent _ told) (by simp [Effect.isNotice])

end Reaction

/-- Without a reply nobody is called but the handlers of a topic, with what was delivered for it, and
those who watch the connection. -/
theorem Run.calls_of_unreplied {config : LoopConfig} {history : List Reaction} {r : Reaction}
    (before : Run config history (.running r.loop)) (unreplied : r.reply? = none) {call : Call}
    (called : call ∈ callsOf r.effects) :
    (∃ message topic data, r.event = .message message ∧
        message.frame? = some (.event topic data) ∧
        call ∈ (handlersRegistered topic history).map fun (handler : Handler) =>
          ⟨handler, some data⟩) ∨
      ∃ event, call ∈ watchersRegistered event (history ++ [r]) := by
  obtain ⟨phase, hphase⟩ := before.exists_phase r.loop rfl
  rw [r.calls_eq hphase, List.mem_append] at called
  rcases called with hevent | hchange
  · unfold Loop.callsAt at hevent
    split at hevent
    · next event asked hcommand =>
      split at hevent
      · obtain rfl := List.mem_singleton.mp hevent
        refine .inr ⟨event, ?_⟩
        rw [watchersRegistered_snoc, hcommand]
        simp [LoopEvent.command?, Command.watcher?]
      · exact absurd hevent List.not_mem_nil
    · next message hmessage =>
      split at hevent
      · next frame listening hframe =>
        cases frame with
        | event topic data =>
          rw [Loop.callsFor, before.handlersOf_eq topic r.loop rfl] at hevent
          exact .inl ⟨message, topic, data, hmessage, hframe, hevent⟩
        | reply id data =>
          have hplain := Reaction.reply?_eq_none.mp unreplied listening
          rw [hmessage, LoopEvent.reply?, hframe] at hplain
          exact absurd hplain (by simp [IncomingFrame.reply?])
      · exact absurd hevent List.not_mem_nil
    · exact absurd hevent List.not_mem_nil
  · unfold Subscriptions.callsBetween at hchange
    split at hchange
    · next event _ =>
      rw [before.watchersOf_eq event r.loop rfl] at hchange
      refine .inr ⟨event, ?_⟩
      rw [watchersRegistered_snoc]
      exact List.mem_append_left _ hchange
    · exact absurd hchange List.not_mem_nil

end EventLink
