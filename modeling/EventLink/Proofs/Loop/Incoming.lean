import EventLink.Proofs.Loop.Audience
import EventLink.Proofs.Loop.Requests
/-!
Messages from the server.

A message that comes in over a connection does what its frame says and nothing besides: it calls the
handlers of a topic, or it ends the waiting of one recipient, or it does nothing at all.  Whatever the
server sends, the connection stays as it is and nothing is written.
-/
namespace EventLink

open Json (Value)

/-- The bytes of a text are read as that text. -/
theorem fromUTF8?_toUTF8 (text : String) :
    String.fromUTF8? ⟨text.toUTF8.data.toList.toArray⟩ = some text :=
  dif_pos text.isValidUTF8

/-- Bytes that are those of no text are not read. -/
theorem fromUTF8?_eq_none {bytes : List UInt8}
    (none : ∀ text : String, text.toUTF8.data.toList ≠ bytes) :
    String.fromUTF8? ⟨bytes.toArray⟩ = .none := by
  refine dif_neg ?_
  intro hvalid
  exact none (String.fromUTF8 ⟨bytes.toArray⟩ hvalid) rfl

namespace Loop

variable {loop : Loop} (now : Nat) (gone : Nat → Bool)

theorem step_text (listening : loop.listening = true) (text : String) :
    loop.step now gone (.message (.text text)) =
      ⟨.running (loop.receiveText text).loop, (loop.receiveText text).effects⟩ := by
  rw [step, react, if_pos listening]
  rfl

/-- A binary message is taken for the text that it encodes. -/
theorem step_binary (listening : loop.listening = true) {bytes : List UInt8} {text : String}
    (encoded : String.fromUTF8? ⟨bytes.toArray⟩ = some text) :
    loop.step now gone (.message (.binary bytes)) = loop.step now gone (.message (.text text)) := by
  rw [step_text now gone listening, step, react, if_pos listening, receive, encoded]
  rfl

theorem step_binary_of_none (listening : loop.listening = true) {bytes : List UInt8}
    (unencoded : String.fromUTF8? ⟨bytes.toArray⟩ = none) :
    loop.step now gone (.message (.binary bytes)) = ⟨.running loop, [.measured .malformed]⟩ := by
  rw [step, react, if_pos listening, receive, unencoded]
  rfl

/-- An event calls the handlers of its topic. -/
theorem deliver_event (topic : String) (data : Value) :
    loop.deliver (.event topic data) =
      ⟨loop,
        Effect.ofCalls ((loop.subscriptions.handlersOf topic).map fun (handler : Handler) =>
            ⟨handler, some data⟩) ++
          [.measured (.delivered topic (loop.subscriptions.handlersOf topic).length)]⟩ := by
  rw [deliver, Subscriptions.delivery, Call.makeEachGuarded_eq]
  rfl

/-- A reply ends the waiting of the one recipient that waits under its identifier. -/
theorem deliver_reply (distinct : loop.replies.Distinct) {first last : List Waiter} {w : Waiter}
    (split : loop.replies.waiters = first ++ w :: last) (data : Value) :
    loop.deliver (.reply w.id data) =
      ⟨{ loop with replies := { loop.replies with waiters := first ++ last } },
        Effect.ofReply data w.recipient ++ [.measured (.replied true)]⟩ := by
  simp only [deliver, distinct.take_eq split, Resolution.isMatched_ofRecipient, Option.isSome_some,
    Option.map_some, Option.getD_some]

/-- A reply that nobody waits for is dropped. -/
theorem deliver_unknown {id : String} (unknown : id ∉ loop.replies.ids) (data : Value) :
    loop.deliver (.reply id data) = ⟨loop, [.measured (.replied false)]⟩ := by
  simp only [deliver, ReplyTable.take_of_not_mem unknown]
  rfl

/-- A frame changes nothing but who waits for a reply. -/
theorem deliver_kept (frame : IncomingFrame) :
    (loop.deliver frame).loop = { loop with replies := (loop.deliver frame).loop.replies } := by
  cases frame <;> rfl

theorem receiveText_kept (text : String) :
    (loop.receiveText text).loop =
        { loop with replies := (loop.receiveText text).loop.replies } ∧
      framesOf (loop.receiveText text).effects = [] := by
  unfold receiveText
  split
  · next frame _ => exact ⟨deliver_kept frame, framesOf_deliver loop frame⟩
  · exact ⟨rfl, rfl⟩

/-- Whatever a message with data holds, it changes nothing but who waits for a reply, and nothing is
written. -/
theorem step_message_kept (listening : loop.listening = true) {message : Message}
    (data : message.isData = true) :
    ∃ replies, (loop.step now gone (.message message)).task =
        .running { loop with replies := replies } ∧
      framesOf (loop.step now gone (.message message)).effects = [] := by
  have htext (text : String) :
      ∃ replies, (loop.step now gone (.message (.text text))).task =
          .running { loop with replies := replies } ∧
        framesOf (loop.step now gone (.message (.text text))).effects = [] := by
    obtain ⟨hloop, hframes⟩ := loop.receiveText_kept text
    rw [step_text now gone listening]
    exact ⟨_, congrArg Task.running hloop, hframes⟩
  cases message with
  | text text => exact htext text
  | binary bytes =>
    cases hutf8 : String.fromUTF8? ⟨bytes.toArray⟩ with
    | some text =>
      rw [step_binary now gone listening hutf8]
      exact htext text
    | none =>
      rw [step_binary_of_none now gone listening hutf8]
      exact ⟨loop.replies, rfl, rfl⟩
  | _ => exact absurd data Bool.false_ne_true

end Loop

/-- Messages have exactly their effect.  While the connection is online, a text that is an event calls
the handlers that were registered for its topic, once each and in their order, and changes nothing.
One that is a reply gives its data to the recipient that waits under its identifier, which alone stops
waiting, or does nothing if nobody does.  Any other text does nothing.  A binary message is taken for
the text that it encodes, and does nothing if there is none.  In every case the loop differs in nothing
but who waits for a reply, it is online, and nothing is written. -/
theorem Run.message_effect {config : LoopConfig} {history : List Reaction} {loop : Loop}
    (run : Run config history (.running loop)) (online : loop.status = .online) (now : Nat)
    (gone : Nat → Bool) :
    (∀ text topic data, IncomingFrame.decode text = .ok (.event topic data) →
      loop.step now gone (.message (.text text)) =
        ⟨.running loop,
          Effect.ofCalls ((handlersRegistered topic history).map fun (handler : Handler) =>
              ⟨handler, some data⟩) ++
            [.measured (.delivered topic (handlersRegistered topic history).length)]⟩) ∧
      (∀ text id data, IncomingFrame.decode text = .ok (.reply id data) →
        (id ∉ loop.replies.ids →
          loop.step now gone (.message (.text text)) =
            ⟨.running loop, [.measured (.replied false)]⟩) ∧
          ∀ first w last, loop.replies.waiters = first ++ w :: last → w.id = id →
            loop.step now gone (.message (.text text)) =
              ⟨.running { loop with replies := { loop.replies with waiters := first ++ last } },
                Effect.ofReply data w.recipient ++ [.measured (.replied true)]⟩) ∧
      (∀ text fault, IncomingFrame.decode text = .error fault →
        loop.step now gone (.message (.text text)) = ⟨.running loop, [.measured .malformed]⟩) ∧
      (∀ text : String,
        loop.step now gone (.message (.binary text.toUTF8.data.toList)) =
          loop.step now gone (.message (.text text))) ∧
      (∀ bytes, (∀ text : String, text.toUTF8.data.toList ≠ bytes) →
        loop.step now gone (.message (.binary bytes)) =
          ⟨.running loop, [.measured .malformed]⟩) ∧
      ∀ message : Message, message.isData = true →
        ∃ replies, (loop.step now gone (.message message)).task =
            .running { loop with replies := replies } ∧
          Loop.Online { loop with replies := replies } ∧
          framesOf (loop.step now gone (.message message)).effects = [] := by
  obtain ⟨phase, hphase⟩ := run.exists_phase loop rfl
  have honline := hphase.online_of_status online
  have hlistening := honline.listening
  refine ⟨?_, ?_, ?_, ?_, ?_, ?_⟩
  · intro text topic data hdecode
    rw [Loop.step_text now gone hlistening, Loop.receiveText, hdecode]
    simp only [Loop.deliver_event, run.handlersOf_eq topic loop rfl]
  · intro text id data hdecode
    have hstep : loop.step now gone (.message (.text text)) =
        ⟨.running (loop.deliver (.reply id data)).loop,
          (loop.deliver (.reply id data)).effects⟩ := by
      rw [Loop.step_text now gone hlistening, Loop.receiveText, hdecode]
    constructor
    · intro unknown
      rw [hstep, Loop.deliver_unknown unknown]
    · rintro first w last hsplit rfl
      rw [hstep, Loop.deliver_reply (run.distinct loop rfl) hsplit]
  · intro text fault hdecode
    rw [Loop.step_text now gone hlistening, Loop.receiveText, hdecode]
  · intro text
    exact Loop.step_binary now gone hlistening (fromUTF8?_toUTF8 text)
  · intro bytes hnone
    exact Loop.step_binary_of_none now gone hlistening (fromUTF8?_eq_none hnone)
  · intro message hdata
    obtain ⟨replies, htask, hframes⟩ := Loop.step_message_kept now gone hlistening hdata
    exact ⟨replies, htask, ⟨honline.writable, honline.listening, honline.idle, honline.unarmed,
      honline.online, honline.beating, honline.drained⟩, hframes⟩

namespace Run

/-- Two handlers of a topic, the first of which panics, and a request that waits while the connection
is online. -/
def attended : List (Nat × LoopEvent) :=
  [(0, .command (.on "news" ⟨"first", true, none, none⟩)),
    (0, .command (.on "news" (.plain "second"))), (1, .connected none),
    (2, .command (.emit "ask" none (some (.callback (.plain "asker")))))]

/-- The frame of a text is known but for its data once its kind and its key are. -/
theorem exists_decoded {text key : String} (isEvent : Bool)
    (h : (IncomingFrame.decode text).toOption.map (fun (frame : IncomingFrame) =>
      (frame.isEvent, frame.key)) = some (isEvent, key)) :
    ∃ data,
      IncomingFrame.decode text = .ok (if isEvent then .event key data else .reply key data) := by
  cases hdecode : IncomingFrame.decode text with
  | error fault =>
    rw [hdecode] at h
    exact absurd h (by simp [Except.toOption])
  | ok frame =>
    rw [hdecode] at h
    obtain ⟨rfl, rfl⟩ := Prod.mk.inj (Option.some.inj h)
    cases frame with
    | event topic data => exact ⟨data, rfl⟩
    | reply id data => exact ⟨data, rfl⟩

/-- News come in for both handlers, then the reply to the request, and the same reply once more. -/
theorem message_effect_after_attended :
    ∃ loop data answer, (LoopConfig.standard.replay attended).2 = .running loop ∧
      (loop.step 3 (fun _ => false) (.message (.text "\x7b\"event\":\"news\"\x7d")) =
        ⟨.running loop,
          [.called ⟨⟨"first", true, none, none⟩, some data⟩, .called ⟨.plain "second", some data⟩,
            .measured (.delivered "news" 2)]⟩) ∧
      (loop.step 4 (fun _ => false) (.message (.text "\x7b\"id\":0\x7d")) =
        ⟨.running { loop with replies := { loop.replies with waiters := [] } },
          [.called ⟨.plain "asker", some answer⟩, .measured (.replied true)]⟩) ∧
      loop.step 5 (fun _ => false) (.message (.text "\x7b\"id\":\"1\"\x7d")) =
        ⟨.running loop, [.measured (.replied false)]⟩ := by
  obtain ⟨loop, hloop, honline, hwaiters⟩ : ∃ loop,
      (LoopConfig.standard.replay attended).2 = .running loop ∧ loop.status = .online ∧
        loop.replies.waiters = [⟨"0", .callback (.plain "asker"), 2⟩] :=
    ⟨_, rfl, rfl, rfl⟩
  have hrun := LoopConfig.standard.run_replay attended
  rw [hloop] at hrun
  obtain ⟨data, hnews⟩ : ∃ data,
      IncomingFrame.decode "\x7b\"event\":\"news\"\x7d" = .ok (.event "news" data) :=
    exists_decoded true (by decide +kernel)
  obtain ⟨answer, hreply⟩ : ∃ data,
      IncomingFrame.decode "\x7b\"id\":0\x7d" = .ok (.reply "0" data) :=
    exists_decoded false (by decide +kernel)
  obtain ⟨_, hunknown⟩ : ∃ data,
      IncomingFrame.decode "\x7b\"id\":\"1\"\x7d" = .ok (.reply "1" data) :=
    exists_decoded false (by decide +kernel)
  refine ⟨loop, data, answer, hloop, ?_, ?_, ?_⟩
  · exact (hrun.message_effect honline 3 _).1 _ _ _ hnews
  · exact ((hrun.message_effect honline 4 _).2.1 _ _ _ hreply).2 [] _ [] hwaiters rfl
  · refine ((hrun.message_effect honline 5 _).2.1 _ _ _ hunknown).1 ?_
    rw [ReplyTable.ids, hwaiters]
    decide

end Run

end EventLink
