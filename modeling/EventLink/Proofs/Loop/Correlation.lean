import Mathlib.Logic.Function.Basic
import EventLink.Proofs.Loop.Notices
import EventLink.Proofs.Loop.Outstanding
/-!
Replies from an honest server.

The server gets requests and answers each of them at most once, under its identifier, when it likes
and on whatever connection there is by then.  In between it sends what it likes that is no reply.
Requests and replies may get lost at any time, and they may overtake each other.
-/
namespace EventLink

open Json (Value)

/-- Where a written frame is, or the reply to it. -/
inductive Transit where
  /-- Not yet written, or lost, or answered with the reply taken in. -/
  | absent
  /-- On its way to the server. -/
  | outbound
  /-- With the server. -/
  | unanswered
  /-- The reply is on its way back. -/
  | answered (message : Message)

/-- A reply that reached its recipient, with the number of the request that it was made to. -/
structure Receipt where
  serial : Nat
  recipient : Recipient
  data : Value

/-- What a reaction hands over to a recipient: the data of a reply, if anybody waits for it. -/
def Reaction.handover (r : Reaction) : Option (Recipient × Value) :=
  match r.event.reply?, r.loop.listening with
  | some (id, data), true =>
    (r.loop.replies.take id).1.map fun (recipient : Recipient) => (recipient, data)
  | _, _ => none

theorem Reaction.effects_of_handover {r : Reaction} {recipient : Recipient} {data : Value}
    (h : r.handover = some (recipient, data)) :
    r.effects = [.handover data recipient, .measured (.replied true)] := by
  unfold handover at h
  split at h
  · next id given hreply hlistening =>
    obtain ⟨found, hfound, hsame⟩ := Option.map_eq_some_iff.mp h
    obtain ⟨rfl, rfl⟩ := Prod.mk.inj hsame
    have hverdict := r.reacts.verdict_of_reply hreply hlistening
    rw [effects_eq, hverdict]
    simp [Verdict.effects, Verdict.lossEffects, Loop.deliver, hfound, Effect.ofReply_eq]
  · exact absurd h (by simp)

/-- A client and its server: the reactions of the loop and what became of it, where each written frame
is, the data of the server's replies with the numbers of the requests, and the replies that reached
their recipients. -/
structure Exchange where
  history : List Reaction
  task : Task
  transit : Nat → Transit
  answers : List (Nat × Value)
  receipts : List Receipt

namespace Exchange

/-- The numbers of the requests whose replies were taken in. -/
def received (e : Exchange) : List Nat :=
  e.receipts.map Receipt.serial

/-- The exchange after another reaction of the loop: what it writes is on its way. -/
def reacted (e : Exchange) (r : Reaction) : Exchange :=
  { e with
    history := e.history ++ [r]
    task := r.outcome.task
    transit := fun (n : Nat) =>
      if (eventsWritten e.history).length ≤ n ∧
          n < (eventsWritten (e.history ++ [r])).length then .outbound
      else e.transit n }

/-- The exchange with another place for the frame of a number, or for the reply to it. -/
def put (e : Exchange) (n : Nat) (place : Transit) : Exchange :=
  { e with transit := Function.update e.transit n place }

/-- The exchanges with an honest server in which no sweep takes anybody out. -/
inductive Reachable (config : LoopConfig) : Exchange → Prop
  | start (now : Nat) :
    Reachable config ⟨[], (Loop.start config now).task, fun (_ : Nat) => .absent, [], []⟩
  /-- The loop reacts to anything but a reply. -/
  | react {e : Exchange} (before : Reachable config e) (r : Reaction)
    (running : e.task = .running r.loop) (unreplied : r.event.reply? = none)
    (unswept : r.event = .sweepDue → (r.loop.replies.sweep r.now r.gone).1 = []) :
    Reachable config (e.reacted r)
  /-- A frame gets to the server. -/
  | arrive {e : Exchange} (before : Reachable config e) (n : Nat)
    (outbound : e.transit n = .outbound) :
    Reachable config (e.put n .unanswered)
  /-- The server answers a request that it has not answered. -/
  | answer {e : Exchange} (before : Reachable config e) (n : Nat)
    (unanswered : e.transit n = .unanswered) (frame : OutgoingFrame) (id : String)
    (written : (eventsWritten e.history)[n]? = some frame) (asked : frame.id? = some id)
    (message : Message) (data : Value) (carries : message.frame? = some (.reply id data)) :
    Reachable config
      { e.put n (.answered message) with answers := e.answers ++ [(n, data)] }
  /-- A reply comes in over the connection that there is by then. -/
  | deliver {e : Exchange} (before : Reachable config e) (n : Nat) (message : Message)
    (answered : e.transit n = .answered message) (r : Reaction)
    (running : e.task = .running r.loop) (event : r.event = .message message)
    (listening : r.loop.listening = true) :
    Reachable config
      { (e.reacted r).put n .absent with
        receipts := e.receipts ++
          (r.handover.map fun (given : Recipient × Value) =>
            Receipt.mk n given.1 given.2).toList }
  /-- A frame or a reply gets lost. -/
  | lose {e : Exchange} (before : Reachable config e) (n : Nat) :
    Reachable config (e.put n .absent)

/-- The receipt is one of the reply that the server made to the recipient's own request. -/
def Correct (e : Exchange) (receipt : Receipt) : Prop :=
  ∃ offer, (offersOf e.history)[receipt.serial]? = some offer ∧
    (eventsWritten e.history)[receipt.serial]? = some offer.frame ∧
    offer.recipient = some receipt.recipient ∧ (receipt.serial, receipt.data) ∈ e.answers

/-- What is under way was written and its reply has not been taken in; a reply on its way back is one
that the server made to the request of its number. -/
structure Tracked (e : Exchange) : Prop where
  written : ∀ n, (eventsWritten e.history).length ≤ n → e.transit n = .absent
  pending : ∀ n, e.transit n ≠ .absent → n ∉ e.received
  answered : ∀ n message, e.transit n = .answered message →
    ∃ frame id data, (eventsWritten e.history)[n]? = some frame ∧ frame.id? = some id ∧
      message.frame? = some (.reply id data) ∧ (n, data) ∈ e.answers
  correct : ∀ receipt ∈ e.receipts, e.Correct receipt

/-- Everything is tracked, and the loop awaits the replies to the outstanding requests. -/
structure Sound (e : Exchange) : Prop where
  tracked : e.Tracked
  awaits : ∀ loop, e.task = .running loop →
    Awaits loop.replies.waiters (offersOf e.history) e.received

variable {config : LoopConfig} {e : Exchange} {loop : Loop}

theorem Reachable.run (reachable : Reachable config e) : Run config e.history e.task := by
  induction reachable with
  | start now => exact .start now
  | react before r running unreplied unswept ih => exact .react r (running ▸ ih)
  | arrive before n outbound ih => exact ih
  | answer before n unanswered frame id written asked message data carries ih => exact ih
  | deliver before n message answered r running event listening ih => exact .react r (running ▸ ih)
  | lose before n ih => exact ih

theorem Tracked.lt_of_received (h : e.Tracked) {n : Nat} (hn : n ∈ e.received) :
    n < (eventsWritten e.history).length := by
  obtain ⟨receipt, hreceipt, rfl⟩ := List.mem_map.mp hn
  obtain ⟨offer, _, hwritten, _⟩ := h.correct receipt hreceipt
  exact (List.getElem?_eq_some_iff.mp hwritten).1

theorem Correct.reacted {receipt : Receipt} (h : e.Correct receipt) (r : Reaction) :
    (e.reacted r).Correct receipt := by
  obtain ⟨offer, hoffer, hwritten, hrecipient, hanswer⟩ := h
  refine ⟨offer, ?_, ?_, hrecipient, hanswer⟩
  · rw [Exchange.reacted, offersOf_snoc]
    exact getElem?_append_of_some _ hoffer
  · rw [Exchange.reacted, eventsWritten_snoc]
    exact getElem?_append_of_some _ hwritten

/-- A reaction puts what it writes on its way, under numbers that are new. -/
theorem Tracked.reacted (h : e.Tracked) (r : Reaction) : (e.reacted r).Tracked := by
  have hgrows : (eventsWritten e.history).length ≤ (eventsWritten (e.history ++ [r])).length := by
    rw [eventsWritten_snoc, List.length_append]
    exact Nat.le_add_right _ _
  constructor
  · intro n hn
    change (eventsWritten (e.history ++ [r])).length ≤ n at hn
    change (if _ then _ else _) = _
    rw [if_neg (by omega)]
    exact h.written n (Nat.le_trans hgrows hn)
  · intro n hn hreceived
    have hold := h.lt_of_received hreceived
    change (if _ then _ else _) ≠ _ at hn
    rw [if_neg (by omega)] at hn
    exact h.pending n hn hreceived
  · intro n message hn
    change (if _ then _ else _) = _ at hn
    split at hn
    · exact absurd hn (by simp)
    · obtain ⟨frame, id, data, hwritten, hrest⟩ := h.answered n message hn
      refine ⟨frame, id, data, ?_, hrest⟩
      rw [Exchange.reacted, eventsWritten_snoc]
      exact getElem?_append_of_some _ hwritten
  · intro receipt hreceipt
    exact (h.correct receipt hreceipt).reacted r

/-- What is under way may move or get lost, and the server may answer it. -/
theorem Tracked.moved (h : e.Tracked) {n : Nat} {place : Transit} {answers : List (Nat × Value)}
    (under : place = .absent ∨ e.transit n ≠ .absent) (grows : e.answers ⊆ answers)
    (answered : ∀ message, place = .answered message →
      ∃ frame id data, (eventsWritten e.history)[n]? = some frame ∧ frame.id? = some id ∧
        message.frame? = some (.reply id data) ∧ (n, data) ∈ answers) :
    Tracked { e.put n place with answers := answers } := by
  constructor
  · intro m hm
    change Function.update e.transit n place m = .absent
    by_cases hsame : m = n
    · subst hsame
      rw [Function.update_self]
      exact under.resolve_right fun hunder => hunder (h.written m hm)
    · rw [Function.update_of_ne hsame]
      exact h.written m hm
  · intro m hm
    change Function.update e.transit n place m ≠ .absent at hm
    by_cases hsame : m = n
    · subst hsame
      rw [Function.update_self] at hm
      exact h.pending m (under.resolve_left hm)
    · rw [Function.update_of_ne hsame] at hm
      exact h.pending m hm
  · intro m message hm
    change Function.update e.transit n place m = .answered message at hm
    by_cases hsame : m = n
    · subst hsame
      rw [Function.update_self] at hm
      exact answered message hm
    · rw [Function.update_of_ne hsame] at hm
      obtain ⟨frame, id, data, hwritten, hid, hcarries, hanswer⟩ := h.answered m message hm
      exact ⟨frame, id, data, hwritten, hid, hcarries, grows hanswer⟩
  · intro receipt hreceipt
    obtain ⟨offer, hoffer, hwritten, hrecipient, hanswer⟩ := h.correct receipt hreceipt
    exact ⟨offer, hoffer, hwritten, hrecipient, grows hanswer⟩

theorem Tracked.put (h : e.Tracked) {n : Nat} {place : Transit}
    (under : place = .absent ∨ e.transit n ≠ .absent)
    (unanswered : ∀ message, place ≠ .answered message) : (e.put n place).Tracked := by
  refine h.moved under (List.Subset.refl e.answers) ?_
  intro message hmessage
  exact absurd hmessage (unanswered message)

/-- What was written is the front of what was to be sent, so the frame of a number is the one that was
to be sent under it. -/
theorem offer_of_written {history : List Reaction} {loop : Loop}
    (run : Run config history (.running loop)) {n : Nat} {frame : OutgoingFrame}
    (h : (eventsWritten history)[n]? = some frame) :
    ∃ offer, (offersOf history)[n]? = some offer ∧ offer.frame = frame := by
  have hoffered : (framesOffered history)[n]? = some frame := by
    rw [run.offered_eq loop rfl]
    exact getElem?_append_of_some _ h
  rw [framesOffered_eq, List.getElem?_map, Option.map_eq_some_iff] at hoffered
  exact hoffered

theorem handover_of_outstanding {history : List Reaction} {received : List Nat} {r : Reaction}
    (run : Run config history (.running r.loop)) {n : Nat} {id : String} {data : Value}
    (awaits : Awaits r.loop.replies.waiters (offersOf history) received)
    (outstanding : Outstanding (offersOf history) received n id)
    (reply : r.event.reply? = some (id, data)) (listening : r.loop.listening = true) :
    ∃ offer recipient, (offersOf history)[n]? = some offer ∧ offer.recipient = some recipient ∧
      r.handover = some (recipient, data) := by
  obtain ⟨w, hw, rfl, offer, hoffer, hrecipient⟩ := awaits.waits n id outstanding
  refine ⟨offer, w.recipient, hoffer, hrecipient, ?_⟩
  rw [Reaction.handover, reply, listening]
  simp only [(run.distinct r.loop rfl).take_of_mem hw, Option.map_some]

theorem Sound.reacted (h : e.Sound) {r : Reaction} (running : e.task = .running r.loop)
    (unreplied : r.event.reply? = none)
    (unswept : r.event = .sweepDue → (r.loop.replies.sweep r.now r.gone).1 = []) :
    (e.reacted r).Sound := by
  refine ⟨h.tracked.reacted r, ?_⟩
  intro next hnext
  rw [Exchange.reacted, offersOf_snoc]
  exact Reaction.awaits hnext unreplied unswept (h.awaits r.loop running)

theorem Sound.moved (h : e.Sound) {n : Nat} {place : Transit} {answers : List (Nat × Value)}
    (tracked : Tracked { e.put n place with answers := answers }) :
    Sound { e.put n place with answers := answers } :=
  ⟨tracked, h.awaits⟩

/-- A reply on its way back is to an outstanding request, and whoever waits under its identifier is the
recipient of this request. -/
theorem Sound.reaches (h : e.Sound) (run : Run config e.history e.task) {n : Nat}
    {message : Message} (answered : e.transit n = .answered message) {r : Reaction}
    (running : e.task = .running r.loop) (event : r.event = .message message)
    (listening : r.loop.listening = true) :
    ∃ offer id recipient data,
      (offersOf e.history)[n]? = some offer ∧ (eventsWritten e.history)[n]? = some offer.frame ∧
        offer.recipient = some recipient ∧ (n, data) ∈ e.answers ∧
        Outstanding (offersOf e.history) e.received n id ∧ message.frame? = some (.reply id data) ∧
        r.handover = some (recipient, data) := by
  obtain ⟨frame, id, data, hwritten, hid, hcarries, hanswer⟩ :=
    h.tracked.answered n message answered
  rw [running] at run
  obtain ⟨offer, hoffer, rfl⟩ := offer_of_written run hwritten
  have hnew : n ∉ e.received := h.tracked.pending n (by simp [answered])
  have outstanding : Outstanding (offersOf e.history) e.received n id := ⟨hnew, offer, hoffer, hid⟩
  have hreply : r.event.reply? = some (id, data) := by
    rw [event, LoopEvent.reply?, hcarries]
    rfl
  obtain ⟨same, recipient, hsame, hrecipient, hhandover⟩ :=
    handover_of_outstanding run (h.awaits r.loop running) outstanding hreply listening
  obtain rfl := Option.some.inj (hoffer.symm.trans hsame)
  exact ⟨offer, id, recipient, data, hoffer, hwritten, hrecipient, hanswer, outstanding, hcarries,
    hhandover⟩

/-- The reply to a request reaches the recipient of this request and of no other one. -/
theorem Sound.delivered (h : e.Sound) (run : Run config e.history e.task) {n : Nat}
    {message : Message} (answered : e.transit n = .answered message) {r : Reaction}
    (running : e.task = .running r.loop) (event : r.event = .message message)
    (listening : r.loop.listening = true) :
    Sound
      { (e.reacted r).put n .absent with
        receipts := e.receipts ++
          (r.handover.map fun (given : Recipient × Value) =>
            Receipt.mk n given.1 given.2).toList } := by
  obtain ⟨offer, id, recipient, data, hoffer, hwritten, hrecipient, hanswer, outstanding, hcarries,
    hhandover⟩ := h.reaches run answered running event listening
  have htracked : ((e.reacted r).put n .absent).Tracked :=
    (h.tracked.reacted r).put (Or.inl rfl) (by simp)
  have hcorrect : (e.reacted r).Correct ⟨n, recipient, data⟩ :=
    Correct.reacted ⟨offer, hoffer, hwritten, hrecipient, hanswer⟩ r
  rw [hhandover]
  refine ⟨⟨htracked.written, ?_, htracked.answered, ?_⟩, ?_⟩
  · intro m hm
    change m ∉ (e.receipts ++ [Receipt.mk n recipient data]).map Receipt.serial
    rw [List.map_append, List.mem_append, not_or]
    refine ⟨htracked.pending m hm, ?_⟩
    intro hsame
    obtain rfl := List.mem_singleton.mp hsame
    exact hm (Function.update_self _ _ _)
  · intro receipt hreceipt
    rcases List.mem_append.mp hreceipt with hold | hlast
    · exact htracked.correct receipt hold
    · obtain rfl := List.mem_singleton.mp hlast
      exact hcorrect
  · intro next hnext
    have hnone : r.offers = [] := by
      rw [Reaction.offers, event]
      rfl
    have hwaiters : next.replies.waiters =
        r.loop.replies.waiters.filter fun (w : Waiter) => w.id != id := by
      rw [(Reaction.remembers hnext).2, event, Loop.repliesAfter, hcarries, listening]
      exact ReplyTable.waiters_take
    change Awaits _ (offersOf (e.history ++ [r]))
      ((e.receipts ++ [Receipt.mk n recipient data]).map Receipt.serial)
    rw [hwaiters, offersOf_snoc, hnone, List.append_nil, List.map_append]
    exact (h.awaits r.loop running).take outstanding

theorem Reachable.sound (reachable : Reachable config e) : e.Sound := by
  induction reachable with
  | start now =>
    refine ⟨⟨fun _ _ => rfl, ?_, ?_, ?_⟩, ?_⟩
    · intro n hn
      exact absurd rfl hn
    · intro n message hn
      exact absurd hn (by simp)
    · exact List.forall_mem_nil _
    · intro loop _
      refine ⟨?_, ?_⟩
      · rintro n id ⟨_, offer, hoffer, _⟩
        exact absurd hoffer (by simp [offersOf])
      · rintro m n id ⟨_, offer, hoffer, _⟩ _
        exact absurd hoffer (by simp [offersOf])
  | react before r running unreplied unswept ih => exact ih.reacted running unreplied unswept
  | arrive before n outbound ih =>
    exact ih.moved (ih.tracked.put (Or.inr (by simp [outbound])) (by simp))
  | answer before n unanswered frame id written asked message data carries ih =>
    refine ih.moved (ih.tracked.moved (Or.inr (by simp [unanswered])) ?_ ?_)
    · exact List.subset_append_left _ _
    · intro other hother
      obtain rfl := Transit.answered.inj hother
      exact ⟨frame, id, data, written, asked, carries,
        List.mem_append_right _ (List.mem_singleton_self _)⟩
  | deliver before n message answered r running event listening ih =>
    exact ih.delivered before.run answered running event listening
  | lose before n ih => exact ih.moved (ih.tracked.put (Or.inl rfl) (by simp))

/-- The receipts are about everything that was handed over, in its order. -/
theorem Reachable.handovers (reachable : Reachable config e) :
    e.history.filterMap Reaction.handover =
      e.receipts.map fun (receipt : Receipt) => (receipt.recipient, receipt.data) := by
  induction reachable with
  | start now => rfl
  | react before r running unreplied unswept ih =>
    have hnone : r.handover = none := by
      rw [Reaction.handover, unreplied]
    rw [Exchange.reacted, List.filterMap_append, ih, List.filterMap_cons, hnone]
    exact List.append_nil _
  | arrive before n outbound ih => exact ih
  | answer before n unanswered frame id written asked message data carries ih => exact ih
  | deliver before n message answered r running event listening ih =>
    change (_ ++ [r]).filterMap Reaction.handover = _
    rw [List.filterMap_append, ih, List.map_append, List.filterMap_cons]
    cases r.handover <;> rfl
  | lose before n ih => exact ih

/-- A reaction that hands nothing over takes in no reply, and no sweep takes anybody out. -/
theorem Reachable.quiet (reachable : Reachable config e) :
    ∀ r ∈ e.history, r.handover = none →
      r.reply? = none ∧ (r.event = .sweepDue → (r.loop.replies.sweep r.now r.gone).1 = []) := by
  induction reachable with
  | start now => exact List.forall_mem_nil _
  | react before r running unreplied unswept ih =>
    change ∀ q ∈ _ ++ [r], _
    rw [List.forall_mem_append, List.forall_mem_singleton]
    exact ⟨ih, fun _ => ⟨Reaction.reply?_eq_none.mpr fun _ => unreplied, unswept⟩⟩
  | arrive before n outbound ih => exact ih
  | answer before n unanswered frame id written asked message data carries ih => exact ih
  | deliver before n message answered r running event listening ih =>
    change ∀ q ∈ _ ++ [r], _
    rw [List.forall_mem_append, List.forall_mem_singleton]
    refine ⟨ih, ?_⟩
    intro nothing
    obtain ⟨_, _, _, _, _, _, _, _, _, _, hhandover⟩ :=
      before.sound.reaches before.run answered running event listening
    exact absurd (nothing.symm.trans hhandover) (by simp)
  | lose before n ih => exact ih

/-- Where nothing is handed over nobody is told anything about replies. -/
theorem Reachable.noticesOf_effects (reachable : Reachable config e) {r : Reaction}
    (mem : r ∈ e.history) (nothing : r.handover = none) : noticesOf r.effects = [] := by
  obtain ⟨unreplied, unswept⟩ := reachable.quiet r mem nothing
  by_cases hsweep : r.event = .sweepDue
  · rw [Reaction.effects_of_sweep hsweep, unswept hsweep]
    rfl
  · exact Reaction.noticesOf_effects unreplied hsweep

/-- A request that is made while the connection takes every write goes out at once. -/
theorem Reachable.requested (before : Reachable config e) (running : e.task = .running loop)
    (online : loop.status = .online) (unlimited : loop.writer = some ⟨none⟩) (topic : String)
    (data : Option Value) {recipient : Recipient} {id : String} {replies : ReplyTable}
    (expected : loop.replies.expect 0 recipient = some (id, replies)) :
    ∃ next, Reachable config next ∧ next.task = .running { loop with replies := replies } ∧
      eventsWritten next.history = eventsWritten e.history ++ [.event topic data (some id)] ∧
      next.transit (eventsWritten e.history).length = .outbound ∧ next.receipts = e.receipts := by
  let r : Reaction :=
    ⟨loop, 0, fun (_ : Nat) => false, .command (.emit topic data (some recipient))⟩
  have hverdict : r.verdict =
      .stays ⟨{ loop with replies := replies }, Effect.ofWrite (.event topic data (some id))⟩ := by
    simp [r, Reaction.verdict, Loop.react, Loop.obey, expected, Loop.send, online,
      LinkStatus.isOnline, Loop.write, unlimited, Writer.spend, Effect.ofWrite]
  have hwritten : eventsWritten (e.history ++ [r]) =
      eventsWritten e.history ++ [.event topic data (some id)] := by
    rw [eventsWritten_snoc, eventFramesOf, r.framesOf_effects, hverdict]
    rfl
  refine ⟨e.reacted r, before.react r running rfl (by simp [r]), ?_, hwritten, ?_, rfl⟩
  · exact Reaction.task_of_stays hverdict
  · change (if _ then _ else _) = _
    rw [if_pos]
    rw [hwritten, List.length_append, List.length_singleton]
    omega

/-- A reply that comes in over a connection is handed over at once. -/
theorem Reachable.served (before : Reachable config e) (running : e.task = .running loop)
    (listening : loop.listening = true) {n : Nat} {message : Message}
    (answered : e.transit n = .answered message) {id : String} {data : Value}
    (carries : message.frame? = some (.reply id data)) {recipient : Recipient}
    (waits : (loop.replies.take id).1 = some recipient) :
    ∃ next, Reachable config next ∧
      next.task = .running { loop with replies := (loop.replies.take id).2 } ∧
      eventsWritten next.history = eventsWritten e.history ∧
      next.receipts = e.receipts ++ [⟨n, recipient, data⟩] := by
  let r : Reaction := ⟨loop, 0, fun (_ : Nat) => false, .message message⟩
  have hreply : r.event.reply? = some (id, data) := by
    simp [r, LoopEvent.reply?, carries, IncomingFrame.reply?]
  have hverdict := r.reacts.verdict_of_reply hreply listening
  have hhandover : r.handover = some (recipient, data) := by
    simp [Reaction.handover, hreply, r, listening, waits]
  refine ⟨_, before.deliver n message answered r running rfl listening, ?_, ?_, ?_⟩
  · exact Reaction.task_of_stays hverdict
  · change eventsWritten (e.history ++ [r]) = _
    have hsilent : framesOf r.effects = [] := by
      rw [r.framesOf_effects, hverdict]
      exact loop.framesOf_deliver _
    rw [eventsWritten_snoc, eventFramesOf_eq_nil hsilent, List.append_nil]
  · rw [hhandover]
    rfl

/-- A request that is made while the connection takes every write can get the reply to it. -/
theorem Reachable.round_trip (before : Reachable config e) (running : e.task = .running loop)
    (online : loop.status = .online) (listening : loop.listening = true)
    (unlimited : loop.writer = some ⟨none⟩) (topic : String) (data : Option Value)
    (recipient : Recipient) {id : String} {replies : ReplyTable}
    (expected : loop.replies.expect 0 recipient = some (id, replies))
    (waits : (replies.take id).1 = some recipient) {message : Message} {answer : Value}
    (carries : message.frame? = some (.reply id answer)) :
    ∃ next, Reachable config next ∧
      next.task = .running { loop with replies := (replies.take id).2 } ∧
      eventsWritten next.history = eventsWritten e.history ++ [.event topic data (some id)] ∧
      next.receipts = e.receipts ++ [⟨(eventsWritten e.history).length, recipient, answer⟩] := by
  obtain ⟨asked, hasked, htask, hwritten, houtbound, hreceipts⟩ :=
    before.requested running online unlimited topic data expected
  have hframe : (eventsWritten asked.history)[(eventsWritten e.history).length]? =
      some (.event topic data (some id)) := by
    rw [hwritten, List.getElem?_append_right (Nat.le_refl _), Nat.sub_self]
    rfl
  have hanswered := (hasked.arrive _ houtbound).answer _ (Function.update_self _ _ _) _ id hframe rfl
    message answer carries
  obtain ⟨next, hnext, hlast, hsame, hserved⟩ :=
    hanswered.served htask listening (Function.update_self _ _ _) carries waits
  refine ⟨next, hnext, hlast, hsame.trans hwritten, ?_⟩
  rw [hserved]
  exact congrArg (fun (receipts : List Receipt) => receipts ++ [_]) hreceipts

/-- Replies find those who asked for them.  Whoever gets a reply, be it a callback or the caller of a
request, gets one that the server made to the frame that went out for this very recipient.  A reaction
in which nobody gets a reply hands nothing to any channel, and it calls nobody but the handlers of a
topic, with what was delivered for it, and those who watch the connection.  All the others still wait,
and though identifiers are used again, no two of them wait under the same one. -/
theorem Reachable.replies_correlated (reachable : Reachable config e) :
    (∀ receipt ∈ e.receipts,
      ∃ offer, (offersOf e.history)[receipt.serial]? = some offer ∧
        (eventsWritten e.history)[receipt.serial]? = some offer.frame ∧
        offer.recipient = some receipt.recipient ∧
        (receipt.serial, receipt.data) ∈ e.answers) ∧
      (e.history.filterMap Reaction.handover =
        e.receipts.map fun (receipt : Receipt) => (receipt.recipient, receipt.data)) ∧
      (∀ before r later, e.history = before ++ r :: later →
        (∀ recipient data, r.handover = some (recipient, data) →
          r.effects = [.handover data recipient, .measured (.replied true)]) ∧
        (r.handover = none →
          noticesOf r.effects = [] ∧
            ∀ call ∈ callsOf r.effects,
              (∃ message topic data, r.event = .message message ∧
                  message.frame? = some (.event topic data) ∧
                  call ∈ (handlersRegistered topic before).map fun (handler : Handler) =>
                    ⟨handler, some data⟩) ∨
                ∃ event, call ∈ watchersRegistered event (before ++ [r]))) ∧
      ∀ loop, e.task = .running loop →
        Awaits loop.replies.waiters (offersOf e.history) e.received := by
  have hsound := reachable.sound
  refine ⟨hsound.tracked.correct, reachable.handovers, ?_, hsound.awaits⟩
  intro before r later hhistory
  have hmem : r ∈ e.history := hhistory ▸ List.mem_append_right _ List.mem_cons_self
  have hrun := reachable.run
  rw [hhistory] at hrun
  constructor
  · intro recipient data hhandover
    exact Reaction.effects_of_handover hhandover
  · intro nothing
    refine ⟨reachable.noticesOf_effects hmem nothing, ?_⟩
    intro call called
    exact hrun.before.calls_of_unreplied (reachable.quiet r hmem nothing).1 called

/-- What a loop is started with that draws the same identifier twice. -/
def repeating : LoopConfig :=
  { LoopConfig.standard with source := IdSource.ofList ["a", "a"] }

def reply : Message :=
  .text "\x7b\"id\":\"a\",\"data\":true\x7d"

theorem frame?_reply : ∃ data, reply.frame? = some (.reply "a" data) := by
  have hid : (reply.frame?.bind IncomingFrame.reply?).map Prod.fst = some "a" := by decide +kernel
  obtain ⟨⟨id, data⟩, hreply, rfl⟩ := Option.map_eq_some_iff.mp hid
  obtain ⟨frame, hframe, hreply⟩ := Option.bind_eq_some_iff.mp hreply
  cases frame with
  | event topic data => exact absurd hreply (by simp [IncomingFrame.reply?])
  | reply known data =>
    obtain ⟨rfl, rfl⟩ := Prod.mk.inj (Option.some.inj hreply)
    exact ⟨_, hframe⟩

/-- Two requests have the same identifier, one after the other, and each gets its own reply. -/
theorem replies_correlated_of_repeating :
    ∃ e data, Reachable repeating e ∧
      eventsWritten e.history = [.event "x" none (some "a"), .event "y" none (some "a")] ∧
      e.receipts = [⟨0, .callback (.plain "first"), data⟩, ⟨1, .callback (.plain "second"), data⟩] ∧
      (∃ offer, (offersOf e.history)[1]? = some offer ∧
        offer.recipient = some (.callback (.plain "second"))) ∧
      ∃ r ∈ e.history,
        r.effects = [.called ⟨.plain "second", some data⟩, .measured (.replied true)] := by
  obtain ⟨data, hdata⟩ := frame?_reply
  have started : Reachable repeating _ := .start 0
  have opened := started.react ⟨_, 1, fun _ => false, .connected none⟩ rfl rfl (by simp)
  obtain ⟨middle, hmiddle, htask, hwritten, hreceipts⟩ :=
    opened.round_trip rfl rfl rfl rfl "x" none (.callback (.plain "first")) rfl rfl hdata
  obtain ⟨last, hlast, _, hboth, hserved⟩ :=
    hmiddle.round_trip htask rfl rfl rfl "y" none (.callback (.plain "second")) rfl rfl hdata
  rw [hwritten] at hboth hserved
  rw [hreceipts] at hserved
  refine ⟨last, data, hlast, hboth, hserved, ?_⟩
  have hmem : ⟨1, .callback (.plain "second"), data⟩ ∈ last.receipts :=
    hserved ▸ List.mem_append_right _ (List.mem_singleton_self _)
  obtain ⟨hown, hhandovers, heffects, _⟩ := hlast.replies_correlated
  obtain ⟨offer, hoffer, _, hrecipient, _⟩ := hown _ hmem
  refine ⟨⟨offer, hoffer, hrecipient⟩, ?_⟩
  have hgiven : (.callback (.plain "second"), data) ∈ last.history.filterMap Reaction.handover := by
    rw [hhandovers]
    exact List.mem_map.mpr ⟨_, hmem, rfl⟩
  obtain ⟨r, hr, hhandover⟩ := List.mem_filterMap.mp hgiven
  obtain ⟨before, later, hsplit⟩ := List.append_of_mem hr
  exact ⟨r, hr, (heffects before r later hsplit).1 _ _ hhandover⟩

end Exchange

end EventLink
