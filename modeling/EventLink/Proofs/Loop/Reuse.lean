import EventLink.Proofs.Loop.Fate
/-!
The identifiers of requests that wait to be sent.

An identifier is free as soon as nobody waits under it.  No reply comes to a request that was not sent,
so nothing but a sweep takes out its recipient, and the frame of the request goes on waiting all the
same.  Two frames that wait may therefore carry the same identifier, but only if a sweep took out the
recipient of the first one before the second one came.
-/
namespace EventLink

def requestsWritten (history : List Reaction) : Nat :=
  ((eventsWritten history).filterMap OutgoingFrame.id?).length

/-- Those who were let wait for the reply to a request that was not written yet, each with the
reactions since then.  Frames keep their order, so these are the last ones who were let wait. -/
def unsentRequests (history : List Reaction) : List (Waiter × List Reaction) :=
  (withLater Reaction.registered? history).drop (requestsWritten history)

namespace Reaction

variable {r : Reaction} {w : Waiter}

/-- A request goes out under the identifier that its recipient waits under. -/
theorem ids_offered (r : Reaction) :
    r.offered.filterMap OutgoingFrame.id? = (r.registered?.map Waiter.id).toList := by
  unfold offered offers registered? Loop.offersAt
  cases r.event with
  | command asked =>
    cases asked with
    | emit topic data recipient =>
      cases recipient with
      | none => rfl
      | some recipient =>
        cases hexpect : r.loop.replies.expect r.now recipient <;> simp [OutgoingFrame.id?, hexpect]
    | _ => rfl
  | heartbeatDue => cases hrunning : r.loop.heartbeat.isRunning <;> simp [OutgoingFrame.id?]
  | _ => rfl

theorem free_of_registered? (h : r.registered? = some w) : w.id ∉ r.loop.replies.ids := by
  unfold registered? at h
  split at h
  · obtain ⟨found, hexpect, rfl⟩ := Option.map_eq_some_iff.mp h
    exact (ReplyTable.of_expect_eq_some hexpect).1
  · cases h

/-- Without a reply only a sweep ends the waiting of anybody. -/
theorem ending?_of_unreplied (unreplied : r.reply? = none) (ends : r.ending? w ≠ none) :
    r.ending? w = some .swept := by
  by_cases hsweep : r.event = .sweepDue
  · rw [ending?_of_sweep unreplied hsweep] at ends ⊢
    split at ends
    · exact absurd rfl ends
    · next hdropped => rw [if_neg hdropped]
  · exact absurd (ending?_of_other unreplied hsweep w) ends

/-- If there is no limit to the waiting and nobody is gone, then nobody is swept out. -/
theorem swept_eq_nil (unlimited : r.loop.replies.lifetime = none)
    (present : ∀ channel, r.gone channel = false) : r.swept = [] := by
  unfold swept
  split
  · rw [ReplyTable.sweep, List.filter_eq_nil_iff]
    intro w _
    have habandoned : ReplyTable.isAbandoned r.gone w = false := by
      unfold ReplyTable.isAbandoned
      split
      · rfl
      · exact present _
    simp [ReplyTable.keeps, ReplyTable.isExpired, unlimited, habandoned]
  · rfl

end Reaction

theorem ids_withLater (history : List Reaction) :
    ((withLater Reaction.registered? history).map fun (g : Waiter × List Reaction) => g.1.id) =
      (framesOffered history).filterMap OutgoingFrame.id? := by
  induction history with
  | nil => rfl
  | cons r later ih =>
    have hframes : framesOffered (r :: later) = r.offered ++ framesOffered later :=
      List.flatMap_cons
    rw [withLater, List.map_append, ih, hframes, List.filterMap_append, r.ids_offered]
    congr 1
    cases r.registered? <;> rfl

namespace Run

variable {config : LoopConfig} {history : List Reaction} {task : Task}

/-- The frames that wait carry the identifiers of the requests that were not written. -/
theorem ids_unsent (run : Run config history task) :
    ∀ loop, task = .running loop →
      ((unsentRequests history).map fun (g : Waiter × List Reaction) => g.1.id) =
        loop.outbox.frames.filterMap OutgoingFrame.id? := by
  intro loop hloop
  rw [unsentRequests, List.map_drop, ids_withLater, run.offered_eq loop hloop,
    List.filterMap_append, requestsWritten, List.drop_left]

/-- A request that is not written after a reaction was not written before it, or comes with it. -/
theorem old_or_new_of_unsent {r : Reaction} (before : Run config history (.running r.loop))
    {g : Waiter × List Reaction} (unsent : g ∈ unsentRequests (history ++ [r])) :
    (∃ later, (g.1, later) ∈ unsentRequests history ∧ g.2 = later ++ [r]) ∨ g.2 = [] := by
  have hwritten : requestsWritten history ≤
      (withLater Reaction.registered? history).length := by
    have hids := congrArg List.length (ids_withLater history)
    rw [List.length_map, before.offered_eq r.loop rfl, List.filterMap_append,
      List.length_append] at hids
    exact hids ▸ Nat.le_add_right _ _
  have hlater : requestsWritten (history ++ [r]) =
      requestsWritten history + ((eventFramesOf r.effects).filterMap OutgoingFrame.id?).length := by
    rw [requestsWritten, eventsWritten_snoc, List.filterMap_append, List.length_append]
    rfl
  rw [unsentRequests, hlater, ← List.drop_drop, withLater_snoc] at unsent
  have hmem := List.mem_of_mem_drop unsent
  rw [List.drop_append_of_le_length (by rwa [List.length_map]), List.mem_append,
    ← List.map_drop] at hmem
  rcases hmem with hold | hnew
  · obtain ⟨found, hfound, rfl⟩ := List.mem_map.mp hold
    exact .inl ⟨found.2, hfound, rfl⟩
  · obtain ⟨w, _, rfl⟩ := Option.map_eq_some_iff.mp (Option.mem_toList.mp hnew)
    exact .inr rfl

/-- While a request is not written, no reply is taken in at all: for that the connection has to be
online, and nothing waits then. -/
theorem unreplied_while_unsent (run : Run config history task) :
    ∀ loop, task = .running loop →
      ∀ g ∈ unsentRequests history, ∀ q ∈ g.2, q.reply? = none := by
  induction run with
  | start now => exact fun _ _ _ hg => absurd hg List.not_mem_nil
  | @react history r before ih =>
    intro next hnext g hg q hq
    rcases before.old_or_new_of_unsent hg with ⟨later, hold, hlater⟩ | hnew
    · rw [hlater, List.mem_append, List.mem_singleton] at hq
      rcases hq with hq | rfl
      · exact ih r.loop rfl _ hold q hq
      · rw [Reaction.reply?_eq_none]
        intro listening
        obtain ⟨phase, hphase⟩ := before.exists_phase q.loop rfl
        have hids := before.ids_unsent q.loop rfl
        rw [(hphase.online_of_listening listening).drained, List.filterMap_nil,
          List.map_eq_nil_iff] at hids
        exact absurd (hids ▸ hold) List.not_mem_nil
    · exact absurd (hnew ▸ hq) List.not_mem_nil

/-- Unless a reply was taken in, an identifier only comes again after a sweep took out who waited
under it. -/
theorem swept_of_reused (run : Run config history task) {w other : Waiter}
    {middle last : List Reaction} {q : Reaction}
    (waits : (w, middle ++ q :: last) ∈ withLater Reaction.registered? history)
    (asks : q.registered? = some other) (same : w.id = other.id)
    (unreplied : ∀ s ∈ middle, s.reply? = none) : ∃ s ∈ middle, w ∈ s.swept := by
  cases hfirst : middle.find? fun (s : Reaction) => (s.ending? w).isSome with
  | none =>
    -- The waiting would have gone on until the identifier was handed out again.
    obtain ⟨before, r, rfl, hregistered⟩ := mem_withLater.mp waits
    rw [← List.cons_append, ← List.append_assoc] at run
    have hbefore := run.before
    have hpending : w ∈ pending (before ++ r :: middle) := by
      refine mem_pending.mpr ⟨middle, mem_withLater.mpr ⟨before, r, rfl, hregistered⟩, ?_⟩
      intro s hs
      simpa using List.find?_eq_none.mp hfirst s hs
    rw [← hbefore.waiters_eq q.loop rfl] at hpending
    have hused : w.id ∈ q.loop.replies.ids := List.mem_map.mpr ⟨w, hpending, rfl⟩
    exact absurd (same ▸ hused) (Reaction.free_of_registered? asks)
  | some s =>
    obtain ⟨hends, first, rest, rfl, hnone⟩ := List.find?_eq_some_iff_append.mp hfirst
    have hs : s ∈ first ++ s :: rest := List.mem_append_right _ List.mem_cons_self
    have hswept : s.ending? w = some .swept :=
      Reaction.ending?_of_unreplied (unreplied s hs) (Option.isSome_iff_ne_none.mp hends)
    rw [List.append_assoc, List.cons_append] at waits
    refine ⟨s, hs, ((run.first_ending waits ?_).2 hswept).2⟩
    intro p hp
    simpa using hnone p hp

/-- Of two requests that were not written, under one identifier, the first one's recipient was swept
out before the second one came. -/
theorem pairwise_unsent {loop : Loop} (run : Run config history (.running loop)) :
    (unsentRequests history).Pairwise fun (g other : Waiter × List Reaction) =>
      g.1.id = other.1.id →
        ∃ middle q, g.2 = middle ++ q :: other.2 ∧ q.registered? = some other.1 ∧
          ∃ s ∈ middle, g.1 ∈ s.swept := by
  have hall := (@pairwise_withLater _ Reaction.registered? history).sublist
    (List.drop_sublist (requestsWritten history) _)
  refine hall.imp_of_mem ?_
  rintro ⟨w, later⟩ other hg _ ⟨middle, q, rfl, hasks⟩ hsame
  refine ⟨middle, q, rfl, hasks, run.swept_of_reused (List.mem_of_mem_drop hg) hasks hsame ?_⟩
  intro s hs
  exact run.unreplied_while_unsent loop rfl _ hg s (List.mem_append_left _ hs)

theorem nodup_waiting_of_unswept {loop : Loop} (run : Run config history (.running loop))
    (unswept : ∀ g ∈ unsentRequests history, ∀ s ∈ g.2, g.1 ∉ s.swept) :
    (loop.outbox.frames.filterMap OutgoingFrame.id?).Nodup := by
  rw [← run.ids_unsent loop rfl, List.Nodup, List.pairwise_map]
  refine run.pairwise_unsent.imp_of_mem ?_
  intro g other hg _ hreused hsame
  obtain ⟨middle, q, hlater, _, s, hs, hswept⟩ := hreused hsame
  exact unswept g hg s (hlater ▸ List.mem_append_left _ hs) hswept

theorem unswept_of_unlimited (run : Run config history task)
    (unlimited : config.replyLifetime = none)
    (present : ∀ r ∈ history, ∀ channel, r.gone channel = false) :
    ∀ r ∈ history, r.swept = [] := by
  intro r hr
  obtain ⟨first, hfirst⟩ := run.before_of_mem hr
  exact r.swept_eq_nil ((hfirst.lifetime_eq r.loop rfl).trans unlimited) (present r hr)

/-- What a new connection takes of the frames that waited, it takes from the front. -/
theorem flush_prefix {r : Reaction} (before : Run config history (.running r.loop))
    (handshake : r.Handshake) : eventFramesOf r.effects <+: r.loop.outbox.frames := by
  obtain ⟨_, budget, hevent⟩ := handshake
  obtain ⟨phase, hphase⟩ := before.exists_phase r.loop rfl
  have hbalance := r.reacts.frames_balance hphase
    (kind_of_waiting (before.offered_eq r.loop rfl))
  have hnone : r.loop.offersAt r.now r.event = [] := by rw [hevent]; rfl
  rw [hnone, List.map_nil, List.append_nil] at hbalance
  rw [eventFramesOf, r.framesOf_effects, ← eventFramesOf]
  exact ⟨_, hbalance.symm⟩

/-- The frames that wait carry the identifiers of the requests that were not written.  While a request
is not written no reply is taken in, so only a sweep ends the waiting of its recipient.  Two frames that
wait carry the same identifier only if a sweep took out the recipient of the first one before the
second one came.  As long as no sweep has taken out the recipient of a request that waits, the
identifiers in the outbox are all different, and so are those of one flush.  If replies may take forever
and nobody gives up waiting, there is no such sweep. -/
theorem waiting_ids_reused_after_sweep {loop : Loop}
    (run : Run config history (.running loop)) :
    ((unsentRequests history).map fun (g : Waiter × List Reaction) => g.1.id) =
        loop.outbox.frames.filterMap OutgoingFrame.id? ∧
      (∀ g ∈ unsentRequests history, ∀ q ∈ g.2,
        q.reply? = none ∧ (q.ending? g.1 = none ∨ q.ending? g.1 = some .swept)) ∧
      ((unsentRequests history).Pairwise fun (g other : Waiter × List Reaction) =>
        g.1.id = other.1.id →
          ∃ middle q, g.2 = middle ++ q :: other.2 ∧ q.registered? = some other.1 ∧
            ∃ s ∈ middle, g.1 ∈ s.swept) ∧
      ((∀ g ∈ unsentRequests history, ∀ s ∈ g.2, g.1 ∉ s.swept) →
        (loop.outbox.frames.filterMap OutgoingFrame.id?).Nodup ∧
          ∀ r : Reaction, r.loop = loop → r.Handshake →
            ((eventFramesOf r.effects).filterMap OutgoingFrame.id?).Nodup) ∧
      (config.replyLifetime = none →
        (∀ r ∈ history, ∀ channel, r.gone channel = false) →
          ∀ g ∈ unsentRequests history, ∀ s ∈ g.2, g.1 ∉ s.swept) := by
  refine ⟨run.ids_unsent loop rfl, ?_, run.pairwise_unsent, ?_, ?_⟩
  · intro g hg q hq
    have hunreplied := run.unreplied_while_unsent loop rfl g hg q hq
    exact ⟨hunreplied, or_iff_not_imp_left.mpr (Reaction.ending?_of_unreplied hunreplied)⟩
  · intro hunswept
    have hnodup := run.nodup_waiting_of_unswept hunswept
    refine ⟨hnodup, ?_⟩
    rintro r rfl hhandshake
    exact hnodup.sublist ((run.flush_prefix hhandshake).sublist.filterMap _)
  · intro hunlimited hpresent g hg s hs
    obtain ⟨before, r, rfl, _⟩ := mem_withLater.mp (List.mem_of_mem_drop hg)
    have hnobody := run.unswept_of_unlimited hunlimited hpresent s
      (List.mem_append_right _ (List.mem_cons_of_mem r hs))
    rw [hnobody]
    exact List.not_mem_nil

/-- While nobody is connected, the recipient of a request waits for too long, and another request gets
its identifier. -/
def sweptUnsent : List (Nat × LoopEvent) :=
  [(0, .command (.emit "x" none (some (.callback (.plain "first"))))), (10000000, .sweepDue),
    (10000000, .command (.emit "y" none (some (.callback (.plain "second")))))]

theorem waiting_ids_reused_after_sweptUnsent :
    ∃ loop, (hasty.replay sweptUnsent).2 = .running loop ∧
      loop.outbox.frames.filterMap OutgoingFrame.id? = ["a", "a"] ∧
      ((unsentRequests (hasty.replay sweptUnsent).1).map fun (g : Waiter × List Reaction) =>
        g.1.id) = loop.outbox.frames.filterMap OutgoingFrame.id? :=
  ⟨_, rfl, by decide +kernel,
    (waiting_ids_reused_after_sweep (hasty.run_replay sweptUnsent)).1⟩

/-- It is not true that frames that wait never share an identifier. -/
theorem not_waiting_ids_distinct :
    ¬ ∀ (config : LoopConfig) (history : List Reaction) (loop : Loop),
      Run config history (.running loop) →
        (loop.outbox.frames.filterMap OutgoingFrame.id?).Nodup := by
  intro h
  have hnodup := h hasty _ _ (hasty.run_replay sweptUnsent)
  exact absurd hnodup (by decide +kernel)

end Run

end EventLink
