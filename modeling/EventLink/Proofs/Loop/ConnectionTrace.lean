import EventLink.Proofs.Loop.FrameOrder
import EventLink.Proofs.Loop.Registration
/-!
What goes out on one connection.

A connection begins with the frames that waited and a subscription to every topic, and goes on with
what the client asks for while it is online.  It may break at any frame; what went out by then is the
front of what was due.
-/
namespace EventLink

/-- What is due in reaction to an event while the connection is online: the subscription that a
command asks for, or the frame that is to be sent. -/
def Loop.dueAt (loop : Loop) (now : Nat) (event : LoopEvent) : List OutgoingFrame :=
  if loop.status.isOnline then
    ((event.command?.bind Command.topic?).map OutgoingFrame.subscribe).toList ++
      (loop.offersAt now event).map Offer.frame
  else []

namespace Reaction

/-- What is due because of a reaction. -/
def due (r : Reaction) : List OutgoingFrame :=
  r.loop.dueAt r.now r.event

def written (r : Reaction) : List OutgoingFrame :=
  framesOf r.effects

end Reaction

def framesWritten (history : List Reaction) : List OutgoingFrame :=
  history.flatMap Reaction.written

@[simp]
theorem framesWritten_append (first later : List Reaction) :
    framesWritten (first ++ later) = framesWritten first ++ framesWritten later :=
  List.flatMap_append

@[simp]
theorem framesWritten_singleton (r : Reaction) : framesWritten [r] = r.written :=
  List.append_nil _

namespace Loop

variable {loop : Loop} {now : Nat} {gone : Nat → Bool} {event : LoopEvent} {verdict : Verdict}

theorem dueAt_of_online (online : loop.status = .online) :
    loop.dueAt now event =
      ((event.command?.bind Command.topic?).map OutgoingFrame.subscribe).toList ++
        (loop.offersAt now event).map Offer.frame := by
  rw [dueAt, if_pos (LinkStatus.isOnline_eq_true.mpr online)]

theorem dueAt_of_offline (offline : loop.status = .offline) : loop.dueAt now event = [] := by
  rw [dueAt, if_neg (LinkStatus.not_isOnline.mpr offline)]

theorem dueAt_eq_nil (unregistered : event.command?.bind Command.topic? = none)
    (unoffered : loop.offersAt now event = []) : loop.dueAt now event = [] := by
  unfold dueAt
  split
  · rw [unregistered, unoffered]
    rfl
  · rfl

theorem Offers.dueAt {ready : Loop} {frame : OutgoingFrame} {effects : List Effect}
    (offers : loop.Offers now event ready frame effects) (online : loop.status = .online) :
    loop.dueAt now event = [frame] := by
  rw [dueAt_of_online online, offers.topic?, offers.offersAt]
  rfl

/-- The opening sequence writes the front of the frames that waited and of the subscriptions, and all
of them if the loop goes on without a loss. -/
theorem Reacts.opening {budget : Option Nat} (h : loop.Reacts now gone (.connected budget) verdict)
    (attempting : loop.attempting = true) :
    framesOf verdict.effects <+: loop.outbox.frames ++ loop.subscribeFrames ∧
      ∀ turn, verdict = .stays turn →
        framesOf verdict.effects = loop.outbox.frames ++ loop.subscribeFrames := by
  cases h with
  | passed impossible => exact absurd (attempting.symm.trans impossible) (by decide)
  | flushCut _ _ writer sent unsent split left =>
    rw [Verdict.effects, framesOf_writes, ← split, List.append_assoc]
    exact ⟨List.prefix_append _ _, by simp⟩
  | replayCut _ _ writer sent missing split left =>
    rw [Verdict.effects, framesOf_writes, ← split, ← List.append_assoc]
    exact ⟨List.prefix_append _ _, by simp⟩
  | opened _ _ writer started heartbeat beats =>
    have hwritten : framesOf ((loop.outbox.frames ++ loop.subscribeFrames).flatMap Effect.ofWrite ++
        loop.openingEffects) = loop.outbox.frames ++ loop.subscribeFrames := by
      rw [framesOf_append, framesOf_writes, framesOf_openingEffects, List.append_nil]
    rw [Verdict.effects, hwritten]
    exact ⟨List.prefix_rfl, fun _ _ => rfl⟩
  | overflowed _ _ beyond =>
    rw [Verdict.effects, framesOf_append, framesOf_writes, framesOf_append,
      framesOf_openingEffects]
    exact ⟨by simp, by simp⟩
  | buffered offers => cases offers
  | sent offers => cases offers
  | unsent offers => cases offers

/-- Any other reaction writes the front of what is due, and all of it if the connection is online
afterwards, which it was before. -/
theorem Reacts.due (h : loop.Reacts now gone event verdict)
    (plain : ¬ (loop.attempting = true ∧ ∃ budget, event = .connected budget)) :
    framesOf verdict.effects <+: loop.dueAt now event ∧
      ∀ turn, verdict = .stays turn → turn.loop.status = .online →
        loop.status = .online ∧ framesOf verdict.effects = loop.dueAt now event := by
  -- A reaction that writes nothing is covered once nothing was due.
  have hsilent {turn : Turn} (hwritten : framesOf turn.effects = [])
      (hdue : turn.loop.status = .online → loop.dueAt now event = [])
      (hstatus : turn.loop.status = loop.status) :
      framesOf turn.effects <+: loop.dueAt now event ∧
        ∀ other, Verdict.stays turn = .stays other → other.loop.status = .online →
          loop.status = .online ∧ framesOf turn.effects = loop.dueAt now event := by
    rw [hwritten]
    refine ⟨List.nil_prefix, ?_⟩
    intro other hother honline
    obtain rfl := Verdict.stays.inj hother
    exact ⟨hstatus ▸ honline, (hdue honline).symm⟩
  cases h with
  | passed impossible =>
    exact hsilent rfl (fun _ => dueAt_eq_nil impossible.topic? impossible.offersAt) rfl
  | noted topic handler offline =>
    exact hsilent rfl (fun _ => dueAt_of_offline offline) rfl
  | announced topic handler writer online =>
    rw [dueAt_of_online online]
    exact ⟨List.prefix_rfl, fun _ _ _ => ⟨online, rfl⟩⟩
  | watched link call =>
    exact hsilent (framesOf_ofCalls _) (fun _ => dueAt_eq_nil rfl rfl) rfl
  | buffered offers offline =>
    obtain ⟨replies, heartbeat, _, rfl⟩ := offers.ready_eq
    refine hsilent ?_ (fun _ => dueAt_of_offline offline) rfl
    rw [framesOf_append, offers.framesOf]
    rfl
  | sent offers writer online =>
    rw [offers.dueAt online, Verdict.effects, framesOf_append, offers.framesOf]
    exact ⟨List.prefix_rfl, fun _ _ _ => ⟨online, rfl⟩⟩
  | unsent offers online =>
    rw [Verdict.effects, offers.framesOf]
    exact ⟨List.nil_prefix, by simp⟩
  | received listening carries =>
    rename_i message frame
    refine hsilent (framesOf_deliver loop frame) (fun _ => dueAt_eq_nil rfl rfl) ?_
    cases frame <;> rfl
  | swept => exact hsilent (framesOf_ofSwept _) (fun _ => dueAt_eq_nil rfl rfl) rfl
  | summarized => exact hsilent rfl (fun _ => dueAt_eq_nil rfl rfl) rfl
  | discarded => exact hsilent rfl (fun _ => dueAt_eq_nil rfl rfl) rfl
  | ignored => exact hsilent rfl (fun _ => dueAt_eq_nil rfl rfl) rfl
  | retried => exact hsilent rfl (fun _ => dueAt_eq_nil rfl rfl) rfl
  | budgeted => exact hsilent rfl (fun _ => dueAt_eq_nil rfl rfl) rfl
  | stopped =>
    refine ⟨?_, by simp [stop]⟩
    rw [framesOf_stop]
    exact List.nil_prefix
  | flushCut budget attempting => exact absurd ⟨attempting, budget, rfl⟩ plain
  | replayCut budget attempting => exact absurd ⟨attempting, budget, rfl⟩ plain
  | opened budget attempting => exact absurd ⟨attempting, budget, rfl⟩ plain
  | overflowed budget attempting => exact absurd ⟨attempting, budget, rfl⟩ plain
  | _ => exact ⟨List.nil_prefix, by simp⟩

end Loop

namespace Reaction

variable {r : Reaction}

/-- What a new connection begins with. -/
def opening (r : Reaction) : List OutgoingFrame :=
  r.loop.outbox.frames ++ r.loop.subscribeFrames

theorem Handshake.written_front (h : r.Handshake) : r.written <+: r.opening := by
  obtain ⟨attempting, budget, hevent⟩ := h
  rw [written, framesOf_effects]
  exact ((hevent ▸ r.reacts).opening attempting).1

theorem Handshake.written_eq (h : r.Handshake) {turn : Turn} (hturn : r.verdict = .stays turn) :
    r.written = r.opening := by
  obtain ⟨attempting, budget, hevent⟩ := h
  rw [written, framesOf_effects]
  exact ((hevent ▸ r.reacts).opening attempting).2 turn hturn

theorem written_prefix_due (plain : ¬ r.Handshake) : r.written <+: r.due := by
  rw [written, framesOf_effects]
  exact (r.reacts.due plain).1

theorem written_eq_due (plain : ¬ r.Handshake) {turn : Turn} (hturn : r.verdict = .stays turn)
    (online : turn.loop.status = .online) : r.loop.status = .online ∧ r.written = r.due := by
  rw [written, framesOf_effects]
  exact (r.reacts.due plain).2 turn hturn online

end Reaction

namespace Run

variable {config : LoopConfig} {task : Task}

/-- Between a handshake and the next one, the front of what was due is written; all of it, as long as
the connection is online. -/
theorem written_since_handshake {before after : List Reaction} {r : Reaction}
    (run : Run config (before ++ r :: after) task) (handshake : r.Handshake)
    (same : ∀ q ∈ after, ¬ q.Handshake) :
    framesWritten (r :: after) <+: r.opening ++ after.flatMap Reaction.due ∧
      ∀ loop, task = .running loop → loop.status = .online →
        framesWritten (r :: after) = r.opening ++ after.flatMap Reaction.due := by
  -- By induction on the reactions since the handshake, the latest first: as long as the connection was
  -- online before it, nothing that was due is missing.
  induction after using List.reverseRecOn generalizing task with
  | nil =>
    obtain ⟨hbefore, htask⟩ := run.of_snoc
    rw [framesWritten_singleton, List.flatMap_nil, List.append_nil]
    refine ⟨handshake.written_front, ?_⟩
    intro loop hloop online
    obtain ⟨turn, hturn, _⟩ := hbefore.stays_of_online (htask.symm.trans hloop) online
    exact handshake.written_eq hturn
  | append_singleton after q ih =>
    rw [List.forall_mem_append, List.forall_mem_singleton] at same
    rw [← List.cons_append, ← List.append_assoc] at run
    obtain ⟨hbefore, htask⟩ := run.of_snoc
    obtain ⟨hfront, hequal⟩ := ih hbefore same.1
    rw [← List.cons_append, framesWritten_append, framesWritten_singleton, List.flatMap_append,
      List.flatMap_singleton, ← List.append_assoc]
    refine ⟨?_, ?_⟩
    · cases hstatus : q.loop.status with
      | online =>
        rw [hequal q.loop rfl hstatus]
        exact (List.prefix_append_right_inj _).mpr (Reaction.written_prefix_due same.2)
      | offline =>
        have hdue : q.due = [] := Loop.dueAt_of_offline hstatus
        have hwritten := Reaction.written_prefix_due same.2
        rw [hdue, List.prefix_nil] at hwritten
        rw [hwritten, hdue, List.append_nil, List.append_nil]
        exact hfront
    · intro loop hloop online
      obtain ⟨turn, hturn, rfl⟩ := hbefore.stays_of_online (htask.symm.trans hloop) online
      obtain ⟨honline, hwritten⟩ := Reaction.written_eq_due same.2 hturn online
      rw [hequal q.loop rfl honline, hwritten]

/-- A connection that is online began with a handshake and has been online ever since. -/
theorem exists_handshake {history : List Reaction} (run : Run config history task) :
    ∀ loop, task = .running loop → loop.status = .online →
      ∃ before r after, history = before ++ r :: after ∧ r.Handshake ∧
        ∀ q ∈ after, ¬ q.Handshake ∧ q.loop.status = .online := by
  induction run with
  | start now =>
    intro loop hloop online
    obtain ⟨sweep, rfl⟩ := Loop.start_running hloop
    exact absurd online (by simp)
  | @react history q hbefore ih =>
    intro loop hloop online
    by_cases hhandshake : q.Handshake
    · exact ⟨history, q, [], rfl, hhandshake, List.forall_mem_nil _⟩
    obtain ⟨turn, hturn, rfl⟩ := hbefore.stays_of_online hloop online
    have honline := (Reaction.written_eq_due hhandshake hturn online).1
    obtain ⟨before, r, after, rfl, hr, hafter⟩ := ih q.loop rfl honline
    refine ⟨before, r, after ++ [q], by simp, hr, ?_⟩
    rw [List.forall_mem_append, List.forall_mem_singleton]
    exact ⟨hafter, hhandshake, honline⟩

theorem opening_eq {history : List Reaction} {r : Reaction}
    (run : Run config history (.running r.loop)) :
    r.opening =
      r.loop.outbox.frames ++ (topicsRegistered history).eraseDups.map OutgoingFrame.subscribe := by
  rw [Reaction.opening, Loop.subscribeFrames, run.topics r.loop rfl]

/-- A subscription that is written is one to a topic that was registered. -/
theorem registered_of_written {history : List Reaction} (run : Run config history task)
    {topic : String} (h : .subscribe topic ∈ framesWritten history) :
    topic ∈ topicsRegistered history := by
  obtain ⟨r, hr, hwritten⟩ := List.mem_flatMap.mp h
  obtain ⟨before, after, rfl⟩ := List.append_of_mem hr
  have hbefore := run.before
  have hkind {frames : List OutgoingFrame} (events : ∀ frame ∈ frames, frame.kind = .event) :
      .subscribe topic ∉ frames := by
    intro hmem
    exact absurd (events _ hmem) (by simp [OutgoingFrame.kind])
  rw [topicsRegistered_append]
  by_cases hhandshake : r.Handshake
  · have hopening := hhandshake.written_front.subset hwritten
    rw [hbefore.opening_eq, List.mem_append] at hopening
    rcases hopening with hwaiting | hsubscribed
    · exact absurd hwaiting (hkind (kind_of_waiting (hbefore.offered_eq r.loop rfl)))
    · obtain ⟨known, hknown, hsame⟩ := List.mem_map.mp hsubscribed
      obtain rfl := OutgoingFrame.subscribe.inj hsame
      exact List.mem_append_left _ (List.mem_eraseDups.mp hknown)
  · have hdue := (Reaction.written_prefix_due hhandshake).subset hwritten
    rw [Reaction.due, Loop.dueAt] at hdue
    split at hdue
    · rcases List.mem_append.mp hdue with hsubscribed | hoffered
      · obtain ⟨known, hknown, hsame⟩ :=
          Option.map_eq_some_iff.mp (Option.mem_toList.mp hsubscribed)
        obtain rfl := OutgoingFrame.subscribe.inj hsame
        have hregistered : known ∈ topicsRegistered (r :: after) :=
          List.mem_filterMap.mpr ⟨r, List.mem_cons_self, hknown⟩
        exact List.mem_append_right _ hregistered
      · obtain ⟨offer, hoffer, hsame⟩ := List.mem_map.mp hoffered
        have hevent := Loop.kind_of_offersAt hoffer
        rw [hsame] at hevent
        exact absurd hevent (by simp [OutgoingFrame.kind])
    · exact absurd hdue List.not_mem_nil

/-- While a connection is online, every topic ever registered has been subscribed to on it. -/
theorem subscribed_of_online {before after : List Reaction} {r : Reaction} {loop : Loop}
    (run : Run config (before ++ r :: after) (.running loop)) (handshake : r.Handshake)
    (same : ∀ q ∈ after, ¬ q.Handshake ∧ q.loop.status = .online) (online : loop.status = .online)
    {topic : String} (h : topic ∈ topicsRegistered (before ++ r :: after)) :
    .subscribe topic ∈ framesWritten (r :: after) := by
  rw [(run.written_since_handshake handshake fun q hq => (same q hq).1).2 loop rfl online,
    run.before.opening_eq]
  rw [topicsRegistered_append] at h
  rcases List.mem_append.mp h with hbefore | hlater
  · refine List.mem_append_left _ (List.mem_append_right _ (List.mem_map.mpr ⟨topic, ?_, rfl⟩))
    exact List.mem_eraseDups.mpr hbefore
  · obtain ⟨q, hq, htopic⟩ := List.mem_filterMap.mp hlater
    rcases List.mem_cons.mp hq with rfl | hq
    · obtain ⟨_, budget, hevent⟩ := handshake
      rw [Reaction.topic?, hevent] at htopic
      exact absurd htopic (by simp [LoopEvent.command?])
    · refine List.mem_append_right _ (List.mem_flatMap.mpr ⟨q, hq, ?_⟩)
      rw [Reaction.due, Loop.dueAt_of_online (same q hq).2]
      refine List.mem_append_left _ ?_
      change .subscribe topic ∈ (q.topic?.map OutgoingFrame.subscribe).toList
      rw [htopic]
      exact List.mem_singleton_self _

/-- The trace of every connection has the prescribed shape.  What goes out between a handshake and the
next one is the front of the frames that waited, one subscription to each topic in the order of
registration, and what became due while the connection was online.  The loop gets online by a
handshake after which the first two parts have gone out.  So while it is online, it has subscribed to
every topic on this connection.  No handle can make it subscribe to a reserved name. -/
theorem connection_trace {history : List Reaction} (run : Run config history task) :
    (∀ before r after later, history = before ++ r :: (after ++ later) → r.Handshake →
      (∀ q ∈ after, ¬ q.Handshake) →
        framesWritten (r :: after) <+:
          r.loop.outbox.frames ++
            (topicsRegistered before).eraseDups.map OutgoingFrame.subscribe ++
              after.flatMap Reaction.due) ∧
      (∀ before r later, history = before ++ r :: later → r.loop.status = .offline →
        ∀ loop, r.outcome.task = .running loop → loop.status = .online →
          r.Handshake ∧
            r.written =
              r.loop.outbox.frames ++
                (topicsRegistered before).eraseDups.map OutgoingFrame.subscribe) ∧
      (∀ loop, task = .running loop → loop.status = .online →
        ∃ before r after, history = before ++ r :: after ∧ r.Handshake ∧
          (∀ q ∈ after, ¬ q.Handshake) ∧
          framesWritten (r :: after) =
            r.loop.outbox.frames ++
              (topicsRegistered before).eraseDups.map OutgoingFrame.subscribe ++
                after.flatMap Reaction.due ∧
          ∀ topic ∈ topicsRegistered history, .subscribe topic ∈ framesWritten (r :: after)) ∧
      ((∀ command ∈ commandsTaken history, command.FromHandle) →
        ∀ event : LinkEvent, .subscribe event.reservedName ∉ framesWritten history) := by
  refine ⟨?_, ?_, ?_, ?_⟩
  · intro before r after later hhistory handshake same
    rw [hhistory, ← List.cons_append, ← List.append_assoc] at run
    obtain ⟨_, hrun⟩ := run.of_append
    rw [← hrun.before.opening_eq]
    exact (hrun.written_since_handshake handshake same).1
  · intro before r later hhistory offline loop hloop online
    rw [hhistory] at run
    have hbefore := run.before
    obtain ⟨turn, hturn, rfl⟩ := hbefore.stays_of_online hloop online
    have handshake : r.Handshake := by
      by_contra plain
      have honline := (Reaction.written_eq_due plain hturn online).1
      exact absurd (offline.symm.trans honline) (by decide)
    rw [← hbefore.opening_eq]
    exact ⟨handshake, handshake.written_eq hturn⟩
  · intro loop hloop online
    obtain ⟨before, r, after, rfl, handshake, same⟩ := run.exists_handshake loop hloop online
    have hafter : ∀ q ∈ after, ¬ q.Handshake := fun q hq => (same q hq).1
    refine ⟨before, r, after, rfl, handshake, hafter, ?_, ?_⟩
    · rw [← run.before.opening_eq]
      exact (run.written_since_handshake handshake hafter).2 loop hloop online
    · intro topic htopic
      rw [hloop] at run
      exact run.subscribed_of_online handshake same online htopic
  · intro handles event hwritten
    obtain ⟨r, hr, htopic⟩ := List.mem_filterMap.mp (run.registered_of_written hwritten)
    obtain ⟨command, hcommand, hreserved⟩ := Option.bind_eq_some_iff.mp htopic
    have htaken : command ∈ commandsTaken history := List.mem_filterMap.mpr ⟨r, hr, hcommand⟩
    exact (handles command htaken).unreserved event hreserved

/-- A connection breaks after the frame that waited and before the subscription, and the same topic is
subscribed to again on the next one. -/
def brokenReplay : List (Nat × LoopEvent) :=
  [(0, .command (.on "news" (.plain "first"))), (0, .command (.emit "hello" none none)),
    (0, .connected (some 1)), (5, .reconnectDue), (7, .connected none),
    (8, .command (.on "news" (.plain "second")))]

theorem connection_trace_after_brokenReplay :
    ∃ before r q, (LoopConfig.standard.replay brokenReplay).1 = before ++ [r, q] ∧ r.Handshake ∧
      framesWritten [r, q] = [.subscribe "news", .subscribe "news"] ∧
      framesWritten [r, q] <+:
        r.loop.outbox.frames ++ (topicsRegistered before).eraseDups.map OutgoingFrame.subscribe ++
          [q].flatMap Reaction.due := by
  obtain ⟨a, b, c, d, r, q, hhistory, attempting, hevent, hlast, hwritten⟩ : ∃ a b c d r q,
      (LoopConfig.standard.replay brokenReplay).1 = [a, b, c, d] ++ [r, q] ∧
        r.loop.attempting = true ∧ r.event = .connected none ∧
        q.event = .command (.on "news" (.plain "second")) ∧
        framesWritten [r, q] = [.subscribe "news", .subscribe "news"] :=
    ⟨_, _, _, _, _, _, rfl, rfl, rfl, rfl, rfl⟩
  have handshake : r.Handshake := ⟨attempting, none, hevent⟩
  have same : ∀ p ∈ [q], ¬ p.Handshake := by
    rw [List.forall_mem_singleton]
    rintro ⟨_, budget, hconnected⟩
    exact absurd (hlast.symm.trans hconnected) (by simp)
  have htrace := (LoopConfig.standard.run_replay brokenReplay).connection_trace.1
    [a, b, c, d] r [q] [] hhistory handshake same
  exact ⟨_, r, q, hhistory, handshake, hwritten, htrace⟩

end Run

end EventLink
