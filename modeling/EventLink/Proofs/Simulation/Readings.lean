import EventLink.Proofs.Loop.Accounts
/-!
What the readings of a client say about its event loop.

A world records what the effects of its loop measure, and nothing else.  The readings of a client that
was started so add up: frames, messages, replies, connections and attempts are all accounted for, at
every point at which the loop waits for its next event.
-/
namespace EventLink

namespace World

variable (w : World)

theorem ledger_finish (channel : Nat) (result : ReplyShape → Except ClientError Json.Value) :
    (w.finish channel result).ledger = w.ledger := by
  unfold finish
  split <;> rfl

/-- An effect is recorded if it measures something. -/
theorem ledger_perform (effect : Effect) :
    (w.perform effect).ledger = w.ledger.recordAll effect.measurement?.toList := by
  cases effect with
  | replied channel data => exact w.ledger_finish channel _
  | abandoned channel => exact w.ledger_finish channel _
  | _ => rfl

theorem ledger_performAll (effects : List Effect) :
    (effects.foldl perform w).ledger = w.ledger.recordAll (measurementsOf effects) := by
  induction effects generalizing w with
  | nil => rfl
  | cons effect rest ih =>
    rw [List.foldl_cons, ih, ledger_perform, measurementsOf_cons, Ledger.recordAll_append]

theorem ledger_closeRequests : w.closeRequests.ledger = w.ledger := by
  unfold closeRequests
  generalize w.requests = requests
  induction requests generalizing w with
  | nil => rfl
  | cons request rest ih => rw [List.foldl_cons, ih, ledger_finish]

/-- What a reaction leads to is recorded as its effects measure it, also if the loop panics. -/
theorem ledger_accept (outcome : Outcome) :
    (w.accept outcome).ledger = w.ledger.recordAll (measurementsOf outcome.effects) := by
  unfold accept
  split
  · rw [ledger_closeRequests]
    exact ledger_performAll _ _
  · exact ledger_performAll _ _

end World

/-- A loop that was started has measured its first attempt and nothing else. -/
theorem Loop.measurementsOf_start {config : LoopConfig} {now : Nat} {first : Loop}
    (started : (Loop.start config now).task = .running first) :
    measurementsOf (Loop.start config now).effects = [.attempted] := by
  unfold start at started ⊢
  cases hinitial : initial? config now with
  | none => simp [hinitial] at started
  | some loop => rfl

/-- A message that was received is counted once, as an event or as a reply or as none of them. -/
theorem countP_receipts (measurements : List Measurement) :
    (measurements.countP fun (m : Measurement) => m.series.isEvents) +
        (measurements.countP fun (m : Measurement) => m.series.isReplies) +
        (measurements.countP fun (m : Measurement) => m.series = .framesMalformed) =
      measurements.countP fun (m : Measurement) => m.series.isReceipts := by
  induction measurements with
  | nil => rfl
  | cons m rest ih =>
    simp only [List.countP_cons, ← ih]
    cases m <;> simp [Measurement.series, Series.isReceipts, Series.isEvents, Series.isReplies] <;>
      omega

/-- The ledger of a client whose loop was started at a time and has been through the given reactions. -/
def ledgerAfter (config : LoopConfig) (now : Nat) (history : List Reaction) : Ledger :=
  Ledger.empty.recordAll
    (measurementsOf ((Loop.start config now).effects ++ history.flatMap Reaction.effects))

namespace Run

variable {config : LoopConfig} {history : List Reaction} {loop first : Loop} {now : Nat}

theorem ledgerAfter_eq (run : Run config history (.running loop))
    (started : (Loop.start config now).task = .running first) :
    ledgerAfter config now history =
      Ledger.empty.recordAll (.attempted :: history.flatMap Reaction.measured) := by
  rw [ledgerAfter, measurementsOf_append, Loop.measurementsOf_start started,
    run.measurementsOf_history]
  rfl

/-- A counter holds how often its series was measured since the start. -/
theorem count_ledgerAfter (run : Run config history (.running loop))
    (started : (Loop.start config now).task = .running first) {series : Series}
    (counter : series ≠ .linkStatus) :
    (ledgerAfter config now history).count series =
      (if series = .attempts then 1 else 0) +
        (history.flatMap Reaction.measured).countP fun (m : Measurement) => m.series = series := by
  have hempty : Ledger.empty.count series = 0 := rfl
  rw [run.ledgerAfter_eq started, Ledger.count_recordAll _ _ counter, hempty, List.countP_cons,
    Measurement.series_attempted]
  by_cases hsame : series = .attempts
  · simp [hsame, Int.add_comm]
  · simp [hsame, Ne.symm hsame]

/-- Counters that are not raised at the start hold together how often they were measured since. -/
theorem total_ledgerAfter (run : Run config history (.running loop))
    (started : (Loop.start config now).task = .running first) {among : Series → Bool}
    (counters : among .linkStatus = false) (apart : among .attempts = false) :
    (ledgerAfter config now history).total among =
      (history.flatMap Reaction.measured).countP fun (m : Measurement) => among m.series := by
  have hempty : Ledger.empty.total among = 0 := rfl
  rw [run.ledgerAfter_eq started, Ledger.total_recordAll _ _ counters, hempty, List.countP_cons,
    Measurement.series_attempted, apart]
  exact Int.zero_add _

theorem count_frames (run : Run config history (.running loop))
    (started : (Loop.start config now).task = .running first) (kind : FrameKind) :
    (ledgerAfter config now history).count (.framesSent kind) =
      (framesWritten history).countP fun (frame : OutgoingFrame) => frame.kind = kind := by
  rw [run.count_ledgerAfter started (by simp), countP_sent_history, if_neg (by simp), Int.zero_add]

/-- Every frame that was to be sent was sent, or it is kept. -/
theorem count_events (run : Run config history (.running loop))
    (started : (Loop.start config now).task = .running first) :
    (ledgerAfter config now history).count (.framesSent .event) + loop.outbox.size =
      (commandsTaken history).countP Command.isEmit +
        (ledgerAfter config now history).count .heartbeats := by
  have hbeats : (history.flatMap Reaction.measured).countP
      (fun (m : Measurement) => m.series = .heartbeats) = beatsIn history :=
    countP_measured_of_each history fun r => by rw [Reaction.countP_heartbeats]; simp
  have hoffered := run.length_framesOffered loop rfl
  rw [run.offered_eq loop rfl, List.length_append, eventsWritten_eq_filter,
    ← List.countP_eq_length_filter] at hoffered
  rw [run.count_frames started, run.count_ledgerAfter started (by simp), hbeats, if_neg (by simp),
    Outbox.size]
  omega

theorem count_receipts (run : Run config history (.running loop))
    (started : (Loop.start config now).task = .running first) :
    (ledgerAfter config now history).total Series.isEvents +
        (ledgerAfter config now history).total Series.isReplies +
        (ledgerAfter config now history).count .framesMalformed =
      history.countP fun (r : Reaction) => r.loop.listening && r.event.isData := by
  rw [run.total_ledgerAfter started rfl rfl, run.total_ledgerAfter started rfl rfl,
    run.count_ledgerAfter started (by simp), if_neg (by simp),
    ← countP_measured_of_each history fun r => Reaction.countP_receipts, ← countP_receipts]
  omega

theorem count_matches (run : Run config history (.running loop))
    (started : (Loop.start config now).task = .running first) :
    (ledgerAfter config now history).count (.repliesReceived true) =
      (settled history).countP fun (g : Waiter × Ending) => g.2.isAnswer := by
  rw [run.count_ledgerAfter started (by simp), ← run.measurementsOf_history, countP_isMatch,
    run.countP_settled, if_neg (by simp), Int.zero_add]

theorem count_opens (run : Run config history (.running loop))
    (started : (Loop.start config now).task = .running first) :
    (ledgerAfter config now history).count .opens = (changes history).count .opened := by
  rw [run.count_ledgerAfter started (by simp), countP_opens_history, if_neg (by simp), Int.zero_add]

/-- The series of the status is there once the status has changed. -/
theorem value?_linkStatus (run : Run config history (.running loop))
    (started : (Loop.start config now).task = .running first) :
    (ledgerAfter config now history).value? .linkStatus =
      if changes history = [] then none else some loop.status.gauge := by
  have hstatus := run.status_eq_last loop rfl
  have hstatuses : (Measurement.attempted :: history.flatMap Reaction.measured).filterMap
      Measurement.status? = (changes history).map LinkEvent.status := statuses_history history
  rw [run.ledgerAfter_eq started, Ledger.value?_linkStatus_recordAll, hstatuses,
    List.getLast?_map]
  cases hlast : (changes history).getLast? with
  | none =>
    rw [if_pos (List.getLast?_eq_none_iff.1 hlast)]
    rfl
  | some event =>
    have hchanged : changes history ≠ [] := by
      intro hnone
      rw [hnone] at hlast
      cases hlast
    rw [hlast] at hstatus
    rw [if_neg hchanged, hstatus]
    rfl

theorem count_attempts (run : Run config history (.running loop))
    (started : (Loop.start config now).task = .running first) :
    (ledgerAfter config now history).count .attempts =
      history.countP (fun (r : Reaction) => r.Handshake) +
        history.countP (fun (r : Reaction) => r.loop.attempting && r.event.isRefusal) +
        if loop.attempting then 1 else 0 := by
  have hattempts := run.attempts_balance loop rfl
  rw [run.count_ledgerAfter started (by simp),
    countP_measured_of_each history fun r => Reaction.countP_attempts]
  cases hattempting : loop.attempting <;> simp [hattempting] at hattempts ⊢ <;> omega

/-- A request waits while the first connection breaks before it is written and the second attempt
fails.  The third one comes about; the reply comes for a handler that panics, and once more for nobody,
news come in, and a message that is no text.  A heartbeat goes out, and then a frame cannot be
written. -/
def eventful : List (Nat × LoopEvent) :=
  [(0, .command (.emit "ask" none (some (.callback ⟨"asker", true, none, none⟩)))),
    (0, .command (.on "news" (.plain "reader"))), (1, .connected (some 0)), (2, .reconnectDue),
    (3, .connectFailed), (4, .reconnectDue), (5, .connected none),
    (6, .message (.text "\x7b\"id\":0\x7d")), (7, .message (.text "\x7b\"id\":0\x7d")),
    (8, .message (.text "\x7b\"event\":\"news\"\x7d")), (9, .message (.binary [255])),
    (10, .heartbeatDue), (11, .writeBudget (some 0)), (12, .command (.emit "late" none none)),
    (13, .reconnectDue)]

end Run

end EventLink
