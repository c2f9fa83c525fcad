import EventLink.Proofs.Loop.ConnectionTrace
import EventLink.Proofs.Loop.Fate
import EventLink.Proofs.Loop.Heartbeats
import EventLink.Proofs.Loop.Measurements
import EventLink.Proofs.Loop.Retries
import EventLink.Proofs.Telemetry.Ledger
/-!
The ledger of a run.

Every measurement has its stage within a reaction, so that one counter is raised in one place only.
What a counter holds is then a number of reactions, or of frames, or of changes of the status, and the
counters add up whatever breaks off in a reaction.
-/
namespace EventLink

/-- Where in a reaction something is measured: at its event, behind a frame that was written, where a
frame is kept, or at a change of the status. -/
inductive Stage where
  | event
  | writing
  | keeping
  | change
  deriving DecidableEq

namespace Series

/-- The stage at which a series is measured. -/
def stage : Series → Stage
  | framesSent _ => .writing
  | framesBuffered => .keeping
  | linkStatus => .change
  | opens => .change
  | _ => .event

def isEvents : Series → Bool
  | eventsReceived _ _ => true
  | _ => false

def isReplies : Series → Bool
  | repliesReceived _ => true
  | _ => false

def isReceipts (series : Series) : Bool :=
  series.isEvents || series.isReplies || series = .framesMalformed

theorem stage_of_isReceipts {series : Series} (h : series.isReceipts = true) :
    series.stage = .event := by
  cases series <;> first | rfl | cases h

end Series

/-- Whether a command asks for a frame to be sent. -/
def Command.isEmit : Command → Bool
  | emit _ _ _ => true
  | _ => false

def LinkEvent.status : LinkEvent → LinkStatus
  | .opened => .online
  | .closed => .offline

/-- Whether an event is a message that may carry a frame. -/
def LoopEvent.isData : LoopEvent → Bool
  | .message incoming => incoming.isData
  | _ => false

def LoopEvent.isRetry : LoopEvent → Bool
  | .reconnectDue => true
  | _ => false

def LoopEvent.frame? : LoopEvent → Option IncomingFrame
  | .message incoming => incoming.frame?
  | _ => none

@[simp]
theorem Measurement.series_heartbeat : Measurement.heartbeat.series = .heartbeats := rfl

@[simp]
theorem Measurement.series_attempted : Measurement.attempted.series = .attempts := rfl

namespace Loop

variable {loop : Loop} {event : LoopEvent} {m : Measurement}

theorem isReceipts_measurementFor (frame : Option IncomingFrame) :
    (loop.measurementFor frame).series.isReceipts = true := by
  cases frame with
  | none => rfl
  | some frame => cases frame <;> rfl

theorem series_measurementFor_ne (series : Series) (other : series.isReceipts = false)
    (frame : Option IncomingFrame) : (loop.measurementFor frame).series ≠ series := by
  rintro rfl
  exact absurd ((isReceipts_measurementFor frame).symm.trans other) (by decide)

/-- At its event a reaction measures at most one of three things. -/
theorem measuredAt_eq :
    loop.measuredAt event =
      (if event.isTick && loop.heartbeat.isRunning then [.heartbeat] else []) ++
        (if event.isRetry && loop.reconnect.isSome then [.attempted] else []) ++
        (if loop.listening && event.isData then [loop.measurementFor event.frame?] else []) := by
  cases event <;> simp [measuredAt, LoopEvent.isTick, LoopEvent.isRetry, LoopEvent.isData,
    LoopEvent.frame?]

theorem stage_of_mem_measuredAt (h : m ∈ loop.measuredAt event) : m.series.stage = .event := by
  simp only [measuredAt_eq, List.mem_append, List.mem_ite_nil_right, List.mem_singleton] at h
  rcases h with (⟨_, rfl⟩ | ⟨_, rfl⟩) | ⟨_, rfl⟩
  · rfl
  · rfl
  · exact Series.stage_of_isReceipts (isReceipts_measurementFor _)

/-- A part of what a reaction measures, if it is measured, is counted if its series is. -/
theorem countP_ite (p : Measurement → Bool) (measured : Bool) (m : Measurement) :
    (if measured then [m] else []).countP p = if measured && p m then 1 else 0 := by
  cases measured <;> cases hcounted : p m <;> simp [hcounted]

theorem countP_measuredAt (p : Measurement → Bool) :
    (loop.measuredAt event).countP p =
      (if event.isTick && loop.heartbeat.isRunning && p .heartbeat then 1 else 0) +
        (if event.isRetry && loop.reconnect.isSome && p .attempted then 1 else 0) +
        (if loop.listening && event.isData && p (loop.measurementFor event.frame?) then 1
          else 0) := by
  rw [measuredAt_eq, List.countP_append, List.countP_append, countP_ite, countP_ite, countP_ite]

theorem eq_of_mem_keptAt {now : Nat} (h : m ∈ loop.keptAt now event) : m = .buffered := by
  unfold keptAt at h
  split at h
  · exact absurd h List.not_mem_nil
  · obtain ⟨_, _, rfl⟩ := List.mem_map.1 h
    rfl

end Loop

namespace Reaction

variable {r : Reaction} {phase : Phase} {m : Measurement}

/-- What a reaction measures at each of its stages. -/
def measuredIn (r : Reaction) : Stage → List Measurement
  | .event => r.loop.measuredAt r.event
  | .writing => r.written.map OutgoingFrame.measurement
  | .keeping => r.loop.keptAt r.now r.event
  | .change => (r.change?.map LinkEvent.measurements).getD []

def measured (r : Reaction) : List Measurement :=
  r.measuredIn .event ++ r.measuredIn .writing ++ r.measuredIn .keeping ++ r.measuredIn .change

theorem measurementsOf_effects (hphase : r.loop.IsIn phase) :
    measurementsOf r.effects = r.measured := by
  have hwritten : r.written = framesOf r.verdict.effects := r.framesOf_effects
  rw [measured, measuredIn, measuredIn, measuredIn, measuredIn, hwritten]
  exact r.reacts.measurements hphase

theorem stage_of_mem {stage : Stage} (h : m ∈ r.measuredIn stage) : m.series.stage = stage := by
  cases stage with
  | event => exact Loop.stage_of_mem_measuredAt h
  | writing =>
    obtain ⟨frame, _, rfl⟩ := List.mem_map.1 h
    rfl
  | keeping =>
    obtain rfl := Loop.eq_of_mem_keptAt h
    rfl
  | change =>
    rw [measuredIn] at h
    cases hchange : r.change? with
    | none => simp [hchange] at h
    | some event =>
      rw [hchange] at h
      cases event <;> simp [LinkEvent.measurements] at h <;> rcases h with rfl | rfl <;> rfl

/-- What is measured at one stage is counted there. -/
theorem countP_measured {p : Series → Bool} (stage : Stage)
    (within : ∀ series, p series = true → series.stage = stage) :
    (r.measured.countP fun (m : Measurement) => p m.series) =
      (r.measuredIn stage).countP fun (m : Measurement) => p m.series := by
  have elsewhere (other : Stage) (different : other ≠ stage) :
      ((r.measuredIn other).countP fun (m : Measurement) => p m.series) = 0 := by
    rw [List.countP_eq_zero]
    intro m hm counted
    exact different ((stage_of_mem hm).symm.trans (within _ counted))
  simp only [measured, List.countP_append]
  cases stage <;> simp [elsewhere]

theorem countP_sent (r : Reaction) (kind : FrameKind) :
    (r.measured.countP fun (m : Measurement) => m.series = .framesSent kind) =
      r.written.countP fun (frame : OutgoingFrame) => frame.kind = kind := by
  rw [countP_measured (p := fun series => series = .framesSent kind) .writing
    (by simp [Series.stage]), measuredIn, List.countP_map]
  congr 1
  funext frame
  simp [OutgoingFrame.measurement, Measurement.series]

theorem countP_heartbeats :
    (r.measured.countP fun (m : Measurement) => m.series = .heartbeats) =
      if r.Beats then 1 else 0 := by
  rw [countP_measured (p := fun series => series = .heartbeats) .event
    (by simp [Series.stage]), measuredIn, Loop.countP_measuredAt]
  simp [beats_iff, Loop.series_measurementFor_ne .heartbeats rfl]

theorem countP_attempts :
    (r.measured.countP fun (m : Measurement) => m.series = .attempts) =
      if r.event.isRetry && r.loop.reconnect.isSome then 1 else 0 := by
  rw [countP_measured (p := fun series => series = .attempts) .event
    (by simp [Series.stage]), measuredIn, Loop.countP_measuredAt]
  simp [Loop.series_measurementFor_ne .attempts rfl]

theorem countP_receipts :
    (r.measured.countP fun (m : Measurement) => m.series.isReceipts) =
      if r.loop.listening && r.event.isData then 1 else 0 := by
  rw [countP_measured .event fun _ => Series.stage_of_isReceipts, measuredIn,
    Loop.countP_measuredAt]
  have hbeat : Series.heartbeats.isReceipts = false := rfl
  have hattempt : Series.attempts.isReceipts = false := rfl
  simp [hbeat, hattempt, Loop.isReceipts_measurementFor]

theorem countP_opens (r : Reaction) :
    (r.measured.countP fun (m : Measurement) => m.series = .opens) =
      r.change?.toList.count .opened := by
  rw [countP_measured (p := fun series => series = .opens) .change
    (by simp [Series.stage]), measuredIn]
  cases r.change? with
  | none => rfl
  | some event => cases event <;> rfl

/-- The status is measured at its changes. -/
theorem statuses_measured (r : Reaction) :
    r.measured.filterMap Measurement.status? = r.change?.toList.map LinkEvent.status := by
  have elsewhere (other : Stage) (different : other ≠ .change) :
      (r.measuredIn other).filterMap Measurement.status? = [] := by
    rw [List.filterMap_eq_nil_iff]
    intro m hm
    refine Measurement.status?_of_counter ?_
    intro hstatus
    have hstage := stage_of_mem hm
    rw [hstatus] at hstage
    exact different hstage.symm
  simp only [measured, List.filterMap_append, elsewhere .event (by decide),
    elsewhere .writing (by decide), elsewhere .keeping (by decide), List.nil_append]
  rw [measuredIn]
  cases r.change? with
  | none => rfl
  | some event => cases event <;> rfl

/-- What a reaction answers is counted as a reply that somebody waited for. -/
theorem countP_answered (distinct : r.loop.replies.Distinct) :
    (r.ended.countP fun (g : Waiter × Ending) => g.2.isAnswer) =
      r.effects.countP Effect.isMatch := by
  have hlength := length_ended distinct
  rcases r.reply_or_sweep_or_other with ⟨id, data, hreply, hother⟩ | ⟨hreply, hsweep⟩ |
    ⟨hreply, hother⟩
  · rw [swept_of_ne hother, List.length_nil, Nat.add_zero] at hlength
    rw [← hlength, List.countP_eq_length, ended_of_reply hreply]
    intro g hg
    obtain ⟨w, _, rfl⟩ := List.mem_map.1 hg
    rfl
  · rw [ended_of_sweep hreply hsweep, List.length_map] at hlength
    have hunanswered : r.effects.countP Effect.isMatch = 0 := by omega
    rw [hunanswered, List.countP_eq_zero, ended_of_sweep hreply hsweep]
    intro g hg
    obtain ⟨w, _, rfl⟩ := List.mem_map.1 hg
    exact Bool.false_ne_true
  · rw [ended_of_other hreply hother, List.length_nil] at hlength
    rw [ended_of_other hreply hother, List.countP_nil]
    omega

/-- A reaction after which the loop goes on has a frame to send for every command that asks for it and
for every heartbeat. -/
theorem length_offered {next : Loop} (h : r.outcome.task = .running next) :
    r.offered.length =
      (r.event.command?.toList.countP Command.isEmit) + if r.Beats then 1 else 0 := by
  rw [offered, List.length_map, offers]
  simp only [beats_iff]
  cases hevent : r.event with
  | command command =>
    cases command with
    | emit topic data recipient =>
      cases recipient with
      | none => rfl
      | some recipient =>
        cases hexpect : r.loop.replies.expect r.now recipient with
        | some found =>
          simp [Loop.offersAt, hexpect, LoopEvent.command?, Command.isEmit, LoopEvent.isTick]
        | none =>
          have hspins : r.verdict = .spins := by
            simp only [verdict, hevent, Loop.react, Loop.obey, hexpect]
          rw [outcome_eq, hspins] at h
          cases h
    | _ => rfl
  | heartbeatDue =>
    cases hrunning : r.loop.heartbeat.isRunning <;>
      simp [Loop.offersAt, hrunning, LoopEvent.command?, LoopEvent.isTick]
  | _ => rfl

end Reaction

namespace Loop

variable {loop : Loop} {now : Nat} {gone : Nat → Bool} {event : LoopEvent} {turn : Turn}

/-- Whether an attempt is under way after an event. -/
def attemptingAt (loop : Loop) : LoopEvent → Bool
  | .connected _ => false
  | .connectFailed => false
  | .reconnectDue => loop.attempting || loop.reconnect.isSome
  | _ => loop.attempting

theorem Offers.attemptingAt {ready : Loop} {frame : OutgoingFrame} {effects : List Effect}
    (offers : loop.Offers now event ready frame effects) :
    loop.attemptingAt event = loop.attempting := by
  cases offers <;> rfl

theorem Reacts.attempting_of_stays (h : loop.Reacts now gone event (.stays turn)) :
    turn.loop.attempting = loop.attemptingAt event := by
  cases h with
  | passed impossible =>
    cases event with
    | connected budget => exact impossible
    | connectFailed => exact impossible
    | reconnectDue =>
      have hunarmed : loop.reconnect = none := impossible
      simp [attemptingAt, hunarmed]
    | _ => rfl
  | buffered offers =>
    obtain ⟨replies, heartbeat, _, rfl⟩ := offers.ready_eq
    exact offers.attemptingAt.symm
  | sent offers =>
    obtain ⟨replies, heartbeat, _, rfl⟩ := offers.ready_eq
    exact offers.attemptingAt.symm
  | received =>
    rename_i frame _ _
    cases frame <;> rfl
  | retried due => simp [attemptingAt, beginAttempt, due]
  | _ => rfl

/-- Whatever is lost, no attempt is under way then. -/
theorem Reacts.attemptingAt_of_loses (h : loop.Reacts now gone event (.loses turn)) {phase : Phase}
    (hphase : loop.IsIn phase) : loop.attemptingAt event = false := by
  cases h with
  | unannounced topic handler online => exact (hphase.online_of_status online).idle
  | unsent offers online =>
    rw [offers.attemptingAt]
    exact (hphase.online_of_status online).idle
  | hungUp listening => exact (hphase.online_of_listening listening).idle
  | _ => rfl

end Loop

namespace Reaction

variable {r : Reaction} {phase : Phase} {next : Loop}

theorem attempting_next (hphase : r.loop.IsIn phase) (h : r.outcome.task = .running next) :
    next.attempting = r.loop.attemptingAt r.event := by
  rcases running_cases h with ⟨turn, hturn, rfl⟩ | ⟨turn, hturn, rfl⟩
  · exact (hturn ▸ r.reacts).attempting_of_stays
  · have hreacts := hturn ▸ r.reacts
    rw [hreacts.attemptingAt_of_loses hphase]
    exact (Loop.lose_waiting r.now (hreacts.unarmed_of_loses hphase)).idle

/-- An attempt that begins, or that was under way, comes about, or fails, or is under way. -/
theorem attempts_balance (hphase : r.loop.IsIn phase) (h : r.outcome.task = .running next) :
    (if r.event.isRetry && r.loop.reconnect.isSome then 1 else 0) +
        (if r.loop.attempting then 1 else 0) =
      (if r.Handshake then 1 else 0) +
        (if r.loop.attempting && r.event.isRefusal then 1 else 0) +
        (if next.attempting then 1 else 0) := by
  rw [attempting_next hphase h]
  simp only [handshake_iff]
  cases hevent : r.event with
  | reconnectDue =>
    cases hdue : r.loop.reconnect.isSome with
    | true =>
      have hidle := (hphase.waiting_of_due hdue).idle
      simp [LoopEvent.isRetry, LoopEvent.isConnection, LoopEvent.isRefusal, Loop.attemptingAt, hdue,
        hidle]
    | false =>
      simp [LoopEvent.isRetry, LoopEvent.isConnection, LoopEvent.isRefusal, Loop.attemptingAt, hdue]
  | _ =>
    cases hattempting : r.loop.attempting <;>
      simp [LoopEvent.isRetry, LoopEvent.isConnection, LoopEvent.isRefusal, Loop.attemptingAt,
        hattempting]

end Reaction

/-- A reply that somebody waited for is counted where it is measured. -/
theorem countP_isMatch (effects : List Effect) :
    ((measurementsOf effects).countP fun (m : Measurement) => m.series = .repliesReceived true) =
      effects.countP Effect.isMatch := by
  rw [measurementsOf, List.countP_filterMap]
  congr 1
  funext effect
  cases effect with
  | measured m => cases m <;> simp [Effect.isMatch, Measurement.series]
  | _ => rfl

section History

variable (history : List Reaction)

theorem countP_measured_of_each {p : Measurement → Bool} {q : Reaction → Bool}
    (each : ∀ r : Reaction, r.measured.countP p = if q r then 1 else 0) :
    (history.flatMap Reaction.measured).countP p = history.countP q := by
  induction history with
  | nil => rfl
  | cons r rest ih =>
    rw [List.flatMap_cons, List.countP_append, List.countP_cons, ih, each, Nat.add_comm]

theorem countP_sent_history (kind : FrameKind) :
    ((history.flatMap Reaction.measured).countP fun (m : Measurement) =>
        m.series = .framesSent kind) =
      (framesWritten history).countP fun (frame : OutgoingFrame) => frame.kind = kind := by
  rw [framesWritten, List.countP_flatMap, List.countP_flatMap]
  congr 2
  funext r
  exact r.countP_sent kind

theorem changes_eq_flatMap : changes history = history.flatMap fun r => r.change?.toList :=
  List.filterMap_eq_flatMap_toList _ _

theorem countP_opens_history :
    ((history.flatMap Reaction.measured).countP fun (m : Measurement) => m.series = .opens) =
      (changes history).count .opened := by
  rw [changes_eq_flatMap, List.countP_flatMap, List.count_flatMap]
  congr 2
  funext r
  exact r.countP_opens

theorem statuses_history :
    (history.flatMap Reaction.measured).filterMap Measurement.status? =
      (changes history).map LinkEvent.status := by
  rw [changes_eq_flatMap, List.filterMap_flatMap, List.map_flatMap]
  congr 1
  funext r
  exact r.statuses_measured

theorem eventsWritten_eq_filter :
    eventsWritten history =
      (framesWritten history).filter fun (frame : OutgoingFrame) => frame.kind = .event :=
  List.filter_flatMap.symm

end History

namespace Run

variable {config : LoopConfig} {history : List Reaction} {task : Task}

theorem measurementsOf_history (run : Run config history task) :
    measurementsOf (history.flatMap Reaction.effects) = history.flatMap Reaction.measured := by
  induction run with
  | start now => rfl
  | @react history r before ih =>
    obtain ⟨phase, hphase⟩ := before.exists_phase r.loop rfl
    rw [List.flatMap_append, measurementsOf_append, ih, List.flatMap_append, List.flatMap_singleton,
      List.flatMap_singleton, Reaction.measurementsOf_effects hphase]

/-- As many waitings are over by a reply as replies were counted that somebody waited for. -/
theorem countP_settled (run : Run config history task) :
    ((settled history).countP fun (g : Waiter × Ending) => g.2.isAnswer) =
      (history.flatMap Reaction.effects).countP Effect.isMatch := by
  rw [← run.ended_perm.countP_eq]
  induction run with
  | start now => rfl
  | @react history r before ih =>
    rw [List.flatMap_append, List.flatMap_append, List.countP_append, List.countP_append, ih,
      List.flatMap_singleton, List.flatMap_singleton,
      Reaction.countP_answered (before.distinct r.loop rfl)]

/-- A frame was to be sent for every command that asked for it and for every heartbeat. -/
theorem length_framesOffered (run : Run config history task) :
    ∀ loop, task = .running loop →
      (framesOffered history).length =
        (commandsTaken history).countP Command.isEmit + beatsIn history := by
  induction run with
  | start now => exact fun _ _ => rfl
  | @react history r before ih =>
    intro next hnext
    rw [framesOffered_snoc, List.length_append, ih r.loop rfl, Reaction.length_offered hnext,
      commandsTaken_snoc, List.countP_append, beatsIn_snoc]
    omega

/-- The last change of the status led to the status that the loop has. -/
theorem status_eq_last (run : Run config history task) :
    ∀ loop, task = .running loop →
      loop.status = ((changes history).getLast?.map LinkEvent.status).getD .offline := by
  induction run with
  | start now =>
    intro loop hloop
    obtain ⟨sweep, rfl⟩ := Loop.start_running hloop
    rfl
  | @react history r before ih =>
    intro next hnext
    have hafter : r.statusAfter = next.status := by rw [Reaction.statusAfter, hnext]; rfl
    have hbefore := ih r.loop rfl
    rw [changes_snoc, Reaction.change?, hafter]
    cases hold : r.loop.status <;> cases hnew : next.status <;> rw [hold] at hbefore <;>
      simp [LinkEvent.between?, LinkEvent.status, ← hbefore]

/-- Every attempt that began came about or failed, but for the one that is under way. -/
theorem attempts_balance (run : Run config history task) :
    ∀ loop, task = .running loop →
      (history.countP fun (r : Reaction) => r.event.isRetry && r.loop.reconnect.isSome) + 1 =
        (history.countP fun (r : Reaction) => r.Handshake) +
          (history.countP fun (r : Reaction) => r.loop.attempting && r.event.isRefusal) +
          if loop.attempting then 1 else 0 := by
  induction run with
  | start now =>
    intro loop hloop
    obtain ⟨sweep, rfl⟩ := Loop.start_running hloop
    rfl
  | @react history r before ih =>
    intro next hnext
    obtain ⟨phase, hphase⟩ := before.exists_phase r.loop rfl
    have hearlier := ih r.loop rfl
    have hstep := Reaction.attempts_balance hphase hnext
    simp only [List.countP_append, List.countP_singleton, decide_eq_true_eq] at hstep ⊢
    omega

end Run

end EventLink
