import EventLink.Proofs.Loop.Routine
/-!
The three phases of the event loop.

The parts of the loop that belong to a connection are changed one by one, by many reactions, some of
which fail half-way.  Yet between two reactions only three of their combinations occur: an attempt to
connect is under way, or the next one was put off, or the connection is online.
-/
namespace EventLink

/-- What the loop is about. -/
inductive Phase where
  | connecting
  | waiting
  | online
  deriving DecidableEq, Repr

namespace Loop

/-- An attempt to connect is under way, and there is nothing else. -/
structure Connecting (loop : Loop) : Prop where
  attempting : loop.attempting = true
  unarmed : loop.reconnect = none
  unwritable : loop.writer.isSome = false
  deaf : loop.listening = false
  offline : loop.status = .offline
  still : loop.heartbeat.isRunning = false

/-- The next attempt to connect was put off, and there is nothing else. -/
structure Waiting (loop : Loop) : Prop where
  armed : loop.reconnect.isSome = true
  idle : loop.attempting = false
  unwritable : loop.writer.isSome = false
  deaf : loop.listening = false
  offline : loop.status = .offline
  still : loop.heartbeat.isRunning = false

/-- Both halves of a connection are there, the heartbeat runs, and no frame waits. -/
structure Online (loop : Loop) : Prop where
  writable : loop.writer.isSome = true
  listening : loop.listening = true
  idle : loop.attempting = false
  unarmed : loop.reconnect = none
  online : loop.status = .online
  beating : loop.heartbeat.isRunning = true
  drained : loop.outbox.frames = []

/-- The loop is in a phase. -/
def IsIn (loop : Loop) : Phase → Prop
  | .connecting => loop.Connecting
  | .waiting => loop.Waiting
  | .online => loop.Online

variable {loop : Loop} {phase : Phase}

theorem IsIn.unique {other : Phase} (h : loop.IsIn phase) (hother : loop.IsIn other) :
    other = phase := by
  cases phase <;> cases other
  case connecting.connecting => rfl
  case waiting.waiting => rfl
  case online.online => rfl
  case connecting.waiting => exact absurd (h.attempting.symm.trans hother.idle) (by decide)
  case connecting.online => exact absurd (h.offline.symm.trans hother.online) (by decide)
  case waiting.connecting => exact absurd (hother.attempting.symm.trans h.idle) (by decide)
  case waiting.online => exact absurd (h.offline.symm.trans hother.online) (by decide)
  case online.connecting => exact absurd (hother.offline.symm.trans h.online) (by decide)
  case online.waiting => exact absurd (hother.offline.symm.trans h.online) (by decide)

theorem IsIn.connecting_of_attempting (h : loop.IsIn phase) (attempting : loop.attempting = true) :
    loop.Connecting := by
  cases phase with
  | connecting => exact h
  | waiting => exact absurd (attempting.symm.trans h.idle) (by decide)
  | online => exact absurd (attempting.symm.trans h.idle) (by decide)

theorem IsIn.waiting_of_due (h : loop.IsIn phase) (due : loop.reconnect.isSome = true) :
    loop.Waiting := by
  cases phase with
  | connecting => simp [h.unarmed] at due
  | waiting => exact h
  | online => simp [h.unarmed] at due

theorem IsIn.online_of_status (h : loop.IsIn phase) (online : loop.status = .online) :
    loop.Online := by
  cases phase with
  | connecting => exact absurd (h.offline.symm.trans online) (by decide)
  | waiting => exact absurd (h.offline.symm.trans online) (by decide)
  | online => exact h

theorem IsIn.online_of_listening (h : loop.IsIn phase) (listening : loop.listening = true) :
    loop.Online := by
  cases phase with
  | connecting => exact absurd (listening.symm.trans h.deaf) (by decide)
  | waiting => exact absurd (listening.symm.trans h.deaf) (by decide)
  | online => exact h

/-- The phase depends on those parts of the loop that belong to a connection, and on the outbox only
while the connection is online. -/
theorem IsIn.congr {other : Loop} (h : loop.IsIn phase)
    (attempting : other.attempting = loop.attempting)
    (reconnect : other.reconnect = loop.reconnect)
    (writer : other.writer.isSome = loop.writer.isSome)
    (listening : other.listening = loop.listening) (status : other.status = loop.status)
    (heartbeat : other.heartbeat.isRunning = loop.heartbeat.isRunning)
    (outbox : loop.status = .online → other.outbox = loop.outbox) : other.IsIn phase := by
  cases phase with
  | connecting =>
    exact ⟨attempting.trans h.attempting, reconnect.trans h.unarmed, writer.trans h.unwritable,
      listening.trans h.deaf, status.trans h.offline, heartbeat.trans h.still⟩
  | waiting =>
    exact ⟨reconnect ▸ h.armed, attempting.trans h.idle, writer.trans h.unwritable,
      listening.trans h.deaf, status.trans h.offline, heartbeat.trans h.still⟩
  | online =>
    exact ⟨writer.trans h.writable, listening.trans h.listening, attempting.trans h.idle,
      reconnect.trans h.unarmed, status.trans h.online, heartbeat.trans h.beating,
      outbox h.online ▸ h.drained⟩

/-- Whatever was there before it, a loss leaves nothing but the time of the next attempt. -/
theorem lose_waiting (now : Nat) (unarmed : loop.reconnect = none) :
    (loop.lose now).loop.Waiting := by
  rw [lose, unarmed]
  exact ⟨rfl, rfl, rfl, rfl, rfl, Heartbeat.isRunning_stop _⟩

variable {now : Nat} {gone : Nat → Bool} {event : LoopEvent} {turn : Turn}

/-- A reaction that finds out about a loss does so before the next attempt was put off. -/
theorem Reacts.unarmed_of_loses (h : loop.Reacts now gone event (.loses turn))
    (hphase : loop.IsIn phase) : turn.loop.reconnect = none := by
  cases h with
  | unannounced topic handler online => exact (hphase.online_of_status online).unarmed
  | unsent offers online =>
    obtain ⟨replies, heartbeat, _, rfl⟩ := offers.ready_eq
    exact (hphase.online_of_status online).unarmed
  | flushCut budget attempting => exact (hphase.connecting_of_attempting attempting).unarmed
  | replayCut budget attempting => exact (hphase.connecting_of_attempting attempting).unarmed
  | refused attempting => exact (hphase.connecting_of_attempting attempting).unarmed
  | hungUp listening => exact (hphase.online_of_listening listening).unarmed

/-- A reaction without a loss leads from one phase to one of them. -/
theorem Reacts.phase_of_stays (h : loop.Reacts now gone event (.stays turn))
    (hphase : loop.IsIn phase) : ∃ next, turn.loop.IsIn next := by
  cases h with
  | passed => exact ⟨phase, hphase⟩
  | noted => exact ⟨phase, hphase.congr rfl rfl rfl rfl rfl rfl fun _ => rfl⟩
  | announced topic handler writer online =>
    exact ⟨phase, hphase.congr rfl rfl (hphase.online_of_status online).writable.symm rfl rfl rfl
      fun _ => rfl⟩
  | watched => exact ⟨phase, hphase.congr rfl rfl rfl rfl rfl rfl fun _ => rfl⟩
  | buffered offers offline =>
    obtain ⟨replies, heartbeat, hrunning, rfl⟩ := offers.ready_eq
    refine ⟨phase, hphase.congr rfl rfl rfl rfl rfl hrunning fun online => ?_⟩
    exact absurd (offline.symm.trans online) (by decide)
  | sent offers writer online =>
    obtain ⟨replies, heartbeat, hrunning, rfl⟩ := offers.ready_eq
    exact ⟨phase, hphase.congr rfl rfl (hphase.online_of_status online).writable.symm rfl rfl hrunning
      fun _ => rfl⟩
  | summarized => exact ⟨phase, hphase⟩
  | opened budget attempting writer started heartbeat beats =>
    have hbeating := Heartbeat.isRunning_of_start beats
    have hunarmed := (hphase.connecting_of_attempting attempting).unarmed
    exact ⟨.online, rfl, rfl, rfl, hunarmed, rfl, hbeating, rfl⟩
  | received listening carries =>
    rename_i message frame
    cases frame <;> exact ⟨phase, hphase.congr rfl rfl rfl rfl rfl rfl fun _ => rfl⟩
  | discarded => exact ⟨phase, hphase⟩
  | ignored => exact ⟨phase, hphase⟩
  | retried due =>
    have hwaiting := hphase.waiting_of_due due
    exact ⟨.connecting, rfl, rfl, hwaiting.unwritable, hwaiting.deaf, hwaiting.offline,
      hwaiting.still⟩
  | swept => exact ⟨phase, hphase.congr rfl rfl rfl rfl rfl rfl fun _ => rfl⟩
  | budgeted => exact ⟨phase, hphase.congr rfl rfl Option.isSome_map rfl rfl rfl fun _ => rfl⟩

end Loop

namespace Run

variable {config : LoopConfig} {history : List Reaction} {task : Task}

theorem exists_phase (run : Run config history task) :
    ∀ loop, task = .running loop → ∃ phase, loop.IsIn phase := by
  induction run with
  | start now =>
    intro loop hloop
    obtain ⟨sweep, rfl⟩ := Loop.start_running hloop
    exact ⟨.connecting, rfl, rfl, rfl, rfl, rfl, rfl⟩
  | react r before ih =>
    intro next hnext
    obtain ⟨phase, hphase⟩ := ih r.loop rfl
    have hreacts := r.reacts
    rcases Reaction.running_cases hnext with ⟨turn, hverdict, rfl⟩ | ⟨turn, hverdict, rfl⟩
    · rw [hverdict] at hreacts
      exact hreacts.phase_of_stays hphase
    · rw [hverdict] at hreacts
      exact ⟨.waiting, Loop.lose_waiting r.now (hreacts.unarmed_of_loses hphase)⟩

/-- A loop that is online after a reaction found out about no loss in it. -/
theorem stays_of_online {r : Reaction} (before : Run config history (.running r.loop)) {next : Loop}
    (h : r.outcome.task = .running next) (online : next.status = .online) :
    ∃ turn, r.verdict = .stays turn ∧ turn.loop = next := by
  rcases Reaction.running_cases h with hstays | ⟨turn, hverdict, rfl⟩
  · exact hstays
  · obtain ⟨phase, hphase⟩ := before.exists_phase r.loop rfl
    have hunarmed := (hverdict ▸ r.reacts).unarmed_of_loses hphase
    have hoffline := (Loop.lose_waiting r.now hunarmed).offline
    exact absurd (hoffline.symm.trans online) (by decide)

theorem phase_of_mem (run : Run config history task) {r : Reaction} (hr : r ∈ history) :
    ∃ phase, r.loop.IsIn phase := by
  obtain ⟨first, hfirst⟩ := run.before_of_mem hr
  exact hfirst.exists_phase r.loop rfl

/-- At every point of a run the loop is in exactly one phase.  So a loss is only ever dealt with while
no next attempt was put off, an attempt only ever begins when the loop has waited for it, a connection
only ever comes about when there is none, and whoever is told that the connection is online is told
that no frame waits. -/
theorem exactly_one_phase (run : Run config history task) :
    (∀ loop, task = .running loop → ∃! phase, loop.IsIn phase) ∧
      ∀ r ∈ history,
        (∀ turn, r.verdict = .loses turn → turn.loop.reconnect = none) ∧
          (.attempt ∈ r.effects → r.loop.Waiting) ∧
          (r.Handshake → r.loop.Connecting) ∧
          ∀ summary, .summarized summary ∈ r.effects → summary.status = .online →
            summary.unsent = 0 := by
  refine ⟨?_, ?_⟩
  · intro loop hloop
    obtain ⟨phase, hphase⟩ := run.exists_phase loop hloop
    exact ⟨phase, hphase, fun other hother => hphase.unique hother⟩
  intro r hr
  obtain ⟨phase, hphase⟩ := run.phase_of_mem hr
  refine ⟨?_, ?_, ?_, ?_⟩
  · intro turn hturn
    exact (hturn ▸ r.reacts).unarmed_of_loses hphase
  · intro hattempt
    exact hphase.waiting_of_due (Reaction.armed_of_attempt_mem hattempt)
  · intro hhandshake
    exact hphase.connecting_of_attempting hhandshake.1
  · intro summary hmem honline
    obtain rfl := Reaction.summary_of_mem hmem
    exact List.length_eq_zero_iff.mpr (hphase.online_of_status honline).drained

/-- A frame waits, the first connection breaks before it is written, and the second one takes it. -/
def brokenFlush : List (Nat × LoopEvent) :=
  [(0, .command (.emit "news" none none)), (0, .connected (some 0)), (5, .reconnectDue),
    (7, .connected none)]

theorem exactly_one_phase_after_brokenFlush :
    ∃ loop, (LoopConfig.standard.replay brokenFlush).2 = .running loop ∧
      loop.status = .online ∧ ∃! phase, loop.IsIn phase :=
  ⟨_, rfl, rfl, (exactly_one_phase (LoopConfig.standard.run_replay brokenFlush)).1 _ rfl⟩

end Run

end EventLink
