import EventLink.Proofs.Loop.FrameOrder
import EventLink.Proofs.Loop.Lifecycle
import EventLink.Proofs.Loop.Timing
/-!
The pace of the heartbeats.

A connection that has got online is followed by one heartbeat per period as long as it is online.  The
deadlines add up to whole periods since it got online, whatever comes in between.  A heartbeat that
could not be written waits for the next connection, and as there are none in the meantime it is the
only one that does.
-/
namespace EventLink

/-- The nanoseconds between two heartbeats. -/
def LoopConfig.beatPeriod (config : LoopConfig) : Nat :=
  max config.heartbeat.nanos shortestHeartbeat.nanos

def LoopEvent.isTick : LoopEvent → Bool
  | .heartbeatDue => true
  | _ => false

namespace Reaction

variable {r : Reaction}

/-- The timer of the heartbeat goes off. -/
def Beats (r : Reaction) : Prop :=
  r.event = .heartbeatDue ∧ r.loop.heartbeat.isRunning = true

theorem beats_iff : r.Beats ↔ (r.event.isTick && r.loop.heartbeat.isRunning) = true := by
  rw [Beats, Bool.and_eq_true]
  cases r.event <;> simp [LoopEvent.isTick]

instance : Decidable r.Beats :=
  decidable_of_iff' _ beats_iff

/-- A heartbeat is sent when its timer goes off. -/
theorem Beats.offered (h : r.Beats) : r.offered = [.event heartbeatTopic none none] := by
  rw [Reaction.offered, offers, h.1, Loop.offersAt, if_pos h.2]
  rfl

end Reaction

def beatsIn (history : List Reaction) : Nat :=
  history.countP fun (r : Reaction) => r.Beats

@[simp]
theorem beatsIn_snoc (history : List Reaction) (r : Reaction) :
    beatsIn (history ++ [r]) = beatsIn history + if r.Beats then 1 else 0 := by
  rw [beatsIn, List.countP_append, List.countP_singleton]
  by_cases hbeats : r.Beats <;> simp [beatsIn, hbeats]

/-- The connection got online in one reaction, and nothing changed in those that came after it. -/
structure OnlineSince (history : List Reaction) (opening : Reaction) (during : List Reaction) :
    Prop where
  split : ∃ early, history = early ++ opening :: during
  opened : opening.change? = some .opened
  steady : ∀ q ∈ during, q.change? = none

/-- When the next heartbeat is due on a connection that got online in the given reaction. -/
def nextBeat (period : Nat) (opening : Reaction) (during : List Reaction) : Nat :=
  opening.now + (beatsIn during + 1) * period

theorem nextBeat_snoc (period : Nat) (opening : Reaction) (during : List Reaction) (r : Reaction) :
    nextBeat period opening (during ++ [r]) =
      nextBeat period opening during + if r.Beats then period else 0 := by
  rw [nextBeat, nextBeat, beatsIn_snoc]
  by_cases hbeats : r.Beats
  · rw [if_pos hbeats, if_pos hbeats, Nat.succ_mul (beatsIn during + 1), Nat.add_assoc]
  · rw [if_neg hbeats, if_neg hbeats]
    rfl

theorem OnlineSince.of_change {history : List Reaction} {r : Reaction}
    (opened : r.change? = some .opened) : OnlineSince (history ++ [r]) r [] :=
  ⟨⟨history, rfl⟩, opened, List.forall_mem_nil _⟩

/-- Nothing comes between the reaction in which a connection got online and what came after it. -/
theorem eq_nil_of_steady {skipped during during' : List Reaction} {opening opening' : Reaction}
    (tail : opening :: during = skipped ++ opening' :: during')
    (steady : ∀ q ∈ during, q.change? = none) (opened : opening'.change? = some .opened) :
    skipped = [] := by
  cases skipped with
  | nil => rfl
  | cons q rest =>
    obtain ⟨_, rfl⟩ := List.cons.inj tail
    have hsteady := steady opening' (List.mem_append_right _ List.mem_cons_self)
    exact absurd (hsteady.symm.trans opened) (by simp)

/-- There is one reaction in which the connection got online. -/
theorem OnlineSince.unique {history during during' : List Reaction} {opening opening' : Reaction}
    (h : OnlineSince history opening during) (h' : OnlineSince history opening' during') :
    opening = opening' ∧ during = during' := by
  obtain ⟨⟨early, rfl⟩, hopened, hsteady⟩ := h
  obtain ⟨⟨early', hsplit⟩, hopened', hsteady'⟩ := h'
  rcases List.append_eq_append_iff.mp hsplit with ⟨skipped, _, htail⟩ | ⟨skipped, _, htail⟩
  · obtain rfl := eq_nil_of_steady htail hsteady hopened'
    exact List.cons.inj htail
  · obtain rfl := eq_nil_of_steady htail hsteady' hopened
    exact (List.cons.inj htail).imp Eq.symm Eq.symm

theorem OnlineSince.snoc {history during : List Reaction} {opening r : Reaction}
    (h : OnlineSince history opening during) (steady : r.change? = none) :
    OnlineSince (history ++ [r]) opening (during ++ [r]) := by
  obtain ⟨⟨early, rfl⟩, hopened, hsteady⟩ := h
  refine ⟨⟨early, by simp⟩, hopened, ?_⟩
  rw [List.forall_mem_append, List.forall_mem_singleton]
  exact ⟨hsteady, steady⟩

namespace Loop

variable {loop : Loop} {now : Nat} {gone : Nat → Bool} {event : LoopEvent} {verdict : Verdict}

theorem IsIn.online_of_running {phase : Phase} (h : loop.IsIn phase)
    (running : loop.heartbeat.isRunning = true) : loop.Online := by
  cases phase with
  | connecting => exact absurd (running.symm.trans h.still) (by decide)
  | waiting => exact absurd (running.symm.trans h.still) (by decide)
  | online => exact h

/-- A handshake leaves the heartbeat alone if a loss follows, and starts it otherwise. -/
theorem Reacts.heartbeat_of_handshake {budget : Option Nat}
    (h : loop.Reacts now gone (.connected budget) verdict) (attempting : loop.attempting = true)
    {turn : Turn} (hturn : verdict.turn? = some turn) :
    (verdict = .loses turn ∧ turn.loop.heartbeat = loop.heartbeat) ∨
      verdict = .stays turn ∧
        ∃ first, loop.heartbeat.start? now = some (first, turn.loop.heartbeat) := by
  cases h with
  | passed impossible => exact absurd (attempting.symm.trans impossible) (by decide)
  | buffered offers => exact absurd rfl (offers.not_connected budget)
  | sent offers => exact absurd rfl (offers.not_connected budget)
  | unsent offers => exact absurd rfl (offers.not_connected budget)
  | flushCut =>
    obtain rfl := Option.some.inj hturn
    exact Or.inl ⟨rfl, rfl⟩
  | replayCut =>
    obtain rfl := Option.some.inj hturn
    exact Or.inl ⟨rfl, rfl⟩
  | opened _ _ writer started heartbeat beats =>
    obtain rfl := Option.some.inj hturn
    exact Or.inr ⟨rfl, started, beats⟩
  | overflowed => exact absurd hturn (by simp [Verdict.turn?])

theorem period_lose (loop : Loop) (now : Nat) :
    (loop.lose now).loop.heartbeat.period = loop.heartbeat.period := by
  unfold lose
  split <;> rfl

end Loop

/-- The period of the heartbeat never changes. -/
theorem Reaction.period_of_running {r : Reaction} {next : Loop}
    (h : r.outcome.task = .running next) : next.heartbeat.period = r.loop.heartbeat.period := by
  have hkept {turn : Turn} (hturn : r.verdict.turn? = some turn) :
      turn.loop.heartbeat.period = r.loop.heartbeat.period := by
    by_cases handshake : r.Handshake
    · obtain ⟨attempting, budget, hevent⟩ := handshake
      rcases (hevent ▸ r.reacts).heartbeat_of_handshake attempting hturn with
        ⟨_, hsame⟩ | ⟨_, first, hstart⟩
      · rw [hsame]
      · exact Heartbeat.period_of_start hstart
    · rw [(r.reacts.timersAt hturn).heartbeat handshake]
      unfold Loop.heartbeatAt
      split <;> rfl
  rcases running_cases h with ⟨turn, hturn, rfl⟩ | ⟨turn, hturn, rfl⟩
  · exact hkept (by rw [hturn]; rfl)
  · rw [Loop.period_lose]
    exact hkept (by rw [hturn]; rfl)

/-- What does not tick leaves the heartbeat alone. -/
theorem Reaction.heartbeatAt_of_idle {r : Reaction} (idle : ¬ r.Beats) :
    r.loop.heartbeatAt r.now r.event = r.loop.heartbeat := by
  unfold Loop.heartbeatAt
  split
  · next hevent =>
    apply Heartbeat.take_of_still
    exact eq_false_of_ne_true fun running => idle ⟨hevent, running⟩
  · rfl

/-- A timer is set for whole periods after the connection got online: for that time at least if no
timer went off early, and for exactly that time if moreover no heartbeat was later than a timer puts up
with. -/
def Paced (period : Nat) (opening : Reaction) (during : List Reaction) (ticker : Ticker) : Prop :=
  (∀ q ∈ during, q.InTime) → (∀ q ∈ during, q.Beats → q.now + period ≤ Clock.latest) →
    nextBeat period opening during ≤ ticker.due ∧
      ((∀ q ∈ during, q.Beats → q.HeldUpAtMost Ticker.tolerance) →
        ticker.due = nextBeat period opening during)

namespace Paced

variable {period : Nat} {opening r : Reaction} {during : List Reaction} {ticker : Ticker}

theorem of_due (due : ticker.due = opening.now + period) : Paced period opening [] ticker := by
  intro _ _
  have hnext : ticker.due = nextBeat period opening [] := by
    rw [due, nextBeat]
    simp [beatsIn]
  exact ⟨Nat.le_of_eq hnext.symm, fun _ => hnext⟩

/-- The tick of a heartbeat is followed by the one that is due a period later. -/
theorem take (h : Paced period opening during ticker) (same : ticker.period.nanos = period)
    (timer : r.loop.heartbeat.timer = some ticker) (beats : r.Beats) :
    Paced period opening (during ++ [r]) (ticker.take r.now) := by
  obtain rfl := same
  unfold Paced
  simp only [List.forall_mem_append, List.forall_mem_singleton, nextBeat_snoc, if_pos beats]
  intro inTime clock
  obtain ⟨hleast, hexact⟩ := h inTime.1 clock.1
  have hdue := inTime.2.due_le beats.1 timer
  have hroom := clock.2 beats
  constructor
  · calc _ ≤ ticker.due + ticker.period.nanos := Nat.add_le_add_right hleast _
      _ ≤ (ticker.take r.now).due := Ticker.le_due_take hdue hroom
  · intro punctual
    rw [Ticker.due_take hdue (punctual.2 beats ticker timer) hroom, hexact punctual.1]

theorem idle (h : Paced period opening during ticker) (idle : ¬ r.Beats) :
    Paced period opening (during ++ [r]) ticker := by
  unfold Paced
  simp only [List.forall_mem_append, List.forall_mem_singleton, nextBeat_snoc, if_neg idle,
    Nat.add_zero]
  intro inTime clock
  obtain ⟨hleast, hexact⟩ := h inTime.1 clock.1
  exact ⟨hleast, fun punctual => hexact punctual.1⟩

end Paced

namespace Run

variable {config : LoopConfig} {history : List Reaction} {task : Task}

theorem nanos_period (run : Run config history task) :
    ∀ loop, task = .running loop → loop.heartbeat.period.nanos = config.beatPeriod := by
  induction run with
  | start now =>
    intro loop hloop
    obtain ⟨sweep, rfl⟩ := Loop.start_running hloop
    exact Heartbeat.nanos_period_ofPeriod config.heartbeat
  | react r before ih =>
    intro next hnext
    rw [Reaction.period_of_running hnext]
    exact ih r.loop rfl

/-- While the connection is online its heartbeat is set for a time that is whole periods after it got
online. -/
theorem exists_opening (run : Run config history task) :
    ∀ loop, task = .running loop → loop.status = .online →
      ∃ opening during ticker, OnlineSince history opening during ∧
        loop.heartbeat.timer = some ticker ∧ ticker.period.nanos = config.beatPeriod ∧
        Paced config.beatPeriod opening during ticker := by
  induction run with
  | start now =>
    intro loop hloop online
    obtain ⟨sweep, rfl⟩ := Loop.start_running hloop
    exact absurd online (by simp)
  | @react history r before ih =>
    intro next hnext online
    obtain ⟨phase, hphase⟩ := before.exists_phase r.loop rfl
    obtain ⟨turn, hturn, rfl⟩ := before.stays_of_online hnext online
    have hkept : ∀ other, r.verdict ≠ .loses other := by
      intro other hother
      exact absurd (hturn.symm.trans hother) (by simp)
    have hturn? : r.verdict.turn? = some turn := by
      rw [hturn]
      rfl
    by_cases handshake : r.Handshake
    · -- The connection has just got online, and the heartbeat starts.
      have hopened := (Reaction.change?_eq_opened hphase).mpr ⟨handshake, hkept⟩
      obtain ⟨attempting, budget, hevent⟩ := handshake
      have hstill := (hphase.connecting_of_attempting attempting).still
      rcases (hevent ▸ r.reacts).heartbeat_of_handshake attempting hturn? with
        ⟨hlost, _⟩ | ⟨_, first, hstart⟩
      · exact absurd hlost (hkept _)
      obtain ⟨ticker, htimer, hsame, hdue⟩ := Heartbeat.timer_of_start hstill hstart
      have hperiod := before.nanos_period r.loop rfl
      refine ⟨r, [], ticker, .of_change hopened, htimer, by rw [hsame, hperiod], ?_⟩
      exact .of_due (by rw [hdue, hperiod])
    · -- The connection was online before, and the reaction may have been a heartbeat.
      have hafter : r.statusAfter = turn.loop.status := by
        rw [Reaction.statusAfter, hnext]
        rfl
      have hsame := Reaction.statusAfter_eq handshake hkept
      have honline : r.loop.status = .online := hsame.symm.trans (hafter.trans online)
      have hsteady : r.change? = none := by
        rw [Reaction.change?, hsame, LinkEvent.between?_self]
      obtain ⟨opening, during, ticker, hsince, htimer, hperiod, hpaced⟩ := ih r.loop rfl honline
      have hheartbeat := (r.reacts.timersAt hturn?).heartbeat handshake
      by_cases hbeats : r.Beats
      · rw [hbeats.1, Loop.heartbeatAt, Heartbeat.take, htimer] at hheartbeat
        refine ⟨opening, during ++ [r], ticker.take r.now, hsince.snoc hsteady, ?_, ?_, ?_⟩
        · rw [hheartbeat]
          rfl
        · rw [Ticker.period_take, hperiod]
        · exact hpaced.take hperiod htimer hbeats
      · rw [Reaction.heartbeatAt_of_idle hbeats] at hheartbeat
        refine ⟨opening, during ++ [r], ticker, hsince.snoc hsteady, ?_, hperiod, ?_⟩
        · rw [hheartbeat, htimer]
        · exact hpaced.idle hbeats

end Run

/-- When a reaction comes on a connection that is online, against the time of the next heartbeat: `k`
periods after the connection got online if that is the `k`-th one. -/
structure KeepsPace (period : Nat) (opening : Reaction) (during : List Reaction) (r : Reaction) :
    Prop where
  notBefore : r.Beats → nextBeat period opening during ≤ r.now
  /-- A loop that is not held up when a heartbeat is due sends each of them when it is due. -/
  onTime : (∀ q ∈ during, q.Beats → q.HeldUpAtMost 0) → r.HeldUpAtMost 0 → r.Beats →
    r.now = nextBeat period opening during
  /-- What holds up the loop for less than a timer puts up with does not add up. -/
  notAfter : ∀ lag ≤ Ticker.tolerance, (∀ q ∈ during, q.Beats → q.HeldUpAtMost lag) →
    r.HeldUpAtMost lag → r.now ≤ nextBeat period opening during + lag
  /-- A loop that waits for its timers only is woken on whole milliseconds. -/
  woken : (∀ q ∈ during, q.Prompt) → r.Prompt →
    r.now ≤ Clock.wakeUp (nextBeat period opening during) ∧
      (r.Beats → 1000000 ∣ nextBeat period opening during →
        r.now = nextBeat period opening during)

theorem Paced.keepsPace {period : Nat} {opening r : Reaction} {during : List Reaction}
    {ticker : Ticker} (h : Paced period opening during ticker)
    (timer : r.loop.heartbeat.timer = some ticker) (inTime : ∀ q ∈ during, q.InTime)
    (last : r.InTime) (clock : ∀ q ∈ during, q.Beats → q.now + period ≤ Clock.latest) :
    KeepsPace period opening during r := by
  obtain ⟨hleast, hexact⟩ := h inTime clock
  have hnotBefore (beats : r.Beats) : nextBeat period opening during ≤ r.now :=
    Nat.le_trans hleast (last.due_le beats.1 timer)
  have hnotAfter (lag : Nat) (small : lag ≤ Ticker.tolerance)
      (earlier : ∀ q ∈ during, q.Beats → q.HeldUpAtMost lag) (now : r.HeldUpAtMost lag) :
      r.now ≤ nextBeat period opening during + lag := by
    have hdue := hexact fun q hq beats => (earlier q hq beats).mono small
    have hnow := now ticker timer
    rwa [hdue] at hnow
  refine ⟨hnotBefore, ?_, hnotAfter, ?_⟩
  · intro earlier now beats
    apply Nat.le_antisymm
    · exact hnotAfter 0 (Nat.zero_le _) earlier now
    · exact hnotBefore beats
  · intro earlier now
    have hdue := hexact fun q hq _ => (earlier q hq).heldUpAtMost
    have hnow := now.le_firesAt timer
    rw [Ticker.firesAt, hdue] at hnow
    refine ⟨hnow, ?_⟩
    intro beats whole
    rw [Clock.wakeUp_of_dvd whole] at hnow
    exact Nat.le_antisymm hnow (hnotBefore beats)

/-- A frame that was to be sent, and whether it is a heartbeat of the timer. -/
structure Submission where
  frame : OutgoingFrame
  isBeat : Bool

/-- What a reaction has to send.  Users may emit frames that look like heartbeats, so the frame does
not tell. -/
def Reaction.submissions (r : Reaction) : List Submission :=
  r.offered.map fun (frame : OutgoingFrame) => ⟨frame, r.Beats⟩

/-- What was to be sent in a series of reactions. -/
def submissions (history : List Reaction) : List Submission :=
  history.flatMap Reaction.submissions

/-- What was to be sent and has not been written.  What comes first is written first. -/
def unsentSubmissions (history : List Reaction) : List Submission :=
  (submissions history).drop (eventsWritten history).length

theorem submissions_snoc (history : List Reaction) (r : Reaction) :
    submissions (history ++ [r]) = submissions history ++ r.submissions := by
  rw [submissions, List.flatMap_append, List.flatMap_singleton]
  rfl

theorem map_frame_submissions (history : List Reaction) :
    (submissions history).map Submission.frame = framesOffered history := by
  induction history with
  | nil => rfl
  | cons r later ih =>
    have hframes : r.submissions.map Submission.frame = r.offered := by
      rw [Reaction.submissions, List.map_map]
      exact List.map_id _
    rw [submissions, List.flatMap_cons, List.map_append, ← submissions, ih, hframes]
    rfl

namespace Reaction

variable (r : Reaction)

/-- A reaction has one frame to send at most. -/
theorem length_submissions : r.submissions.length ≤ 1 := by
  rw [submissions, offered, offers, List.length_map, List.length_map]
  unfold Loop.offersAt
  split
  · exact Nat.le_refl 1
  · split
    · exact Nat.le_refl 1
    · exact Nat.zero_le 1
  · split
    · exact Nat.le_refl 1
    · exact Nat.zero_le 1
  · exact Nat.zero_le 1

theorem submissions_of_idle (idle : ¬ r.Beats) : r.submissions.countP Submission.isBeat = 0 := by
  apply List.countP_eq_zero.mpr
  intro submission hsubmission
  obtain ⟨frame, _, rfl⟩ := List.mem_map.mp hsubmission
  simpa using idle

end Reaction

namespace Run

variable {config : LoopConfig} {history : List Reaction} {task : Task}

/-- The frames that wait are those that were to be sent and have not been written. -/
theorem unsent_eq (run : Run config history task) :
    ∀ loop, task = .running loop →
      (unsentSubmissions history).map Submission.frame = loop.outbox.frames := by
  intro loop hloop
  rw [unsentSubmissions, List.map_drop, map_frame_submissions, run.offered_eq loop hloop]
  exact List.drop_left

/-- Of the frames that wait one is a heartbeat at most: none waits while the connection is online, and
none is sent while it is not. -/
theorem unsent_beats (run : Run config history task) :
    ∀ loop, task = .running loop → (unsentSubmissions history).countP Submission.isBeat ≤ 1 := by
  induction run with
  | start now =>
    intro loop _
    exact Nat.zero_le 1
  | @react history r before ih =>
    intro next _
    obtain ⟨phase, hphase⟩ := before.exists_phase r.loop rfl
    rw [unsentSubmissions, submissions_snoc, eventsWritten_snoc, List.length_append]
    cases hstatus : r.loop.status with
    | online =>
      have hall : (submissions history).length = (eventsWritten history).length := by
        rw [← List.length_map Submission.frame, map_frame_submissions,
          before.offered_eq r.loop rfl, (hphase.online_of_status hstatus).drained, List.append_nil]
      rw [← hall, List.drop_append, List.drop_eq_nil_of_le (Nat.le_add_right _ _), List.nil_append]
      calc _ ≤ (r.submissions.drop _).length := List.countP_le_length
        _ ≤ r.submissions.length := (List.drop_sublist _ _).length_le
        _ ≤ 1 := r.length_submissions
    | offline =>
      have hidle : ¬ r.Beats := by
        rintro ⟨_, hrunning⟩
        have honline := (hphase.online_of_running hrunning).online
        exact absurd (hstatus.symm.trans honline) (by decide)
      rw [List.drop_append, List.countP_append, ← List.drop_drop]
      have hold := ((List.drop_sublist (eventFramesOf r.effects).length
        (unsentSubmissions history)).countP_le (p := Submission.isBeat))
      have hnew := ((List.drop_sublist ((eventsWritten history).length +
        (eventFramesOf r.effects).length - (submissions history).length)
          r.submissions).countP_le (p := Submission.isBeat))
      rw [r.submissions_of_idle hidle] at hnew
      exact Nat.add_le_add (Nat.le_trans hold (ih r.loop rfl)) hnew

/-- Heartbeats keep their pace and never pile up.  They are sent while the connection is online and at
no other time.  If no timer goes off early, then on every connection each heartbeat comes as many
periods after the connection got online as there were heartbeats on it, itself included, or later.  If
moreover the loop is not held up when heartbeats are due, then it comes at exactly that time, whenever
that is; if the loop is held up for a few milliseconds at most, then it comes that much later at most;
and if the loop waits for its timers only, then it comes when sleepers are woken for that time.  All of
this is about deadlines that the clock can show.  At most one heartbeat of the timer waits to be
written, however often the connection was lost. -/
theorem heartbeats_paced (run : Run config history task) (inTime : ∀ r ∈ history, r.InTime) :
    (∀ before r later, history = before ++ r :: later →
      (r.Beats → r.loop.status = .online ∧ r.offered = [.event heartbeatTopic none none]) ∧
        (r.loop.status = .online →
          ∃ opening during, OnlineSince before opening during ∧
            ((∀ q ∈ during, q.Beats → q.now + config.beatPeriod ≤ Clock.latest) →
              KeepsPace config.beatPeriod opening during r))) ∧
      ∀ loop, task = .running loop →
        (unsentSubmissions history).map Submission.frame = loop.outbox.frames ∧
          (unsentSubmissions history).countP Submission.isBeat ≤ 1 := by
  refine ⟨?_, fun loop hloop => ⟨run.unsent_eq loop hloop, run.unsent_beats loop hloop⟩⟩
  intro before r later hhistory
  rw [hhistory] at run inTime
  have hbefore := run.before
  obtain ⟨phase, hphase⟩ := hbefore.exists_phase r.loop rfl
  constructor
  · intro hbeats
    exact ⟨(hphase.online_of_running hbeats.2).online, hbeats.offered⟩
  intro online
  obtain ⟨opening, during, ticker, hsince, htimer, _, hpaced⟩ :=
    hbefore.exists_opening r.loop rfl online
  have hearlier : ∀ q ∈ during, q.InTime := by
    obtain ⟨early, rfl⟩ := hsince.split
    intro q hq
    exact inTime q (List.mem_append_left _ (List.mem_append_right _ (List.mem_cons_of_mem _ hq)))
  have hlast : r.InTime := inTime r (List.mem_append_right _ List.mem_cons_self)
  exact ⟨opening, during, hsince, hpaced.keepsPace htimer hearlier hlast⟩

def briskHeartbeat : LoopConfig :=
  { LoopConfig.standard with heartbeat := .ofSecs 10 }

/-- A connection gets online in the middle of a millisecond, and two heartbeats follow. -/
def twoBeats : List (Nat × LoopEvent) :=
  [(5300000, .connected none), (10005300000, .heartbeatDue), (20005300000, .heartbeatDue)]

theorem heartbeats_paced_of_twoBeats :
    ∃ first second r, (briskHeartbeat.replay twoBeats).1 = [first, second] ++ [r] ∧ r.Beats ∧
      OnlineSince [first, second] first [second] ∧ first.now = 5300000 ∧
      r.now = nextBeat briskHeartbeat.beatPeriod first [second] ∧ r.now = 20005300000 := by
  obtain ⟨first, second, r, hhistory, hopening, hopened, hsteady, ⟨hfirst, hfirstDue⟩,
      ⟨hlast, hlastDue⟩, honline, hclock, hstarted, hnow⟩ :
      ∃ first second r, (briskHeartbeat.replay twoBeats).1 = [first, second] ++ [r] ∧
        first.event = .connected none ∧ first.change? = some .opened ∧ second.change? = none ∧
        (second.event = .heartbeatDue ∧
          second.loop.heartbeat.timer = some ⟨.ofSecs 10, second.now⟩) ∧
        (r.event = .heartbeatDue ∧ r.loop.heartbeat.timer = some ⟨.ofSecs 10, r.now⟩) ∧
        r.loop.status = .online ∧ second.now + briskHeartbeat.beatPeriod ≤ Clock.latest ∧
        first.now = 5300000 ∧ r.now = 20005300000 :=
    ⟨_, _, _, rfl, rfl, rfl, rfl, ⟨rfl, by decide +kernel⟩, ⟨rfl, by decide +kernel⟩, rfl,
      by decide +kernel, rfl, rfl⟩
  have hrun := briskHeartbeat.run_replay twoBeats
  have hsince : OnlineSince [first, second] first [second] :=
    ⟨⟨[], rfl⟩, hopened, List.forall_mem_singleton.mpr hsteady⟩
  have inTime : ∀ q ∈ (briskHeartbeat.replay twoBeats).1, q.InTime := by
    rw [hhistory]
    simp only [List.cons_append, List.nil_append, List.forall_mem_cons]
    exact ⟨.of_connected hopening, .of_due hfirst hfirstDue (Nat.le_refl _),
      .of_due hlast hlastDue (Nat.le_refl _), List.forall_mem_nil _⟩
  obtain ⟨opening, during, hfound, hpace⟩ :=
    ((heartbeats_paced hrun inTime).1 _ r [] hhistory).2 honline
  obtain ⟨rfl, rfl⟩ := hfound.unique hsince
  have hbeat : r.Beats := ⟨hlast, by rw [Heartbeat.isRunning, hlastDue]; rfl⟩
  have hroom : ∀ q ∈ [second], q.Beats → q.now + briskHeartbeat.beatPeriod ≤ Clock.latest :=
    List.forall_mem_singleton.mpr fun _ => hclock
  have htime : r.now = nextBeat briskHeartbeat.beatPeriod opening [second] := by
    apply (hpace hroom).onTime
    · exact List.forall_mem_singleton.mpr fun _ => .of_due hfirstDue
    · exact .of_due hlastDue
    · exact hbeat
  exact ⟨_, _, r, hhistory, hbeat, hsince, hstarted, htime, hnow⟩

end Run

end EventLink
