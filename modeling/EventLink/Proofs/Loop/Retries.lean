import EventLink.Proofs.Loop.Lifecycle
import EventLink.Proofs.Loop.Timing
import EventLink.Proofs.Time.Backoff
/-!
When the loop tries again to connect.

Every loss, whatever brings it about, puts the next attempt off by the next delay, once; and nothing
but a loss does.  A handshake sets the delays back, also one after which the opening sequence breaks
off.  An attempt begins when the time of the last loss's delay is over, and at no other time but the
start.
-/
namespace EventLink

@[simp]
def Effect.delay? : Effect → Option Duration
  | .armed delay => some delay
  | _ => none

@[simp]
def Effect.isAttempt : Effect → Bool
  | .attempt => true
  | _ => false

def delaysOf (effects : List Effect) : List Duration :=
  effects.filterMap Effect.delay?

def attemptsIn (effects : List Effect) : Nat :=
  effects.countP Effect.isAttempt

@[simp]
theorem delaysOf_append (first later : List Effect) :
    delaysOf (first ++ later) = delaysOf first ++ delaysOf later :=
  List.filterMap_append

@[simp]
theorem attemptsIn_append (first later : List Effect) :
    attemptsIn (first ++ later) = attemptsIn first + attemptsIn later :=
  List.countP_append

theorem Routine.delaysOf {effects : List Effect} (h : Routine effects) :
    EventLink.delaysOf effects = [] := by
  apply List.filterMap_eq_nil_iff.mpr
  intro effect heffect
  have hroutine := h effect heffect
  cases effect <;> simp_all [Effect.isRoutine]

theorem Routine.attemptsIn {effects : List Effect} (h : Routine effects) :
    EventLink.attemptsIn effects = 0 := by
  apply List.countP_eq_zero.mpr
  intro effect heffect
  have hroutine := h effect heffect
  cases effect <;> simp_all [Effect.isRoutine]

namespace Loop

/-- A loss puts the next attempt off at its end, after nothing but routine. -/
theorem lose_effects {loop : Loop} (now : Nat) (unarmed : loop.reconnect = none) :
    ∃ first, Routine first ∧ (loop.lose now).effects = first ++ [.armed loop.backoff.next] := by
  simp only [lose, unarmed]
  refine ⟨_, ?_, rfl⟩
  rw [routine_append, closingEffects]
  constructor <;> split <;> simp [Effect.isRoutine]

end Loop

def LoopEvent.isRefusal : LoopEvent → Bool
  | .connectFailed => true
  | _ => false

def LoopEvent.isConnection : LoopEvent → Bool
  | .connected _ => true
  | _ => false

namespace Reaction

variable {r : Reaction} {phase : Phase}

/-- Something was lost: an attempt failed, or a handshake did not get the loop online, or the
connection that was online is so no more. -/
inductive Lost (r : Reaction) : Prop
  | refused (attempting : r.loop.attempting = true) (event : r.event = .connectFailed)
  | interrupted (handshake : r.Handshake) (offline : r.statusAfter = .offline)
  | dropped (online : r.loop.status = .online) (offline : r.statusAfter = .offline)

/-- The time of an attempt that was put off has come. -/
def Retries (r : Reaction) : Prop :=
  r.event = .reconnectDue ∧ r.loop.reconnect.isSome = true

theorem handshake_iff : r.Handshake ↔ (r.loop.attempting && r.event.isConnection) = true := by
  rw [Handshake, Bool.and_eq_true]
  cases r.event <;> simp [LoopEvent.isConnection]

instance : Decidable r.Handshake :=
  decidable_of_iff' _ handshake_iff

theorem lost_iff_or :
    r.Lost ↔
      (r.loop.attempting && r.event.isRefusal) = true ∨
        (r.Handshake ∨ r.loop.status = .online) ∧ r.statusAfter = .offline := by
  have hrefusal : r.event.isRefusal = true ↔ r.event = .connectFailed := by
    cases r.event <;> simp [LoopEvent.isRefusal]
  rw [Bool.and_eq_true, hrefusal]
  constructor
  · rintro (⟨attempting, event⟩ | ⟨handshake, offline⟩ | ⟨online, offline⟩)
    · exact Or.inl ⟨attempting, event⟩
    · exact Or.inr ⟨Or.inl handshake, offline⟩
    · exact Or.inr ⟨Or.inr online, offline⟩
  · rintro (⟨attempting, event⟩ | ⟨handshake | online, offline⟩)
    · exact .refused attempting event
    · exact .interrupted handshake offline
    · exact .dropped online offline

instance : Decidable r.Lost :=
  decidable_of_iff' _ lost_iff_or

/-- The loop deals with a loss exactly if something was lost. -/
theorem lost_iff (hphase : r.loop.IsIn phase) : r.Lost ↔ ∃ turn, r.verdict = .loses turn := by
  constructor
  · rintro (⟨attempting, event⟩ | ⟨handshake, offline⟩ | ⟨online, offline⟩)
    · refine ⟨⟨{ r.loop with attempting := false }, []⟩, ?_⟩
      rw [verdict, event, Loop.react, if_pos attempting]
    · by_contra kept
      have honline := handshake.statusAfter (not_exists.mp kept)
      exact absurd (offline.symm.trans honline) (by decide)
    · apply And.right
      apply (change?_eq_closed hphase).mp
      rw [change?, online, offline]
      rfl
  · rintro ⟨turn, hturn⟩
    have hoffline := statusAfter_of_loses hphase hturn
    cases hstatus : r.loop.status with
    | online => exact .dropped hstatus hoffline
    | offline =>
      have hreacts := hturn ▸ r.reacts
      by_cases handshake : r.Handshake
      · exact .interrupted handshake hoffline
      generalize hevent : r.event = event at hreacts
      cases hreacts with
      | refused attempting => exact .refused attempting hevent
      | unannounced topic handler online => exact absurd (hstatus.symm.trans online) (by decide)
      | unsent offers online => exact absurd (hstatus.symm.trans online) (by decide)
      | flushCut budget attempting => exact absurd ⟨attempting, budget, hevent⟩ handshake
      | replayCut budget attempting => exact absurd ⟨attempting, budget, hevent⟩ handshake
      | hungUp listening =>
        have honline := (hphase.online_of_listening listening).online
        exact absurd (hstatus.symm.trans honline) (by decide)

/-- The losses since the last handshake that come before the loss of a reaction, if there is one. -/
def lossesBefore (r : Reaction) (earlier : Nat) : Nat :=
  if r.Handshake then 0 else earlier

/-- The losses since the last handshake after a reaction. -/
def lossesAfter (r : Reaction) (earlier : Nat) : Nat :=
  r.lossesBefore earlier + if r.Lost then 1 else 0

end Reaction

/-- How many losses there were since the last handshake, or since the start if there was none. -/
def lossesSinceHandshake (history : List Reaction) : Nat :=
  history.foldl (fun (earlier : Nat) (r : Reaction) => r.lossesAfter earlier) 0

theorem lossesSinceHandshake_snoc (history : List Reaction) (r : Reaction) :
    lossesSinceHandshake (history ++ [r]) = r.lossesAfter (lossesSinceHandshake history) := by
  rw [lossesSinceHandshake, List.foldl_append]
  rfl

namespace Reaction

variable {r : Reaction} {phase : Phase}

/-- Nothing is put off before a loss is dealt with. -/
theorem delaysOf_verdict (r : Reaction) : delaysOf r.verdict.effects = [] := by
  by_cases hasked : r.event = .command .summarize
  · rw [verdict_of_summarize hasked]
    rfl
  by_cases hdue : r.event = .reconnectDue
  · rw [verdict_of_reconnectDue hdue]
    split <;> rfl
  · exact (r.reacts.routine hasked hdue).delaysOf

/-- What a loss comes to: the next attempt is put off by the next delay, and the one after it will be
put off by the delay after that. -/
theorem Lost.outcome (h : r.Lost) (hphase : r.loop.IsIn phase) :
    ∃ next, r.outcome.task = .running next ∧
      delaysOf r.effects = [(r.loop.backoffAt r.event).next] ∧
      next.reconnect = some (Clock.afterOrFar r.now (r.loop.backoffAt r.event).next) ∧
      next.backoff = (r.loop.backoffAt r.event).take.2 := by
  obtain ⟨turn, hturn⟩ := (lost_iff hphase).mp h
  have hunarmed := (hturn ▸ r.reacts).unarmed_of_loses hphase
  have hbackoff : turn.loop.backoff = r.loop.backoffAt r.event :=
    (r.reacts.timersAt (by rw [hturn]; rfl)).backoff
  obtain ⟨first, hroutine, hloss⟩ := turn.loop.lose_effects r.now hunarmed
  refine ⟨(turn.loop.lose r.now).loop, by rw [outcome_eq, hturn]; rfl, ?_, ?_, ?_⟩
  · rw [effects_eq, delaysOf_append, delaysOf_verdict, List.nil_append, hturn,
      Verdict.lossEffects, hloss, delaysOf_append, hroutine.delaysOf, hbackoff]
    rfl
  · rw [Loop.lose, hunarmed, ← hbackoff]
    rfl
  · rw [Loop.lose, hunarmed, ← hbackoff]

theorem delaysOf_of_kept (hphase : r.loop.IsIn phase) (kept : ¬ r.Lost) :
    delaysOf r.effects = [] := by
  have hno : r.verdict.lossEffects r.now = [] := by
    cases hverdict : r.verdict with
    | loses turn => exact absurd ((lost_iff hphase).mpr ⟨turn, hverdict⟩) kept
    | _ => rfl
  rw [effects_eq, hno, List.append_nil, delaysOf_verdict]

/-- Whatever goes on without a loss keeps the delays, and the time of the next attempt as well unless
that has come. -/
theorem backoff_of_kept {next : Loop} (hphase : r.loop.IsIn phase) (kept : ¬ r.Lost)
    (h : r.outcome.task = .running next) :
    next.backoff = r.loop.backoffAt r.event ∧ next.reconnect = r.loop.reconnectAt r.event := by
  rcases running_cases h with ⟨turn, hturn, rfl⟩ | ⟨turn, hturn, rfl⟩
  · have htimers := r.reacts.timersAt (by rw [hturn]; rfl)
    exact ⟨htimers.backoff, htimers.reconnect⟩
  · exact absurd ((lost_iff hphase).mpr ⟨turn, hturn⟩) kept

/-- An attempt begins when the time of one has come that was put off, and at no other time. -/
theorem attemptsIn_effects (hphase : r.loop.IsIn phase) :
    (r.Retries → attemptsIn r.effects = 1) ∧ (¬ r.Retries → attemptsIn r.effects = 0) := by
  constructor
  · rintro ⟨hdue, harmed⟩
    have hverdict := verdict_of_reconnectDue hdue
    rw [if_pos harmed] at hverdict
    rw [effects_eq, hverdict]
    rfl
  · intro hother
    have hfirst : attemptsIn r.verdict.effects = 0 := by
      by_cases hasked : r.event = .command .summarize
      · rw [verdict_of_summarize hasked]
        rfl
      by_cases hdue : r.event = .reconnectDue
      · rw [verdict_of_reconnectDue hdue, if_neg fun harmed => hother ⟨hdue, harmed⟩]
        rfl
      · exact (r.reacts.routine hasked hdue).attemptsIn
    have hlater : attemptsIn (r.verdict.lossEffects r.now) = 0 := by
      cases hverdict : r.verdict with
      | loses turn =>
        have hunarmed := (hverdict ▸ r.reacts).unarmed_of_loses hphase
        obtain ⟨first, hroutine, hloss⟩ := turn.loop.lose_effects r.now hunarmed
        rw [Verdict.lossEffects, hloss, attemptsIn_append, hroutine.attemptsIn]
        rfl
      | _ => rfl
    rw [effects_eq, attemptsIn_append, hfirst, hlater]

/-- A handshake sets the delays back, and everything else leaves them as they are. -/
theorem isAfter_backoffAt {least most : Duration} {earlier : Nat}
    (h : r.loop.backoff.IsAfter least most earlier) :
    (r.loop.backoffAt r.event).IsAfter least most (r.lossesBefore earlier) := by
  by_cases handshake : r.Handshake
  · obtain ⟨attempting, budget, hevent⟩ := id handshake
    rw [lossesBefore, if_pos handshake, hevent, Loop.backoffAt, if_pos attempting]
    exact h.reset
  · have hsame : r.loop.backoffAt r.event = r.loop.backoff := by
      unfold Loop.backoffAt
      split
      · next budget hevent =>
        exact if_neg fun attempting => handshake ⟨attempting, budget, hevent⟩
      · rfl
    rw [lossesBefore, if_neg handshake, hsame]
    exact h

end Reaction

namespace Run

variable {config : LoopConfig} {history : List Reaction} {task : Task}

/-- The backoff counts the losses since the last handshake. -/
theorem backoff_isAfter (run : Run config history task) {least most : Duration}
    (bounds : config.backoff = Backoff.ofBounds least most) :
    ∀ loop, task = .running loop →
      loop.backoff.IsAfter least most (lossesSinceHandshake history) := by
  induction run with
  | start now =>
    intro loop hloop
    obtain ⟨sweep, rfl⟩ := Loop.start_running hloop
    rw [bounds]
    exact Backoff.isAfter_ofBounds least most
  | @react history r before ih =>
    intro next hnext
    obtain ⟨phase, hphase⟩ := before.exists_phase r.loop rfl
    have hcount := Reaction.isAfter_backoffAt (ih r.loop rfl)
    rw [lossesSinceHandshake_snoc, Reaction.lossesAfter]
    by_cases hlost : r.Lost
    · obtain ⟨other, hother, _, _, hbackoff⟩ := hlost.outcome hphase
      obtain rfl := Task.running.inj (hother.symm.trans hnext)
      rw [if_pos hlost, hbackoff]
      exact hcount.take
    · rw [if_neg hlost, (Reaction.backoff_of_kept hphase hlost hnext).1]
      exact hcount

/-- An attempt that is put off was put off by the last loss, and nothing has come of it since. -/
theorem exists_loss (run : Run config history task) :
    ∀ loop due, task = .running loop → loop.reconnect = some due →
      ∃ early loss between delay, history = early ++ loss :: between ∧ loss.Lost ∧
        delaysOf loss.effects = [delay] ∧ due = Clock.afterOrFar loss.now delay ∧
        ∀ q ∈ between, ¬ q.Lost ∧ ¬ q.Retries := by
  induction run with
  | start now =>
    intro loop due hloop hdue
    obtain ⟨sweep, rfl⟩ := Loop.start_running hloop
    exact absurd hdue (by simp)
  | @react history r before ih =>
    intro next due hnext hdue
    obtain ⟨phase, hphase⟩ := before.exists_phase r.loop rfl
    by_cases hlost : r.Lost
    · obtain ⟨other, hother, hdelays, harmed, _⟩ := hlost.outcome hphase
      obtain rfl := Task.running.inj (hother.symm.trans hnext)
      have hsame := Option.some.inj (hdue.symm.trans harmed)
      exact ⟨history, r, [], _, rfl, hlost, hdelays, hsame, List.forall_mem_nil _⟩
    · have harmed := (Reaction.backoff_of_kept hphase hlost hnext).2
      rw [hdue] at harmed
      have hidle : ¬ r.Retries := by
        rintro ⟨hevent, _⟩
        rw [hevent] at harmed
        exact absurd harmed (by simp [Loop.reconnectAt])
      have hbefore : r.loop.reconnect = some due := by
        unfold Loop.reconnectAt at harmed
        split at harmed
        · exact absurd harmed (by simp)
        · exact harmed.symm
      obtain ⟨early, loss, between, delay, rfl, hloss, hdelays, hwhen, hquiet⟩ :=
        ih r.loop due rfl hbefore
      refine ⟨early, loss, between ++ [r], delay, by simp, hloss, hdelays, hwhen, ?_⟩
      rw [List.forall_mem_append, List.forall_mem_singleton]
      exact ⟨hquiet, hlost, hidle⟩

/-- The delays follow the backoff in every run.  The first attempt begins at the start.  From then on
every loss puts the next attempt off, once, by the smallest delay doubled for each loss since the last
handshake, or by the largest delay; nothing but a loss puts anything off.  An attempt begins when the
time has come that the last loss has set, once, and never otherwise. -/
theorem delays_follow_backoff (run : Run config history task) {least most : Duration}
    (bounds : config.backoff = Backoff.ofBounds least most) :
    (∀ now loop, (Loop.start config now).task = .running loop →
      attemptsIn (Loop.start config now).effects = 1 ∧
        delaysOf (Loop.start config now).effects = [] ∧ loop.reconnect = none) ∧
      ∀ before r later, history = before ++ r :: later →
        (r.Lost →
          ∃ delay next, delaysOf r.effects = [delay] ∧
            delay.nanos =
              Backoff.nthDelay least most (r.lossesBefore (lossesSinceHandshake before)) ∧
            r.outcome.task = .running next ∧
            next.reconnect = some (Clock.afterOrFar r.now delay)) ∧
          (¬ r.Lost → delaysOf r.effects = []) ∧
          (r.Retries → attemptsIn r.effects = 1) ∧
          (¬ r.Retries → attemptsIn r.effects = 0) ∧
          ∀ due, r.loop.reconnect = some due →
            ∃ early loss between delay, before = early ++ loss :: between ∧ loss.Lost ∧
              delaysOf loss.effects = [delay] ∧ due = Clock.afterOrFar loss.now delay ∧
              ∀ q ∈ between, ¬ q.Lost ∧ ¬ q.Retries := by
  constructor
  · intro now loop hloop
    unfold Loop.start at hloop ⊢
    cases hinitial : Loop.initial? config now with
    | none =>
      rw [hinitial] at hloop
      exact absurd hloop (by simp)
    | some initial =>
      rw [hinitial] at hloop
      obtain ⟨sweep, hsweep, rfl⟩ := Option.map_eq_some_iff.mp hinitial
      obtain rfl := Task.running.inj hloop
      exact ⟨rfl, rfl, rfl⟩
  · intro before r later hhistory
    rw [hhistory] at run
    have hbefore := run.before
    obtain ⟨phase, hphase⟩ := hbefore.exists_phase r.loop rfl
    obtain ⟨hretries, hidle⟩ := Reaction.attemptsIn_effects hphase
    refine ⟨?_, Reaction.delaysOf_of_kept hphase, hretries, hidle, ?_⟩
    · intro hlost
      have hcount := Reaction.isAfter_backoffAt (hbefore.backoff_isAfter bounds r.loop rfl)
      obtain ⟨next, hnext, hdelays, harmed, _⟩ := hlost.outcome hphase
      exact ⟨_, next, hdelays, hcount.next_eq, hnext, harmed⟩
    · intro due hdue
      exact hbefore.exists_loss r.loop due rfl hdue

/-- From two seconds to five. -/
def steepBackoff : LoopConfig :=
  { LoopConfig.standard with backoff := .ofBounds (.ofSecs 2) (.ofSecs 5) }

/-- Three attempts fail; the fourth one succeeds, but the connection breaks before the frame that waits
is written; the fifth one fails. -/
def brokenAttempts : List (Nat × LoopEvent) :=
  let inSeconds : List (Nat × LoopEvent) :=
    [(0, .command (.emit "news" none none)), (0, .connectFailed), (2, .reconnectDue),
      (2, .connectFailed), (6, .reconnectDue), (6, .connectFailed), (11, .reconnectDue),
      (12, .connected (some 0)), (14, .reconnectDue), (15, .connectFailed)]
  inSeconds.map fun (timed : Nat × LoopEvent) => (timed.1 * 1000000000, timed.2)

theorem delays_follow_backoff_after_brokenAttempts :
    ∃ before r, (steepBackoff.replay brokenAttempts).1 = before ++ [r] ∧ r.Lost ∧
      before.flatMap (fun (q : Reaction) => (delaysOf q.effects).map Duration.secs) =
        [2, 4, 5, 2] ∧
      ∃ delay, delaysOf r.effects = [delay] ∧ delay.nanos = 4000000000 := by
  obtain ⟨a, b, c, d, e, f, g, h, i, r, hhistory, attempting, hevent, hdelays, hearlier⟩ :
      ∃ a b c d e f g h i r,
        (steepBackoff.replay brokenAttempts).1 = [a, b, c, d, e, f, g, h, i] ++ [r] ∧
          r.loop.attempting = true ∧ r.event = .connectFailed ∧
          [a, b, c, d, e, f, g, h, i].flatMap
              (fun (q : Reaction) => (delaysOf q.effects).map Duration.secs) = [2, 4, 5, 2] ∧
          Backoff.nthDelay (.ofSecs 2) (.ofSecs 5)
              (r.lossesBefore (lossesSinceHandshake [a, b, c, d, e, f, g, h, i])) =
            4000000000 :=
    ⟨_, _, _, _, _, _, _, _, _, _, rfl, rfl, rfl, rfl, rfl⟩
  have hrun := steepBackoff.run_replay brokenAttempts
  have hlost : r.Lost := .refused attempting hevent
  obtain ⟨delay, _, hdelay, hnanos, _⟩ :=
    ((delays_follow_backoff hrun rfl).2 _ r [] hhistory).1 hlost
  exact ⟨_, r, hhistory, hlost, hdelays, delay, hdelay, hnanos.trans hearlier⟩

end Run

end EventLink
