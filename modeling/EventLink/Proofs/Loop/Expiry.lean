import EventLink.Proofs.Loop.Fate
import EventLink.Proofs.Loop.Timing
import EventLink.Reply.Session
/-!
How long those wait to whom no reply comes.

A sweep takes out who has waited as long as a reply may take, and who is not there any more.  Sweeps
come one after another, no further apart than their period, as long as the loop is never held up.  So
nobody goes on waiting for more than a period after the time was up.
-/
namespace EventLink

/-- The recipient has waited as long as a reply may take. -/
def Waiter.Expired (lifetime : Option Duration) (now : Nat) (w : Waiter) : Prop :=
  ∃ limit, lifetime = some limit ∧ limit.nanos ≤ now - w.since

/-- The recipient is a channel at whose other end nobody is left. -/
def Waiter.Deserted (gone : Nat → Bool) (w : Waiter) : Prop :=
  ∃ channel, w.recipient = .channel channel ∧ gone channel = true

namespace ReplyTable

variable {t : ReplyTable} {now : Nat} {gone : Nat → Bool} {w : Waiter}

theorem keeps_iff :
    t.keeps now gone w = true ↔ ¬ (w.Expired t.lifetime now ∨ w.Deserted gone) := by
  have hexpired : t.isExpired now w = true ↔ w.Expired t.lifetime now := by
    unfold isExpired Waiter.Expired
    cases t.lifetime <;> simp
  have hdeserted : isAbandoned gone w = true ↔ w.Deserted gone := by
    unfold isAbandoned Waiter.Deserted
    cases w.recipient <;> simp
  rw [keeps, ← hexpired, ← hdeserted]
  simp

theorem mem_swept_iff :
    w ∈ (t.sweep now gone).1 ↔
      w ∈ t.waiters ∧ (w.Expired t.lifetime now ∨ w.Deserted gone) := by
  rw [sweep, List.mem_filter, Bool.not_eq_true', ← Bool.not_eq_true, keeps_iff, not_not]

theorem mem_kept_iff :
    w ∈ (t.sweep now gone).2.waiters ↔
      w ∈ t.waiters ∧ ¬ (w.Expired t.lifetime now ∨ w.Deserted gone) := by
  rw [sweep, List.mem_filter, keeps_iff]

/-- Everybody is either swept out or kept. -/
theorem length_sweep (t : ReplyTable) (now : Nat) (gone : Nat → Bool) :
    (t.sweep now gone).1.length + (t.sweep now gone).2.size = t.size := by
  rw [Nat.add_comm, size, size]
  exact (List.length_eq_length_filter_add _).symm

end ReplyTable

namespace ReplySession

theorem table_foldl {step : ReplySession → Waiter → ReplySession}
    (keeps : ∀ s w, (step s w).table = s.table) (swept : List Waiter) (s : ReplySession) :
    (swept.foldl step s).table = s.table := by
  induction swept generalizing s with
  | nil => rfl
  | cons w rest ih => rw [List.foldl_cons, ih, keeps]

/-- A sweep of a session sweeps its table and counts those who are swept out. -/
theorem sweep_table (s : ReplySession) :
    s.sweep.1 = (s.table.sweep s.now s.isGone).1.length ∧
      s.sweep.2.table = (s.table.sweep s.now s.isGone).2 := by
  refine ⟨rfl, table_foldl ?_ _ _⟩
  intro s w
  split <;> rfl

end ReplySession

namespace Loop

/-- The timers that have gone off were dealt with. -/
def Settled (loop : Loop) (now : Nat) : Prop :=
  ∀ timer ∈ loop.timers, now < timer.1

theorem sweep_mem_timers (loop : Loop) : (loop.sweep.firesAt, LoopEvent.sweepDue) ∈ loop.timers :=
  List.mem_append_right _ (List.mem_singleton_self _)

theorem sweep_lose (loop : Loop) (now : Nat) : (loop.lose now).loop.sweep = loop.sweep := by
  unfold lose
  split <;> rfl

theorem sweep_of_start {config : LoopConfig} {now : Nat} {loop : Loop}
    (h : (start config now).task = .running loop) :
    Ticker.start? now (sweepPeriod config.replyLifetime) = some loop.sweep := by
  unfold start initial? at h
  cases hsweep : Ticker.start? now (sweepPeriod config.replyLifetime) with
  | none => simp [hsweep] at h
  | some sweep =>
    rw [hsweep] at h
    obtain rfl := Task.running.inj h
    rfl

end Loop

namespace Reaction

variable {r : Reaction} {next : Loop}

theorem sweep_eq (h : r.outcome.task = .running next) :
    next.sweep = r.loop.sweepAt r.now r.event := by
  have hreacts := r.reacts
  rcases running_cases h with ⟨turn, hverdict, rfl⟩ | ⟨turn, hverdict, rfl⟩
  · rw [hverdict] at hreacts
    exact (hreacts.timersAt rfl).sweep
  · rw [hverdict] at hreacts
    rw [Loop.sweep_lose]
    exact (hreacts.timersAt rfl).sweep

/-- A sweep is always followed by further reactions. -/
theorem running_of_sweep (h : r.event = .sweepDue) :
    r.outcome.task = .running (r.loop.sweepReplies r.now r.gone).loop := by
  rw [outcome, h]
  rfl

theorem swept_of_sweep (h : r.event = .sweepDue) :
    r.swept = (r.loop.replies.sweep r.now r.gone).1 := by
  rw [swept, h]

/-- Whom a sweep does not take out it keeps, in their order. -/
theorem waiters_of_sweep (h : r.event = .sweepDue) :
    (r.loop.sweepReplies r.now r.gone).loop.replies.waiters =
      r.loop.replies.waiters.filter fun (w : Waiter) => w ∉ r.swept := by
  rw [swept_of_sweep h]
  change (r.loop.replies.waiters.filter fun (w : Waiter) => r.loop.replies.keeps r.now r.gone w) = _
  refine List.filter_congr ?_
  intro w hw
  rw [Bool.eq_iff_iff, ReplyTable.keeps_iff, decide_eq_true_iff, ReplyTable.mem_swept_iff]
  exact not_congr ⟨fun hout => ⟨hw, hout⟩, And.right⟩

end Reaction

/-- The runs of a loop that is never held up, and the time that the clock shows.  Time does not go on
past a timer that has gone off before that is dealt with, and no timer goes off before it is due. -/
inductive PunctualRun (config : LoopConfig) : List Reaction → Task → Nat → Prop
  | start (now : Nat) (shown : now ≤ Clock.latest) :
    PunctualRun config [] (Loop.start config now).task now
  | wait {history : List Reaction} {task : Task} {now : Nat}
    (before : PunctualRun config history task now) (loop : Loop) (running : task = .running loop)
    (later : Nat) (passes : now ≤ later) (shown : later ≤ Clock.latest)
    (unheld : ∀ timer ∈ loop.timers, later ≤ timer.1) : PunctualRun config history task later
  | react {history : List Reaction} {task : Task} {now : Nat}
    (before : PunctualRun config history task now) (r : Reaction) (running : task = .running r.loop)
    (present : r.now = now) (inTime : r.InTime) :
    PunctualRun config (history ++ [r]) r.outcome.task now

namespace PunctualRun

variable {config : LoopConfig} {history : List Reaction} {task : Task} {now : Nat}

theorem run (punctual : PunctualRun config history task now) : Run config history task := by
  induction punctual with
  | start now => exact .start now
  | wait before loop running later passes shown unheld ih => exact ih
  | react before r running present inTime ih => exact .react r (running ▸ ih)

theorem shown (punctual : PunctualRun config history task now) : now ≤ Clock.latest := by
  induction punctual with
  | start now shown => exact shown
  | wait before loop running later passes shown unheld ih => exact shown
  | react before r running present inTime ih => exact ih

end PunctualRun

/-- What is known when the last sweep was at some time, or the start was and there has been no sweep:
the next sweep is due within a period, and who began to wait earlier was kept by the last sweep. -/
structure SweptAt (config : LoopConfig) (history : List Reaction) (loop : Loop) (now last : Nat) :
    Prop where
  period : loop.sweep.period.nanos = sweepNanos config.replyLifetime
  due : last + sweepNanos config.replyLifetime ≤ Clock.latest →
    loop.sweep.due ≤ last + sweepNanos config.replyLifetime
  unheld : now ≤ loop.sweep.firesAt
  past : last ≤ now
  begun : ∀ w ∈ loop.replies.waiters, w.since ≤ now
  kept : ∀ w ∈ loop.replies.waiters,
    last ≤ w.since ∨
      ∃ q ∈ history, q.now = last ∧ ¬ (w.Expired config.replyLifetime last ∨ w.Deserted q.gone)

namespace SweptAt

variable {config : LoopConfig} {history : List Reaction} {loop : Loop} {now last : Nat}

theorem of_start (running : (Loop.start config now).task = .running loop) :
    SweptAt config [] loop now now := by
  obtain ⟨hperiod, hdue⟩ := Ticker.of_start (Loop.sweep_of_start running)
  rw [nanos_sweepPeriod_eq] at hdue
  have hnobody : loop.replies.waiters = [] := by
    obtain ⟨sweep, rfl⟩ := Loop.start_running running
    rfl
  constructor
  case period => rw [hperiod, nanos_sweepPeriod_eq]
  case due => exact fun _ => Nat.le_of_eq hdue
  case unheld => exact Nat.le_trans (hdue ▸ Nat.le_add_right _ _) (Clock.le_wakeUp _)
  case past => exact Nat.le_refl now
  case begun => exact hnobody ▸ List.forall_mem_nil _
  case kept => exact hnobody ▸ List.forall_mem_nil _

theorem wait (h : SweptAt config history loop now last) {later : Nat} (passes : now ≤ later)
    (unheld : ∀ timer ∈ loop.timers, later ≤ timer.1) : SweptAt config history loop later last where
  period := h.period
  due := h.due
  unheld := unheld _ loop.sweep_mem_timers
  past := Nat.le_trans h.past passes
  begun := fun w hw => Nat.le_trans (h.begun w hw) passes
  kept := h.kept

/-- Anything but a sweep leaves the time of the next one as it is, and those who begin to wait do so
after the last one. -/
theorem react {r : Reaction} {next : Loop} (h : SweptAt config history r.loop r.now last)
    (running : r.outcome.task = .running next) (unswept : r.event ≠ .sweepDue) :
    SweptAt config (history ++ [r]) next r.now last := by
  have hsweep : next.sweep = r.loop.sweep := by
    rw [Reaction.sweep_eq running]
    unfold Loop.sweepAt
    split
    · next hevent => exact absurd hevent unswept
    · rfl
  constructor
  case period => rw [hsweep, h.period]
  case due => rw [hsweep]; exact h.due
  case unheld => rw [hsweep]; exact h.unheld
  case past => exact h.past
  case begun =>
    intro w hw
    rcases Reaction.old_or_asked running hw with hold | ⟨hnew, _⟩
    · exact h.begun w hold
    · exact Nat.le_of_eq hnew
  case kept =>
    intro w hw
    rcases Reaction.old_or_asked running hw with hold | ⟨hnew, _⟩
    · rcases h.kept w hold with hlater | ⟨q, hq, hkept⟩
      · exact .inl hlater
      · exact .inr ⟨q, List.mem_append_left _ hq, hkept⟩
    · exact .inl (hnew ▸ h.past)

/-- A sweep that comes no earlier than it is due puts the next one a period after itself, or less, and
keeps nobody who has waited for too long or is gone. -/
theorem sweep {r : Reaction} (h : SweptAt config history r.loop r.now last)
    (lifetime : r.loop.replies.lifetime = config.replyLifetime) (swept : r.event = .sweepDue)
    (inTime : r.InTime) :
    SweptAt config (history ++ [r]) (r.loop.sweepReplies r.now r.gone).loop r.now r.now := by
  have hdue := inTime.sweep_due_le swept
  have hkept : ∀ w ∈ (r.loop.replies.sweep r.now r.gone).2.waiters,
      w ∈ r.loop.replies.waiters ∧
        ¬ (w.Expired config.replyLifetime r.now ∨ w.Deserted r.gone) := by
    intro w hw
    rw [← lifetime]
    exact ReplyTable.mem_kept_iff.mp hw
  constructor
  case period =>
    change (r.loop.sweep.take r.now).period.nanos = _
    rw [Ticker.period_take, h.period]
  case due =>
    intro hshown
    rw [← h.period] at hshown ⊢
    change (r.loop.sweep.take r.now).due ≤ _
    rw [Ticker.due_take hdue (Nat.le_trans h.unheld (Ticker.firesAt_le _)) hshown]
    exact Nat.add_le_add_right hdue _
  case unheld =>
    have hspaced : 1000000 ≤ r.loop.sweep.period.nanos :=
      h.period ▸ (sweepNanos_bounds config.replyLifetime).1
    change r.now ≤ (r.loop.sweep.take r.now).firesAt
    exact Nat.le_trans (Ticker.le_due_of_prompt h.unheld hspaced) (Clock.le_wakeUp _)
  case past => exact Nat.le_refl _
  case begun => exact fun w hw => h.begun w (hkept w hw).1
  case kept =>
    intro w hw
    exact .inr ⟨r, List.mem_append_right _ (List.mem_singleton_self r), rfl, (hkept w hw).2⟩

/-- The next sweep comes within a period after the last one.  What is due by then is over by the whole
millisecond that follows. -/
theorem le_deadline (h : SweptAt config history loop now last) (shown : now ≤ Clock.latest)
    {deadline : Nat} (within : last + sweepNanos config.replyLifetime ≤ deadline)
    (whole : 1000000 ∣ deadline) :
    now ≤ deadline ∧ (loop.Settled now → now < deadline) := by
  by_cases hroom : last + sweepNanos config.replyLifetime ≤ Clock.latest
  · have hfires : loop.sweep.firesAt ≤ deadline := by
      rw [← Clock.wakeUp_of_dvd whole]
      exact Clock.wakeUp_mono (Nat.le_trans (h.due hroom) within)
    refine ⟨Nat.le_trans h.unheld hfires, ?_⟩
    intro hsettled
    exact Nat.lt_of_lt_of_le (hsettled _ loop.sweep_mem_timers) hfires
  · -- The clock never shows the time of another sweep, nor the deadline.
    exact ⟨by omega, fun _ => by omega⟩

/-- Whoever still waits had not waited too long at the last sweep. -/
theorem le_of_limit (h : SweptAt config history loop now last) {w : Waiter}
    (waits : w ∈ loop.replies.waiters) {limit : Duration}
    (limited : config.replyLifetime = some limit) : last ≤ w.since + limit.nanos := by
  rcases h.kept w waits with hlater | ⟨q, _, _, hkept⟩
  · exact Nat.le_trans hlater (Nat.le_add_right _ _)
  · have hyoung : ¬ limit.nanos ≤ last - w.since := fun hold => hkept (.inl ⟨limit, limited, hold⟩)
    omega

/-- Whoever still waits was not gone yet at the last sweep. -/
theorem le_of_left (h : SweptAt config history loop now last) {w : Waiter}
    (waits : w ∈ loop.replies.waiters) {channel left : Nat}
    (recipient : w.recipient = .channel channel)
    (gone : ∀ q ∈ history, left < q.now → q.gone channel = true) : last ≤ max w.since left := by
  rcases h.kept w waits with hlater | ⟨q, hq, rfl, hkept⟩
  · exact Nat.le_trans hlater (Nat.le_max_left _ _)
  · have hthere : ¬ left < q.now := fun hleft => hkept (.inr ⟨channel, recipient, gone q hq hleft⟩)
    omega

end SweptAt

namespace PunctualRun

variable {config : LoopConfig} {history : List Reaction} {task : Task} {now : Nat}

/-- At every point of a run some sweep was the last one. -/
theorem exists_sweptAt (punctual : PunctualRun config history task now) :
    ∀ loop, task = .running loop → ∃ last, SweptAt config history loop now last := by
  induction punctual with
  | start now shown => exact fun loop running => ⟨now, .of_start running⟩
  | wait before loop running later passes shown unheld ih =>
    intro same hsame
    obtain rfl := Task.running.inj (running.symm.trans hsame)
    obtain ⟨last, hlast⟩ := ih loop running
    exact ⟨last, hlast.wait passes unheld⟩
  | react before r running present inTime ih =>
    intro next hnext
    obtain ⟨last, hlast⟩ := ih r.loop running
    rw [← present] at hlast ⊢
    by_cases hswept : r.event = .sweepDue
    · have hlifetime := before.run.lifetime_eq r.loop running
      obtain rfl := Task.running.inj ((Reaction.running_of_sweep hswept).symm.trans hnext)
      exact ⟨r.now, hlast.sweep hlifetime hswept inTime⟩
    · exact ⟨last, hlast.react hnext hswept⟩

theorem since_le (punctual : PunctualRun config history task now) {r : Reaction}
    (hr : r ∈ history) {w : Waiter} (waits : w ∈ r.loop.replies.waiters) : w.since ≤ r.now := by
  induction punctual with
  | start now shown => exact absurd hr List.not_mem_nil
  | wait before loop running later passes shown unheld ih => exact ih hr
  | react before q running present inTime ih =>
    rcases List.mem_append.mp hr with hold | hnew
    · exact ih hold
    · obtain rfl := List.mem_singleton.mp hnew
      obtain ⟨last, hlast⟩ := before.exists_sweptAt r.loop running
      exact present ▸ hlast.begun w waits

/-- Nobody is swept out before the time is up, except those who are not there any more. -/
theorem of_swept (punctual : PunctualRun config history task now) {r : Reaction}
    (hr : r ∈ history) {w : Waiter} (swept : w ∈ r.swept) :
    w.Deserted r.gone ∨
      ∃ limit, config.replyLifetime = some limit ∧ w.since + limit.nanos ≤ r.now := by
  have hevent : r.event = .sweepDue := by
    by_contra hother
    exact absurd (Reaction.swept_of_ne hother ▸ swept) List.not_mem_nil
  rw [Reaction.swept_of_sweep hevent, ReplyTable.mem_swept_iff] at swept
  obtain ⟨waits, hexpired | hdeserted⟩ := swept
  · obtain ⟨limit, hlimit, hold⟩ := hexpired
    obtain ⟨first, hfirst⟩ := punctual.run.before_of_mem hr
    rw [hfirst.lifetime_eq r.loop rfl] at hlimit
    have hsince := punctual.since_le hr waits
    exact .inr ⟨limit, hlimit, by omega⟩
  · exact .inl hdeserted

/-- A sweep takes out exactly those who have waited as long as a reply may take or are not there any
more, and counts them.  In a loop that is never held up the waiting therefore has an end.  Whoever gets
no reply is taken out within a period of the sweeps after the time was up, and not before that as
long as it is there; whoever is not there any more is taken out within a period as well.  All of this
is exact to the whole millisecond.  If replies may take forever, no callback is ever taken out. -/
theorem expiry_exact_and_bounded (punctual : PunctualRun config history task now) :
    ((sweepPeriod config.replyLifetime).nanos = sweepNanos config.replyLifetime ∧
        sweepNanos config.replyLifetime ≤ 30000000000) ∧
      (∀ r ∈ history, r.event = .sweepDue →
        (∀ w, w ∈ r.swept ↔
          w ∈ r.loop.replies.waiters ∧
            (w.Expired config.replyLifetime r.now ∨ w.Deserted r.gone)) ∧
          ∃ next, r.outcome.task = .running next ∧
            next.replies.waiters =
              r.loop.replies.waiters.filter (fun (w : Waiter) => w ∉ r.swept) ∧
            r.swept.length + next.replies.size = r.loop.replies.size) ∧
      (∀ s : ReplySession, s.sweep.1 = (s.table.sweep s.now s.isGone).1.length ∧
        s.sweep.2.table = (s.table.sweep s.now s.isGone).2) ∧
      (∀ r ∈ history, ∀ w ∈ r.swept,
        w.Deserted r.gone ∨
          ∃ limit, config.replyLifetime = some limit ∧ w.since + limit.nanos ≤ r.now) ∧
      (config.replyLifetime = none →
        ∀ r ∈ history, ∀ w ∈ r.swept, ∀ handler, w.recipient ≠ .callback handler) ∧
      ∀ loop, task = .running loop → ∀ w ∈ loop.replies.waiters, ∀ deadline, 1000000 ∣ deadline →
        (∀ limit, config.replyLifetime = some limit →
          w.since + limit.nanos + sweepNanos config.replyLifetime ≤ deadline →
            now ≤ deadline ∧ (loop.Settled now → now < deadline)) ∧
          ∀ channel left, w.recipient = .channel channel →
            (∀ q ∈ history, left < q.now → q.gone channel = true) →
              max w.since left + sweepNanos config.replyLifetime ≤ deadline →
                now ≤ deadline ∧ (loop.Settled now → now < deadline) := by
  refine ⟨⟨nanos_sweepPeriod_eq _, (sweepNanos_bounds _).2⟩, ?_, ReplySession.sweep_table,
    fun r hr w => punctual.of_swept hr, ?_, ?_⟩
  · intro r hr hevent
    obtain ⟨first, hfirst⟩ := punctual.run.before_of_mem hr
    rw [← hfirst.lifetime_eq r.loop rfl]
    refine ⟨?_, _, Reaction.running_of_sweep hevent, Reaction.waiters_of_sweep hevent, ?_⟩
    · intro w
      rw [Reaction.swept_of_sweep hevent, ReplyTable.mem_swept_iff]
    · rw [Reaction.swept_of_sweep hevent]
      exact r.loop.replies.length_sweep r.now r.gone
  · intro hunlimited r hr w hswept handler hcallback
    rcases punctual.of_swept hr hswept with ⟨channel, hchannel, _⟩ | ⟨limit, hlimit, _⟩
    · exact absurd (hcallback.symm.trans hchannel) (by simp)
    · exact absurd (hunlimited.symm.trans hlimit) (by simp)
  · intro loop hloop w hw deadline hwhole
    obtain ⟨last, hlast⟩ := punctual.exists_sweptAt loop hloop
    constructor
    · intro limit hlimit hdeadline
      have hearly := hlast.le_of_limit hw hlimit
      exact hlast.le_deadline punctual.shown (by omega) hwhole
    · intro channel left hrecipient hgone hdeadline
      have hearly := hlast.le_of_left hw hrecipient hgone
      exact hlast.le_deadline punctual.shown (by omega) hwhole

/-- A sweep comes before the time of a request is up, and the next one after it. -/
theorem expiry_exact_and_bounded_of_twoSweeps :
    (∃ history loop w, PunctualRun hasty history (.running loop) 10000000 ∧
        loop.replies.waiters = [w] ∧ w.since = 3000000 ∧
        10000000 ≤ w.since + 10000000 + sweepNanos hasty.replyLifetime) ∧
      ∃ history r w, PunctualRun hasty (history ++ [r]) r.outcome.task 20000000 ∧
        r.swept = [w] ∧ w.since = 3000000 ∧
        (w.Deserted r.gone ∨
          ∃ limit, hasty.replyLifetime = some limit ∧ w.since + limit.nanos ≤ r.now) := by
  have started : PunctualRun hasty _ _ 0 := .start 0 (by decide)
  have asked := (started.wait _ rfl 3000000 (by decide) (by decide) (by decide +kernel)).react
    ⟨_, 3000000, fun _ => false, .command (.emit "x" none (some (.callback (.plain "late"))))⟩
    rfl rfl (.of_command rfl)
  have kept := (asked.wait _ rfl 10000000 (by decide) (by decide) (by decide +kernel)).react
    ⟨_, 10000000, fun _ => false, .sweepDue⟩ rfl rfl (.of_sweep rfl (by decide +kernel))
  have swept := (kept.wait _ rfl 20000000 (by decide) (by decide) (by decide +kernel)).react
    ⟨_, 20000000, fun _ => false, .sweepDue⟩ rfl rfl (.of_sweep rfl (by decide +kernel))
  constructor
  · refine ⟨_, _, ⟨"a", .callback (.plain "late"), 3000000⟩, kept, by decide +kernel, rfl, ?_⟩
    exact ((kept.expiry_exact_and_bounded.2.2.2.2.2 _ rfl _ (List.mem_singleton_self _) _
      (by decide)).1 (.ofMillis 10) rfl (by decide)).1
  · refine ⟨_, _, ⟨"a", .callback (.plain "late"), 3000000⟩, swept, by decide +kernel, rfl, ?_⟩
    exact swept.expiry_exact_and_bounded.2.2.2.1 _ (List.mem_append_right _
      (List.mem_singleton_self _)) _ (by decide +kernel)

end PunctualRun

end EventLink
