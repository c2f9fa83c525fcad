import EventLink.Proofs.Loop.Fate
import EventLink.Proofs.Simulation.Channels
/-!
How requests end.

A request ends with the reply to it, or when its caller gives up, or because nothing will come through
its channel any more.  The last happens when the loop has stopped, and also in a sweep, while the loop
goes on: a request that has waited for as long as a reply may take is told that the client is closed.
-/
namespace EventLink

open Json (Value)

/-- The channel through which the reply to a command is to come. -/
def Command.channel? : Command → Option Nat
  | emit _ _ (some (.channel number)) => some number
  | _ => none

def LoopEvent.channel? (event : LoopEvent) : Option Nat :=
  event.command?.bind Command.channel?

namespace World

variable {client : Client} {born : String → Nat → Nat → Prop} {now later : Nat} {w next : World}

/-- Why the request of a name that has a channel may end with an error.  It is given when it began. -/
inductive MayFail (client : Client) (born : String → Nat → Nat → Prop) (now : Nat) (w : World)
    (name : String) (channel : Nat) : ClientError → Prop
  | timeout (limited : client.requestTimeout.isSome = true) :
    MayFail client born now w name channel .timeout
  | misfit (misfit : Misfit) : MayFail client born now w name channel misfit.error
  | stopped (stopped : w.task.isAlive = false) : MayFail client born now w name channel .clientClosed
  | expired (lifetime : Duration) (since : Nat)
      (limited : client.config.replyLifetime = some lifetime) (begun : born name channel since)
      (late : since + lifetime.nanos ≤ now) : MayFail client born now w name channel .clientClosed

/-- What holds in a world at a time: what its loop has been through, which channels are in use, and how
long the requests have waited. -/
structure Sound (client : Client) (born : String → Nat → Nat → Prop) (now : Nat) (w : World) :
    Prop where
  same : w.client = client
  clock : w.clock = now
  run : ∀ loop, w.task = .running loop → ∃ history, Run client.config history (.running loop)
  queued : ∀ command ∈ w.queue, ∀ channel, command.channel? = some channel → channel < w.channels
  waiting : ∀ loop, w.task = .running loop → ∀ waiter ∈ loop.replies.waiters, ∀ channel,
    waiter.recipient = .channel channel → channel < w.channels
  begun : ∀ r ∈ w.requests, ∃ since, born r.name r.channel since ∧ since ≤ now ∧
    ∀ loop, w.task = .running loop → ∀ waiter ∈ loop.replies.waiters,
      waiter.recipient = .channel r.channel → since ≤ waiter.since
  limited : ∀ r ∈ w.requests, r.deadline.isSome = true → client.requestTimeout.isSome = true
  ended : ∀ f ∈ w.notes.finished, ∀ e, f.result = .error e →
    MayFail client born now w f.name f.channel e

/-- A world in which nothing was asked for since another one. -/
structure Keeps (w next : World) : Prop where
  client : next.client = w.client
  task : ∀ loop, next.task = .running loop → w.task = .running loop
  stopped : w.task.isAlive = false → next.task.isAlive = false
  queue : ∀ command ∈ next.queue, ∀ channel, command.channel? = some channel → command ∈ w.queue
  requests : next.requests ⊆ w.requests
  channels : w.channels ≤ next.channels

namespace Keeps

/-- What is neither in the loop nor in its queue nor waits asks for nothing. -/
theorem of_eq (client : next.client = w.client) (task : next.task = w.task)
    (queue : next.queue = w.queue) (requests : next.requests = w.requests)
    (channels : next.channels = w.channels) : w.Keeps next where
  client := client
  task _ h := task ▸ h
  stopped h := task ▸ h
  queue _ h _ _ := queue ▸ h
  requests := requests ▸ List.Subset.refl _
  channels := channels ▸ Nat.le_refl _

theorem refl (w : World) : w.Keeps w :=
  of_eq rfl rfl rfl rfl rfl

theorem trans {last : World} (first : w.Keeps next) (second : next.Keeps last) :
    w.Keeps last where
  client := second.client.trans first.client
  task loop hloop := first.task loop (second.task loop hloop)
  stopped h := second.stopped (first.stopped h)
  queue command hcommand channel hchannel :=
    first.queue command (second.queue command hcommand channel hchannel) channel hchannel
  requests := List.Subset.trans second.requests first.requests
  channels := Nat.le_trans first.channels second.channels

end Keeps

theorem MayFail.mono {name : String} {channel : Nat} {e : ClientError}
    (h : MayFail client born now w name channel e) (le : now ≤ later)
    (stopped : w.task.isAlive = false → next.task.isAlive = false) :
    MayFail client born later next name channel e := by
  cases h with
  | timeout limited => exact .timeout limited
  | misfit misfit => exact .misfit misfit
  | stopped h => exact .stopped (stopped h)
  | expired lifetime since limited begun late =>
    exact .expired lifetime since limited begun (Nat.le_trans late le)

/-- Whatever asks for nothing keeps the world sound, if it can account for the requests that end. -/
theorem Sound.of_keeps (sound : Sound client born now w) (keeps : w.Keeps next) (le : now ≤ later)
    (clock : next.clock = later)
    (ended : ∀ f ∈ next.notes.finished, f ∈ w.notes.finished ∨
      ∀ e, f.result = .error e → MayFail client born later next f.name f.channel e) :
    Sound client born later next where
  same := keeps.client.trans sound.same
  clock := clock
  run loop hloop := sound.run loop (keeps.task loop hloop)
  queued command hcommand channel hchannel :=
    Nat.lt_of_lt_of_le
      (sound.queued command (keeps.queue command hcommand channel hchannel) channel hchannel)
      keeps.channels
  waiting loop hloop waiter hwaiter channel hchannel :=
    Nat.lt_of_lt_of_le (sound.waiting loop (keeps.task loop hloop) waiter hwaiter channel hchannel)
      keeps.channels
  begun r hr := by
    obtain ⟨since, hborn, hsince, hwaiters⟩ := sound.begun r (keeps.requests hr)
    refine ⟨since, hborn, Nat.le_trans hsince le, ?_⟩
    intro loop hloop
    exact hwaiters loop (keeps.task loop hloop)
  limited r hr := sound.limited r (keeps.requests hr)
  ended f hf e he := by
    rcases ended f hf with hold | hnew
    · exact (sound.ended f hold e he).mono le keeps.stopped
    · exact hnew e he

/-- Whatever asks for nothing, takes no time and ends no request keeps the world sound. -/
theorem Sound.of_quiet (sound : Sound client born now w) (keeps : w.Keeps next)
    (clock : next.clock = w.clock) (finished : next.notes.finished = w.notes.finished) :
    Sound client born now next :=
  sound.of_keeps keeps (Nat.le_refl now) (clock.trans sound.clock) fun _ hf => .inl (finished ▸ hf)

theorem Sound.noteFinished (sound : Sound client born now w) {name : String} {channel : Nat}
    {result : Except ClientError Value}
    (may : ∀ e, result = .error e → MayFail client born now w name channel e) :
    Sound client born now (w.noteFinished name channel result) := by
  refine sound.of_keeps (.of_eq rfl rfl rfl rfl rfl) (Nat.le_refl now) sound.clock ?_
  intro f hf
  rcases List.mem_append.mp hf with hold | hnew
  · exact .inl hold
  · obtain rfl := List.mem_singleton.mp hnew
    exact .inr fun e he => (may e he).mono (Nat.le_refl now) id

theorem keeps_without (w : World) (channel : Nat) :
    w.Keeps { w with
      requests := w.requests.filter fun (r : Request) => r.channel != channel } :=
  ⟨rfl, fun _ => id, id, fun _ h _ _ => h, List.filter_subset_self _, Nat.le_refl _⟩

theorem keeps_finish (w : World) (channel : Nat)
    (result : ReplyShape → Except ClientError Value) : w.Keeps (w.finish channel result) := by
  unfold World.finish
  split
  · exact .refl w
  · exact (w.keeps_without channel).trans (.of_eq rfl rfl rfl rfl rfl)

theorem Sound.finish (sound : Sound client born now w) {channel : Nat}
    {result : ReplyShape → Except ClientError Value}
    (may : ∀ r ∈ w.requests, r.channel = channel → ∀ e, result r.shape = .error e →
      MayFail client born now w r.name r.channel e) :
    Sound client born now (w.finish channel result) := by
  unfold World.finish
  split
  · exact sound
  · next request hfound =>
    have hchannel : request.channel = channel := by simpa using List.find?_some hfound
    have hrest := sound.of_quiet (w.keeps_without channel) rfl rfl
    refine hrest.noteFinished ?_
    intro e he
    exact (may request (List.mem_of_find?_eq_some hfound) hchannel e he).mono (Nat.le_refl now) id

/-- What a handler asks for is no request. -/
theorem channel?_of_mem_commands {handler : Handler} {command : Command}
    (h : command ∈ handler.commands) : command.channel? = none := by
  rw [Handler.commands, List.mem_append, Option.mem_toList, Option.mem_toList] at h
  rcases h with hemit | hon
  · obtain ⟨topic, _, rfl⟩ := Option.map_eq_some_iff.mp hemit
    rfl
  · obtain ⟨topic, _, rfl⟩ := Option.map_eq_some_iff.mp hon
    unfold Command.on
    split <;> rfl

/-- No effect of the loop asks for anything that has a reply. -/
theorem keeps_perform (w : World) (effect : Effect) : w.Keeps (w.perform effect) := by
  cases effect with
  | called c =>
    refine ⟨rfl, fun _ => id, id, ?_, List.Subset.refl _, Nat.le_refl _⟩
    intro command hcommand channel hchannel
    rcases List.mem_append.mp hcommand with hold | hnew
    · exact hold
    · split at hnew
      · exact absurd ((channel?_of_mem_commands hnew).symm.trans hchannel) (by simp)
      · exact absurd hnew List.not_mem_nil
  | replied channel data => exact w.keeps_finish channel _
  | abandoned channel =>
    exact w.keeps_finish channel fun (_ : ReplyShape) => .error .clientClosed
  | _ => exact .of_eq rfl rfl rfl rfl rfl

theorem Sound.perform (sound : Sound client born now w) {effect : Effect}
    (told : ∀ channel, effect = .abandoned channel → ∀ r ∈ w.requests, r.channel = channel →
      MayFail client born now w r.name r.channel .clientClosed) :
    Sound client born now (w.perform effect) := by
  cases effect with
  | replied channel data =>
    refine sound.finish ?_
    intro r _ _ e he
    unfold replyResult at he
    split at he
    · cases he
    · next misfit _ =>
      obtain rfl := Except.error.inj he
      exact .misfit misfit
  | abandoned channel =>
    change Sound client born now (w.finish channel fun (_ : ReplyShape) => .error .clientClosed)
    refine sound.finish ?_
    intro r hr hchannel e he
    obtain rfl := Except.error.inj he
    exact told channel rfl r hr hchannel
  | _ => exact sound.of_quiet (w.keeps_perform _) rfl rfl

theorem keeps_performAll (w : World) (effects : List Effect) :
    w.Keeps (effects.foldl World.perform w) := by
  induction effects generalizing w with
  | nil => exact .refl w
  | cons effect rest ih => exact (w.keeps_perform effect).trans (ih _)

/-- Effects of the loop keep the world sound, if those who are told that nothing will come may be told
so. -/
theorem Sound.performAll (sound : Sound client born now w) {effects : List Effect}
    (told : ∀ channel, .abandoned channel ∈ effects → ∀ r ∈ w.requests, r.channel = channel →
      MayFail client born now w r.name r.channel .clientClosed) :
    Sound client born now (effects.foldl World.perform w) := by
  induction effects generalizing w with
  | nil => exact sound
  | cons effect rest ih =>
    have hkeeps := w.keeps_perform effect
    refine ih (sound.perform ?_) ?_
    · rintro channel rfl
      exact told channel List.mem_cons_self
    · intro channel hmem r hr hchannel
      have hmay := told channel (List.mem_cons_of_mem _ hmem) r (hkeeps.requests hr) hchannel
      exact hmay.mono (Nat.le_refl now) hkeeps.stopped

/-- When the loop has stopped, every request may be told so. -/
theorem Sound.closeRequests (sound : Sound client born now w)
    (stopped : w.task.isAlive = false) :
    Sound client born now w.closeRequests := by
  unfold World.closeRequests
  generalize w.requests = requests
  induction requests generalizing w with
  | nil => exact sound
  | cons r rest ih =>
    refine ih (sound.finish ?_) ((w.keeps_finish r.channel _).stopped stopped)
    intro r _ _ e he
    obtain rfl := Except.error.inj he
    exact .stopped stopped

theorem Sound.accept {outcome : Outcome}
    (sound : Sound client born now { w with task := outcome.task })
    (told : ∀ channel, .abandoned channel ∈ outcome.effects → ∀ r ∈ w.requests,
      r.channel = channel →
        MayFail client born now { w with task := outcome.task } r.name r.channel .clientClosed) :
    Sound client born now (w.accept outcome) := by
  have hafter := sound.performAll told
  unfold World.accept
  split
  · next hcrashed =>
    have hkeeps := keeps_performAll { w with task := outcome.task } outcome.effects
    refine Sound.closeRequests (hafter.of_quiet ?_ rfl rfl) ?_
    · exact ⟨rfl, fun _ => id, id, fun _ h => absurd h List.not_mem_nil, List.Subset.refl _,
        Nat.le_refl _⟩
    · refine hkeeps.stopped ?_
      rw [hcrashed]
      rfl
  · exact hafter

/-- The world as the loop leaves it, before the effects of its reaction happen. -/
theorem Sound.react (sound : Sound client born now w) (r : Reaction)
    (running : w.task = .running r.loop) (time : r.now = now)
    (known : ∀ channel, r.event.channel? = some channel → channel < w.channels) :
    Sound client born now { w with task := r.outcome.task } := by
  refine ⟨sound.same, sound.clock, ?_, sound.queued, ?_, ?_, sound.limited, ?_⟩
  · intro next hnext
    obtain ⟨history, hrun⟩ := sound.run r.loop running
    exact ⟨history ++ [r], hnext ▸ hrun.react⟩
  · intro next hnext waiter hwaiter channel hchannel
    rcases Reaction.old_or_asked hnext hwaiter with hold | ⟨_, topic, data, hevent⟩
    · exact sound.waiting r.loop running waiter hold channel hchannel
    · refine known channel ?_
      rw [hevent, hchannel]
      rfl
  · intro request hrequest
    obtain ⟨since, hborn, hsince, hearlier⟩ := sound.begun request hrequest
    refine ⟨since, hborn, hsince, ?_⟩
    intro next hnext waiter hwaiter hchannel
    rcases Reaction.old_or_asked hnext hwaiter with hold | ⟨hnow, _⟩
    · exact hearlier r.loop running waiter hold hchannel
    · rw [hnow, time]
      exact hsince
  · intro f hf e he
    refine (sound.ended f hf e he).mono (Nat.le_refl now) ?_
    intro hstopped
    rw [running] at hstopped
    cases hstopped

/-- Whoever is told by the running loop that nothing will come has waited for as long as a reply may
take, or waits no more. -/
theorem Sound.told (sound : Sound client born now w) (r : Reaction)
    (running : w.task = .running r.loop) (time : r.now = now) (gone : r.gone = w.isGone)
    {channel : Nat} (told : .abandoned channel ∈ r.effects) {request : Request}
    (waits : request ∈ w.requests) (same : request.channel = channel) (next : World) :
    MayFail client born now next request.name request.channel .clientClosed := by
  obtain ⟨history, hrun⟩ := sound.run r.loop running
  obtain ⟨waiter, hwaiter, hrecipient, hwhy⟩ := Reaction.of_abandoned (hrun.distinct r.loop rfl) told
  rcases hwhy with hexpired | hgone
  · obtain ⟨since, hborn, hsince, hearlier⟩ := sound.begun request waits
    have hlater := hearlier r.loop running waiter hwaiter (same ▸ hrecipient)
    rw [ReplyTable.isExpired, hrun.lifetime_eq r.loop rfl, time] at hexpired
    split at hexpired
    · next lifetime hlifetime =>
      have hlate : lifetime.nanos ≤ now - waiter.since := by simpa using hexpired
      exact .expired lifetime since hlifetime hborn (by omega)
    · exact absurd hexpired Bool.false_ne_true
  · rw [gone, isGone, Bool.not_eq_true', List.any_eq_false] at hgone
    exact absurd (beq_iff_eq.mpr same) (hgone request waits)

/-- The reaction of the loop to an event keeps the world sound, if its channel is in use. -/
theorem Sound.feed (sound : Sound client born now w) {event : LoopEvent}
    (known : ∀ channel, event.channel? = some channel → channel < w.channels) :
    Sound client born now (w.feed event) := by
  unfold World.feed
  split
  · next loop hloop =>
    let r : Reaction := ⟨loop, w.clock, w.isGone, event⟩
    refine Sound.accept (sound.react r hloop sound.clock known) ?_
    intro channel htold request hrequest hchannel
    exact sound.told r hloop sound.clock rfl htold hrequest hchannel _
  · exact sound

theorem Sound.takeCommands (sound : Sound client born now w) (count : Nat) :
    Sound client born now (takeCommands count w) := by
  induction count generalizing w with
  | zero => exact sound
  | succ count ih =>
    unfold World.takeCommands
    split
    · next command rest _ hqueue =>
      have hpopped : Sound client born now { w with queue := rest } := by
        refine sound.of_quiet ?_ rfl rfl
        refine ⟨rfl, fun _ => id, id, ?_, List.Subset.refl _, Nat.le_refl _⟩
        intro asked hasked _ _
        exact hqueue ▸ List.mem_cons_of_mem _ hasked
      refine ih (hpopped.feed ?_)
      intro channel hchannel
      exact sound.queued command (hqueue ▸ List.mem_cons_self) channel hchannel
    · exact sound

/-- Events that are no commands name no channel. -/
theorem Sound.feed_plain (sound : Sound client born now w) {event : LoopEvent}
    (plain : event.command? = none) : Sound client born now (w.feed event) := by
  refine sound.feed ?_
  intro channel hchannel
  rw [LoopEvent.channel?, plain] at hchannel
  cases hchannel

theorem Sound.settle (sound : Sound client born now w) : Sound client born now w.settle := by
  have hidle : Sound client born now w.takeAll := sound.takeCommands w.demand
  unfold World.settle
  dsimp only
  split
  · exact hidle
  · exact hidle.feed_plain rfl

theorem earliest_mem {alarms : List (Nat × Alarm)} {alarm : Nat × Alarm}
    (h : earliest alarms = some alarm) : alarm ∈ alarms := by
  induction alarms with
  | nil => cases h
  | cons first rest ih =>
    unfold earliest at h
    split at h
    · obtain rfl := Option.some.inj h
      exact List.mem_cons_self
    · next other hother =>
      split at h
      · obtain rfl := Option.some.inj h
        exact List.mem_cons_self
      · obtain rfl := Option.some.inj h
        exact List.mem_cons_of_mem _ (ih hother)

/-- An alarm is a timer of the loop, or a request whose time is limited. -/
theorem mem_alarms {alarm : Nat × Alarm} (h : alarm ∈ w.alarms) :
    (∃ event, alarm.2 = .timer event ∧ event.command? = none) ∨
      ∃ r ∈ w.requests, alarm.2 = .timeout r.channel ∧ r.deadline.isSome = true := by
  rcases List.mem_append.mp h with htimer | htimeout
  · split at htimer
    · obtain ⟨timer, hmem, rfl⟩ := List.mem_map.mp htimer
      refine .inl ⟨timer.2, rfl, ?_⟩
      simp only [Loop.timers, List.mem_append, Option.mem_toList, Option.map_eq_some_iff,
        List.mem_singleton] at hmem
      rcases hmem with (⟨_, _, rfl⟩ | ⟨_, _, rfl⟩) | rfl <;> rfl
    · exact absurd htimer List.not_mem_nil
  · obtain ⟨r, hr, halarm⟩ := List.mem_filterMap.mp htimeout
    obtain ⟨time, htime, rfl⟩ := Option.map_eq_some_iff.mp halarm
    exact .inr ⟨r, hr, rfl, by rw [htime]; rfl⟩

theorem Sound.ring (sound : Sound client born now w) {alarm : Nat × Alarm}
    (h : alarm ∈ w.alarms) : Sound client born (max now alarm.1) (w.ring alarm) := by
  have hwoken : Sound client born (max now alarm.1) { w with clock := max w.clock alarm.1 } := by
    refine sound.of_keeps ?_ (Nat.le_max_left ..) (by rw [sound.clock]) fun _ => .inl
    exact .of_eq rfl rfl rfl rfl rfl
  rcases mem_alarms h with ⟨event, hevent, hplain⟩ | ⟨r, hr, hevent, hlimited⟩
  · rw [World.ring, hevent]
    exact (hwoken.feed_plain hplain).settle
  · rw [World.ring, hevent]
    refine (hwoken.finish ?_).settle
    intro request _ _ e he
    obtain rfl := Except.error.inj he
    exact .timeout (sound.limited r hr hlimited)

theorem Sound.ringUntil (sound : Sound client born now w) {time : Nat} (le : now ≤ time)
    (count : Nat) :
    ∃ latest, now ≤ latest ∧ latest ≤ time ∧ Sound client born latest (ringUntil time count w) := by
  induction count generalizing w now with
  | zero => exact ⟨now, Nat.le_refl now, le, sound⟩
  | succ count ih =>
    unfold World.ringUntil
    split
    · exact ⟨now, Nat.le_refl now, le, sound⟩
    · next alarm halarm =>
      split
      · next hdue =>
        obtain ⟨latest, hnow, htime, hlatest⟩ :=
          ih (sound.ring (earliest_mem halarm)) (Nat.max_le.mpr ⟨le, hdue⟩)
        exact ⟨latest, Nat.le_trans (Nat.le_max_left ..) hnow, htime, hlatest⟩
      · exact ⟨now, Nat.le_refl now, le, sound⟩

theorem Sound.pass (sound : Sound client born now w) (ms : Nat) :
    Sound client born (now + ms * 1000000) (w.pass ms) := by
  unfold World.pass
  rw [sound.clock]
  obtain ⟨latest, _, htime, hlatest⟩ :=
    sound.ringUntil (Nat.le_add_right now (ms * 1000000)) (3 * (ms + 2) + w.requests.length)
  refine hlatest.of_keeps ?_ htime rfl fun _ => .inl
  exact .of_eq rfl rfl rfl rfl rfl

theorem Sound.deliverAll (sound : Sound client born now w) (messages : List Message) :
    Sound client born now (w.deliverAll messages) := by
  induction messages generalizing w with
  | nil => exact sound
  | cons message rest ih =>
    unfold World.deliverAll
    split
    · exact ih ((sound.feed_plain rfl).takeCommands _)
    · exact sound

theorem Sound.weaken (sound : Sound client born now w) {more : String → Nat → Nat → Prop}
    (weaker : ∀ name channel since, born name channel since → more name channel since) :
    Sound client more now w where
  same := sound.same
  clock := sound.clock
  run := sound.run
  queued := sound.queued
  waiting := sound.waiting
  begun r hr := by
    obtain ⟨since, hborn, hrest⟩ := sound.begun r hr
    exact ⟨since, weaker _ _ _ hborn, hrest⟩
  limited := sound.limited
  ended f hf e he := by
    cases sound.ended f hf e he with
    | timeout limited => exact .timeout limited
    | misfit misfit => exact .misfit misfit
    | stopped stopped => exact .stopped stopped
    | expired lifetime since limited begun late =>
      exact .expired lifetime since limited (weaker _ _ _ begun) late

/-- A command may be sent if the channel that it names is in use. -/
theorem Sound.enqueue (sound : Sound client born now w) {command : Command}
    (known : ∀ channel, command.channel? = some channel → channel < w.channels) :
    Sound client born now { w with queue := w.queue ++ [command] } where
  same := sound.same
  clock := sound.clock
  run := sound.run
  queued asked hasked channel hchannel := by
    rcases List.mem_append.mp hasked with hold | hnew
    · exact sound.queued asked hold channel hchannel
    · obtain rfl := List.mem_singleton.mp hnew
      exact known channel hchannel
  waiting := sound.waiting
  begun := sound.begun
  limited := sound.limited
  ended f hf e he := (sound.ended f hf e he).mono (Nat.le_refl now) id

theorem Sound.submit (sound : Sound client born now w) (handle : Nat) {command : Command}
    (plain : command.channel? = none) : Sound client born now (w.submit handle command).2 := by
  unfold World.submit
  split
  · exact sound
  · split
    · exact sound
    · refine (sound.enqueue ?_).settle
      intro channel hchannel
      exact absurd (plain.symm.trans hchannel) (by simp)

/-- A request may begin to wait at a channel for whose reply nobody waits yet. -/
theorem Sound.await (sound : Sound client born now w) {r : Request}
    (begun : born r.name r.channel now)
    (fresh : ∀ loop, w.task = .running loop → ∀ waiter ∈ loop.replies.waiters,
      waiter.recipient ≠ .channel r.channel)
    (limited : r.deadline.isSome = true → client.requestTimeout.isSome = true) :
    Sound client born now { w with requests := w.requests ++ [r] } where
  same := sound.same
  clock := sound.clock
  run := sound.run
  queued := sound.queued
  waiting := sound.waiting
  begun request hrequest := by
    rcases List.mem_append.mp hrequest with hold | hnew
    · exact sound.begun request hold
    · obtain rfl := List.mem_singleton.mp hnew
      refine ⟨now, begun, Nat.le_refl now, ?_⟩
      intro loop hloop waiter hwaiter hchannel
      exact absurd hchannel (fresh loop hloop waiter hwaiter)
  limited request hrequest hdeadline := by
    rcases List.mem_append.mp hrequest with hold | hnew
    · exact sound.limited request hold hdeadline
    · obtain rfl := List.mem_singleton.mp hnew
      exact limited hdeadline
  ended f hf e he := (sound.ended f hf e he).mono (Nat.le_refl now) id

/-- A request begins with a channel of its own. -/
theorem Sound.begin (sound : Sound client born now w) (topic : String) {name : String}
    (data : Option Value) (shape : ReplyShape) (begun : born name w.channels now) :
    Sound client born now (w.begin topic name data shape) := by
  let noted : World :=
    { w with
      channels := w.channels + 1
      known := (name, w.channels) :: w.known.filter fun (k : String × Nat) => k.1 != name }
  have hnoted : Sound client born now noted := by
    refine sound.of_quiet ?_ rfl rfl
    exact ⟨rfl, fun _ => id, id, fun _ h _ _ => h, List.Subset.refl _, Nat.le_succ _⟩
  have hsent : Sound client born now
      { noted with queue := w.queue ++ [.emit topic data (some (.channel w.channels))] } := by
    refine hnoted.enqueue ?_
    intro channel hchannel
    obtain rfl := Option.some.inj hchannel
    exact Nat.lt_succ_self _
  have hlimited (h : w.deadline?.isSome = true) : client.requestTimeout.isSome = true := by
    rwa [deadline?, Option.isSome_map, sound.same] at h
  unfold World.begin
  dsimp only
  split
  · next hstopped =>
    refine hnoted.noteFinished ?_
    intro e he
    obtain rfl := Except.error.inj he
    exact .stopped (by simpa using hstopped)
  · split
    · next hnow =>
      refine hsent.noteFinished ?_
      intro e he
      obtain rfl := Except.error.inj he
      obtain ⟨time, htime, _⟩ := (Option.any_eq_true _ _).mp hnow
      exact .timeout (hlimited (by rw [htime]; rfl))
    · refine hsent.await begun ?_ hlimited
      intro loop hloop waiter hwaiter hchannel
      exact absurd (sound.waiting loop hloop waiter hwaiter _ hchannel) (Nat.lt_irrefl _)

theorem Sound.cancel (sound : Sound client born now w) (name : String) :
    Sound client born now (w.cancel name).2 := by
  unfold World.cancel
  split
  · exact sound
  · next channel _ =>
    have hrest := sound.of_quiet (w.keeps_without channel) rfl rfl
    refine Sound.settle (hrest.of_quiet ?_ rfl rfl)
    exact .of_eq rfl rfl rfl rfl rfl

theorem Sound.shutdown (sound : Sound client born now w) : Sound client born now w.shutdown := by
  have hreleased : Sound client born now (if w.isConnected then w.noteWire .drop else w) := by
    split
    · exact sound.of_quiet (.of_eq rfl rfl rfl rfl rfl) rfl rfl
    · exact sound
  refine hreleased.of_quiet ?_ rfl rfl
  refine ⟨rfl, ?_, fun _ => rfl, fun _ h => absurd h List.not_mem_nil, List.nil_subset _,
    Nat.le_refl _⟩
  intro loop hloop
  cases hloop

theorem Sound.serve (sound : Sound client born now w) (ready : Bool) {act : World → World}
    (acted : Sound client born now (act w)) : Sound client born now (w.serve ready act).2 := by
  unfold World.serve
  split
  · exact acted.settle
  · exact sound

/-- Every step of a script keeps the world sound.  A request that it begins through a handle gets the
next channel, and begins at the time of the step. -/
theorem Sound.act (sound : Sound client born now w) (action : Action)
    (begun : ∀ handle topic name data shape,
      action = .request handle topic name data shape → w.hasHandle handle = true →
        born name w.channels now) :
    ∃ later, now ≤ later ∧ Sound client born later (w.act action).2 := by
  have hon (topic : String) (handler : Handler) : (Command.on topic handler).channel? = none := by
    unfold Command.on
    split <;> rfl
  cases action with
  | pass ms => exact ⟨_, Nat.le_add_right now _, sound.pass ms⟩
  | accept budget => exact ⟨now, Nat.le_refl now, sound.serve _ (sound.feed_plain rfl)⟩
  | reject => exact ⟨now, Nat.le_refl now, sound.serve _ (sound.feed_plain rfl)⟩
  | deliver messages => exact ⟨now, Nat.le_refl now, sound.serve _ (sound.deliverAll messages)⟩
  | failWrites budget => exact ⟨now, Nat.le_refl now, sound.serve _ (sound.feed_plain rfl)⟩
  | on handle topic handler => exact ⟨now, Nat.le_refl now, sound.submit handle (hon topic handler)⟩
  | onOpen handle handler => exact ⟨now, Nat.le_refl now, sound.submit handle rfl⟩
  | onClose handle handler => exact ⟨now, Nat.le_refl now, sound.submit handle rfl⟩
  | emit handle topic data => exact ⟨now, Nat.le_refl now, sound.submit handle rfl⟩
  | emitCallback handle topic data handler =>
    exact ⟨now, Nat.le_refl now, sound.submit handle rfl⟩
  | request handle topic name data shape =>
    refine ⟨now, Nat.le_refl now, ?_⟩
    unfold World.act
    dsimp only
    split
    · next held => exact (sound.begin topic data shape (begun _ _ _ _ _ rfl held)).settle
    · exact sound
  | clone handle =>
    refine ⟨now, Nat.le_refl now, ?_⟩
    unfold World.act
    dsimp only
    split
    · exact sound.of_quiet (.of_eq rfl rfl rfl rfl rfl) rfl rfl
    · exact sound
  | url handle => exact ⟨now, Nat.le_refl now, sound⟩
  | diagnostic handle => exact ⟨now, Nat.le_refl now, sound⟩
  | drop handle =>
    refine ⟨now, Nat.le_refl now, Sound.settle (sound.of_quiet ?_ rfl rfl)⟩
    exact .of_eq rfl rfl rfl rfl rfl
  | cancel name => exact ⟨now, Nat.le_refl now, sound.cancel name⟩
  | shutdown => exact ⟨now, Nat.le_refl now, sound.shutdown⟩

/-- New notes account for nothing. -/
theorem Sound.report (sound : Sound client born now w) (answer : Answer) :
    Sound client born now (w.report answer).2 := by
  refine sound.of_keeps ?_ (Nat.le_refl now) sound.clock fun f hf => absurd hf List.not_mem_nil
  exact .of_eq rfl rfl rfl rfl rfl

theorem Sound.ofClient (client : Client) (born : String → Nat → Nat → Prop) :
    Sound client born 0 (World.ofClient client) := by
  have hsilent (channel : Nat) :
      .abandoned channel ∉ (Loop.start client.config 0).effects := by
    unfold Loop.start
    split
    · simp [Loop.conclude, Loop.beginAttempt]
    · exact List.not_mem_nil
  have hstart {loop : Loop} (h : (Loop.start client.config 0).task = .running loop) :
      loop.replies.waiters = [] := by
    obtain ⟨sweep, rfl⟩ := Loop.start_running h
    rfl
  unfold World.ofClient
  refine (Sound.accept ?_ ?_).settle
  · refine ⟨rfl, rfl, ?_, by simp, ?_, by simp, by simp, by simp [Notes.empty]⟩
    · intro loop hloop
      exact ⟨[], hloop ▸ Run.start 0⟩
    · intro loop hloop waiter hwaiter
      rw [hstart hloop] at hwaiter
      exact absurd hwaiter List.not_mem_nil
  · intro channel htold
    exact absurd htold (hsilent channel)

theorem Sound.followed {script : List Action}
    (sound : Sound client (Begins client script) now (World.run client script).2) (action : Action) :
    ∃ later, Sound client (Begins client (script ++ [action])) later
      ((World.run client script).2.act action).2 := by
  have hmore := sound.weaken fun _ _ _ begins => begins.snoc action
  obtain ⟨later, _, hlater⟩ := hmore.act action <| by
    rintro handle topic name data shape rfl held
    exact ⟨script, handle, topic, data, shape, [], rfl, held, rfl, sound.clock⟩
  exact ⟨later, hlater⟩

theorem sound_run (client : Client) (script : List Action) :
    ∃ now, Sound client (Begins client script) now (World.run client script).2 := by
  induction script using List.reverseRecOn with
  | nil => exact ⟨0, (Sound.ofClient client _).report .nothing⟩
  | append_singleton script action ih =>
    obtain ⟨now, hnow⟩ := ih
    obtain ⟨later, hlater⟩ := hnow.followed action
    exact ⟨later, run_snoc client script action ▸ hlater.report _⟩

/-- Why requests end with errors.  Whatever the client is made with, and whatever the server and the
users do: a request that ends with an error in a step timed out, if requests have a timeout at all, or
its reply did not have the shape that it should have, or its caller is told that the client is closed.
The loop has stopped then, or a reply may only take so long, and it has been as long as that since this
very request began. -/
theorem request_failures (client : Client) (script : List Action) (action : Action) :
    let next := ((World.run client script).2.act action).2
    ∀ f ∈ next.notes.finished, ∀ e, f.result = .error e →
      (e = .timeout ∧ client.requestTimeout.isSome = true) ∨
        (∃ misfit : Misfit, e = misfit.error) ∨
        (e = .clientClosed ∧
          (next.task.isAlive = false ∨
            ∃ lifetime since, client.config.replyLifetime = some lifetime ∧
              Begins client (script ++ [action]) f.name f.channel since ∧
              (∀ other later, Begins client (script ++ [action]) other f.channel later →
                other = f.name ∧ later = since) ∧
              since + lifetime.nanos ≤ next.clock)) := by
  intro next f hf e he
  obtain ⟨now, hnow⟩ := sound_run client script
  obtain ⟨later, hlater⟩ := hnow.followed action
  cases hlater.ended f hf e he with
  | timeout limited => exact .inl ⟨rfl, limited⟩
  | misfit misfit => exact .inr (.inl ⟨misfit, rfl⟩)
  | stopped stopped => exact .inr (.inr ⟨rfl, .inl stopped⟩)
  | expired lifetime since limited begun late =>
    refine .inr (.inr ⟨rfl, .inr ⟨lifetime, since, limited, begun, ?_, hlater.clock ▸ late⟩⟩)
    intro other later again
    exact begun.unique again

def errorOf (f : Finished) : Option ClientError :=
  match f.result with
  | .ok _ => none
  | .error e => some e

/-- A client whose requests have a timeout of fifty milliseconds, while a reply may take ten. -/
def hastyClient : Client :=
  ⟨"ws://host/ws/events", some (Duration.ofMillis 50),
    { LoopConfig.standard with replyLifetime := some (Duration.ofMillis 10) }, none⟩

/-- It is not true that the caller of a request is told that the client is closed only when the loop
has stopped: ten milliseconds after its beginning a request of `hastyClient` is swept out. -/
theorem not_closed_only_when_stopped :
    ¬ ∀ (client : Client) (script : List Action) (action : Action),
      let next := ((World.run client script).2.act action).2
      ∀ f ∈ next.notes.finished, f.result = .error .clientClosed →
        next.task.isAlive = false := by
  intro h
  have hclosed := h hastyClient [.request 0 "q" "r" none .anything] (.pass 100)
  dsimp only at hclosed
  have hended : (((World.run hastyClient [.request 0 "q" "r" none .anything]).2.act
      (.pass 100)).2.notes.finished.any fun (f : Finished) =>
        errorOf f = some .clientClosed) = true := by decide +kernel
  have hrunning : ((World.run hastyClient [.request 0 "q" "r" none .anything]).2.act
      (.pass 100)).2.task.isAlive = true := by decide +kernel
  obtain ⟨f, hf, herror⟩ := List.any_eq_true.mp hended
  have hresult : f.result = .error .clientClosed := by
    rw [decide_eq_true_iff, errorOf] at herror
    split at herror
    · cases herror
    · next e he => rw [he, Option.some.inj herror]
  exact absurd ((hclosed f hf hresult).symm.trans hrunning) (by decide)

end World

end EventLink
