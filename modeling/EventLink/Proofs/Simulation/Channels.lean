import EventLink.Simulation.Script
import Mathlib.Data.List.Induction
/-!
Which request has which channel.

A request that begins gets the next channel, and nothing else that happens in a world counts as one.  So
no two requests of a script have the same channel, though they may have the same name.
-/
namespace EventLink

namespace World

variable (w : World)

@[simp]
theorem channels_finish (channel : Nat) (result : ReplyShape → Except ClientError Json.Value) :
    (w.finish channel result).channels = w.channels := by
  unfold finish
  split <;> rfl

@[simp]
theorem channels_perform (effect : Effect) : (w.perform effect).channels = w.channels := by
  cases effect with
  | replied channel data => exact w.channels_finish channel _
  | abandoned channel => exact w.channels_finish channel _
  | _ => rfl

/-- What keeps the count in every step keeps it in all of them. -/
theorem channels_foldl {α : Type} {step : World → α → World}
    (kept : ∀ (w : World) (a : α), (step w a).channels = w.channels) (items : List α) :
    (items.foldl step w).channels = w.channels := by
  induction items generalizing w with
  | nil => rfl
  | cons a rest ih => rw [List.foldl_cons, ih, kept]

@[simp]
theorem channels_accept (outcome : Outcome) : (w.accept outcome).channels = w.channels := by
  have hafter : (outcome.effects.foldl perform { w with task := outcome.task }).channels =
      w.channels := channels_foldl _ channels_perform _
  unfold accept
  split
  · exact (channels_foldl _ (fun w _ => w.channels_finish _ _) _).trans hafter
  · exact hafter

@[simp]
theorem channels_feed (event : LoopEvent) : (w.feed event).channels = w.channels := by
  unfold feed
  split
  · exact w.channels_accept _
  · rfl

@[simp]
theorem channels_takeCommands (count : Nat) : (takeCommands count w).channels = w.channels := by
  induction count generalizing w with
  | zero => rfl
  | succ count ih =>
    unfold takeCommands
    split
    · rw [ih, channels_feed]
    · rfl

@[simp]
theorem channels_takeAll : w.takeAll.channels = w.channels :=
  w.channels_takeCommands _

@[simp]
theorem channels_settle : w.settle.channels = w.channels := by
  unfold settle
  dsimp only
  split <;> simp

@[simp]
theorem channels_ring (alarm : Nat × Alarm) : (w.ring alarm).channels = w.channels := by
  unfold ring
  dsimp only
  split <;> simp

@[simp]
theorem channels_ringUntil (time count : Nat) :
    (ringUntil time count w).channels = w.channels := by
  induction count generalizing w with
  | zero => rfl
  | succ count ih =>
    unfold ringUntil
    split
    · rfl
    · split
      · rw [ih, channels_ring]
      · rfl

@[simp]
theorem channels_pass (ms : Nat) : (w.pass ms).channels = w.channels := by
  simp [pass]

@[simp]
theorem channels_deliverAll (messages : List Message) :
    (w.deliverAll messages).channels = w.channels := by
  induction messages generalizing w with
  | nil => rfl
  | cons message rest ih =>
    unfold deliverAll
    split
    · rw [ih, channels_takeAll, channels_feed]
    · rfl

theorem channels_serve (ready : Bool) {act : World → World} (kept : (act w).channels = w.channels) :
    (w.serve ready act).2.channels = w.channels := by
  unfold serve
  split
  · exact (act w).channels_settle.trans kept
  · rfl

@[simp]
theorem channels_submit (handle : Nat) (command : Command) :
    (w.submit handle command).2.channels = w.channels := by
  unfold submit
  split
  · rfl
  · split
    · rfl
    · exact channels_settle _

@[simp]
theorem channels_cancel (name : String) : (w.cancel name).2.channels = w.channels := by
  unfold cancel
  split
  · rfl
  · exact channels_settle _

theorem channels_begin (topic name : String) (data : Option Json.Value) (shape : ReplyShape) :
    (w.begin topic name data shape).channels = w.channels + 1 := by
  unfold World.begin
  dsimp only
  split
  · rfl
  · split <;> rfl

/-- A request that begins through a handle takes the next channel. -/
theorem channels_request {handle : Nat} (held : w.hasHandle handle = true) (topic name : String)
    (data : Option Json.Value) (shape : ReplyShape) :
    (w.act (.request handle topic name data shape)).2.channels = w.channels + 1 := by
  unfold act
  dsimp only
  rw [if_pos held]
  exact (channels_settle _).trans (w.channels_begin topic name data shape)

theorem le_channels_act (action : Action) : w.channels ≤ (w.act action).2.channels := by
  cases action with
  | request handle topic name data shape =>
    by_cases held : w.hasHandle handle = true
    · rw [w.channels_request held]
      exact Nat.le_succ _
    · have hrefused : (w.act (.request handle topic name data shape)).2.channels = w.channels := by
        unfold act
        dsimp only
        rw [if_neg held]
      exact Nat.le_of_eq hrefused.symm
  | clone handle =>
    unfold act
    dsimp only
    split <;> exact Nat.le_refl _
  | shutdown =>
    simp only [act, shutdown]
    split <;> exact Nat.le_refl _
  | _ => simp [act, answer, channels_serve]

theorem follow_snoc (script : List Action) (action : Action) :
    (w.follow (script ++ [action])).2 =
      (((w.follow script).2.act action).2.report ((w.follow script).2.act action).1).2 := by
  induction script generalizing w with
  | nil => rfl
  | cons first rest ih => exact ih _

theorem run_snoc (client : Client) (script : List Action) (action : Action) :
    (World.run client (script ++ [action])).2 =
      (((World.run client script).2.act action).2.report
        ((World.run client script).2.act action).1).2 :=
  follow_snoc _ script action

/-- The script begins the request of that name that has that channel at that time. -/
def Begins (client : Client) (script : List Action) (name : String) (channel since : Nat) : Prop :=
  ∃ first handle topic data shape rest,
    script = first ++ .request handle topic name data shape :: rest ∧
      (World.run client first).2.hasHandle handle = true ∧
      (World.run client first).2.channels = channel ∧ (World.run client first).2.clock = since

namespace Begins

variable {client : Client} {script : List Action} {name other : String} {channel since later : Nat}

theorem snoc (begins : Begins client script name channel since) (action : Action) :
    Begins client (script ++ [action]) name channel since := by
  obtain ⟨first, handle, topic, data, shape, rest, rfl, hbegun⟩ := begins
  exact ⟨first, handle, topic, data, shape, rest ++ [action], by simp, hbegun⟩

/-- A request begins at the end of a script or before. -/
theorem of_snoc {action : Action} (begins : Begins client (script ++ [action]) name channel since) :
    Begins client script name channel since ∨
      ∃ handle topic data shape, action = .request handle topic name data shape ∧
        (World.run client script).2.hasHandle handle = true ∧
        (World.run client script).2.channels = channel ∧
        (World.run client script).2.clock = since := by
  obtain ⟨first, handle, topic, data, shape, rest, hsplit, hbegun⟩ := begins
  cases rest using List.reverseRecOn with
  | nil =>
    obtain ⟨rfl, hlast⟩ := List.append_inj' hsplit rfl
    exact .inr ⟨handle, topic, data, shape, (List.cons.inj hlast).1, hbegun⟩
  | append_singleton rest last =>
    rw [← List.cons_append, ← List.append_assoc] at hsplit
    obtain ⟨rfl, _⟩ := List.append_inj' hsplit rfl
    exact .inl ⟨first, handle, topic, data, shape, rest, rfl, hbegun⟩

theorem not_nil : ¬ Begins client [] name channel since := by
  rintro ⟨first, handle, topic, data, shape, rest, hsplit, _⟩
  exact absurd hsplit (by simp)

/-- The channels of the requests that have begun are behind the count. -/
theorem lt_channels (begins : Begins client script name channel since) :
    channel < (World.run client script).2.channels := by
  induction script using List.reverseRecOn with
  | nil => exact absurd begins not_nil
  | append_singleton script action ih =>
    rw [run_snoc]
    rcases begins.of_snoc with earlier | ⟨handle, topic, data, shape, rfl, held, rfl, _⟩
    · exact Nat.lt_of_lt_of_le (ih earlier) (le_channels_act _ action)
    · exact Nat.lt_of_lt_of_eq (Nat.lt_succ_self _)
        ((World.run client script).2.channels_request held topic name data shape).symm

/-- A channel belongs to one request. -/
theorem unique (begins : Begins client script name channel since)
    (begins' : Begins client script other channel later) : other = name ∧ later = since := by
  induction script using List.reverseRecOn with
  | nil => exact absurd begins not_nil
  | append_singleton script action ih =>
    rcases begins.of_snoc with earlier | ⟨handle, topic, data, shape, rfl, _, hchannel, rfl⟩
    · rcases begins'.of_snoc with earlier' | ⟨_, _, _, _, _, _, hchannel', _⟩
      · exact ih earlier earlier'
      · exact absurd hchannel'.symm (Nat.ne_of_lt earlier.lt_channels)
    · rcases begins'.of_snoc with earlier' | ⟨_, _, _, _, hsame, _, _, rfl⟩
      · exact absurd hchannel.symm (Nat.ne_of_lt earlier'.lt_channels)
      · cases hsame
        exact ⟨rfl, rfl⟩

end Begins

end World

end EventLink
