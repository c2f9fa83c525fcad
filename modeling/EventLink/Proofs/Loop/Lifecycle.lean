import Mathlib.Data.List.Perm.Basic
import EventLink.Proofs.Loop.Audience
import EventLink.Proofs.Loop.Calls
/-!
Those who watch the connection.

A watcher is called once for every change of the status that it waits for, from its registration on,
and once more at its registration if the connection is online already.  Attempts that fail, opening
sequences that break off and frames from the server call no watcher.
-/
namespace EventLink

open Json (Value)

namespace Loop

variable {loop : Loop} {now : Nat} {gone : Nat → Bool} {event : LoopEvent} {verdict : Verdict}

theorem Offers.not_connected {ready : Loop} {frame : OutgoingFrame} {effects : List Effect}
    (offers : loop.Offers now event ready frame effects) (budget : Option Nat) :
    event ≠ .connected budget := by
  cases offers <;> simp

/-- A handshake after which nothing is lost gets the loop online, even if the loop panics then. -/
theorem Reacts.online_of_handshake {budget : Option Nat}
    (h : loop.Reacts now gone (.connected budget) verdict) (attempting : loop.attempting = true)
    (kept : ∀ turn, verdict ≠ .loses turn) :
    (conclude now verdict).task.statusAfter loop.status = .online := by
  cases h with
  | passed impossible => exact absurd (attempting.symm.trans impossible) (by decide)
  | buffered offers => exact absurd rfl (offers.not_connected budget)
  | sent offers => exact absurd rfl (offers.not_connected budget)
  | unsent offers => exact absurd rfl (kept _)
  | flushCut => exact absurd rfl (kept _)
  | replayCut => exact absurd rfl (kept _)
  | opened => rfl
  | overflowed => rfl

/-- Without a handshake and without a loss the status stays as it is. -/
theorem Reacts.status_eq (h : loop.Reacts now gone event verdict)
    (plain : ¬ (loop.attempting = true ∧ ∃ budget, event = .connected budget))
    (kept : ∀ turn, verdict ≠ .loses turn) :
    (conclude now verdict).task.statusAfter loop.status = loop.status := by
  cases h with
  | opened budget attempting => exact absurd ⟨attempting, budget, rfl⟩ plain
  | overflowed budget attempting => exact absurd ⟨attempting, budget, rfl⟩ plain
  | buffered offers =>
    obtain ⟨replies, heartbeat, _, rfl⟩ := offers.ready_eq
    rfl
  | sent offers =>
    obtain ⟨replies, heartbeat, _, rfl⟩ := offers.ready_eq
    rfl
  | received => rename_i frame _ _; cases frame <;> rfl
  | unannounced => exact absurd rfl (kept _)
  | unsent => exact absurd rfl (kept _)
  | flushCut => exact absurd rfl (kept _)
  | replayCut => exact absurd rfl (kept _)
  | refused => exact absurd rfl (kept _)
  | hungUp => exact absurd rfl (kept _)
  | _ => rfl

end Loop

/-- A watcher, the moment that it waits for, and whether the connection was online when it was
registered. -/
structure Watch where
  event : LinkEvent
  call : Call
  online : Bool

/-- The call of a watcher at its registration, if what it waits for is there already. -/
def Watch.atOnce (watch : Watch) : List Call :=
  if watch.event = .opened ∧ watch.online = true then [watch.call] else []

namespace Reaction

variable {r : Reaction} {phase : Phase}

def statusAfter (r : Reaction) : LinkStatus :=
  r.outcome.task.statusAfter r.loop.status

def change? (r : Reaction) : Option LinkEvent :=
  LinkEvent.between? r.loop.status r.statusAfter

def watch? (r : Reaction) : Option Watch :=
  match r.event with
  | .command (.watch event call) => some ⟨event, call, r.loop.status.isOnline⟩
  | _ => none

/-- The calls of a reaction to those who watch the connection.  What a frame leads to is for others. -/
def watcherCalls (r : Reaction) : List Call :=
  match r.event with
  | .message message => if message.isData then [] else callsOf r.effects
  | _ => callsOf r.effects

theorem calls_eq (r : Reaction) (hphase : r.loop.IsIn phase) :
    callsOf r.effects =
      r.loop.callsAt r.event ++ r.loop.subscriptions.callsBetween r.loop.status r.statusAfter :=
  r.reacts.calls hphase

theorem statusAfter_of_loses (hphase : r.loop.IsIn phase) {turn : Turn}
    (h : r.verdict = .loses turn) : r.statusAfter = .offline := by
  have hunarmed := (h ▸ r.reacts).unarmed_of_loses hphase
  rw [statusAfter, outcome_eq, h]
  exact Loop.status_lose r.now hunarmed

theorem Handshake.statusAfter (h : r.Handshake) (kept : ∀ turn, r.verdict ≠ .loses turn) :
    r.statusAfter = .online := by
  obtain ⟨attempting, budget, hevent⟩ := h
  exact (hevent ▸ r.reacts).online_of_handshake attempting kept

theorem statusAfter_eq (plain : ¬ r.Handshake) (kept : ∀ turn, r.verdict ≠ .loses turn) :
    r.statusAfter = r.loop.status :=
  r.reacts.status_eq plain kept

/-- A connection gets online by a handshake that nothing breaks off. -/
theorem change?_eq_opened (hphase : r.loop.IsIn phase) :
    r.change? = some .opened ↔ r.Handshake ∧ ∀ turn, r.verdict ≠ .loses turn := by
  constructor
  · intro hchange
    have hkept : ∀ turn, r.verdict ≠ .loses turn := by
      intro turn hturn
      rw [change?, statusAfter_of_loses hphase hturn] at hchange
      cases hstatus : r.loop.status <;> rw [hstatus] at hchange <;> cases hchange
    refine ⟨?_, hkept⟩
    by_contra plain
    rw [change?, statusAfter_eq plain hkept, LinkEvent.between?_self] at hchange
    cases hchange
  · rintro ⟨handshake, kept⟩
    have hoffline := (hphase.connecting_of_attempting handshake.1).offline
    rw [change?, handshake.statusAfter kept, hoffline]
    rfl

/-- Whatever is lost while the connection is online is the connection. -/
theorem change?_eq_closed (hphase : r.loop.IsIn phase) :
    r.change? = some .closed ↔ r.loop.status = .online ∧ ∃ turn, r.verdict = .loses turn := by
  constructor
  · intro hchange
    by_cases hlost : ∃ turn, r.verdict = .loses turn
    · obtain ⟨turn, hturn⟩ := hlost
      rw [change?, statusAfter_of_loses hphase hturn] at hchange
      cases hstatus : r.loop.status with
      | offline =>
        rw [hstatus] at hchange
        cases hchange
      | online => exact ⟨rfl, turn, hturn⟩
    · have hkept := not_exists.mp hlost
      by_cases handshake : r.Handshake
      · have hopened := (change?_eq_opened hphase).mpr ⟨handshake, hkept⟩
        exact absurd (hopened.symm.trans hchange) (by decide)
      · rw [change?, statusAfter_eq handshake hkept, LinkEvent.between?_self] at hchange
        cases hchange
  · rintro ⟨online, turn, hturn⟩
    rw [change?, statusAfter_of_loses hphase hturn, online]
    rfl

/-- Nobody but those who watch the connection is called when its status changes. -/
theorem callsAt_of_change? (hphase : r.loop.IsIn phase) {event : LinkEvent}
    (h : r.change? = some event) : r.loop.callsAt r.event = [] := by
  cases event with
  | opened =>
    obtain ⟨_, budget, hevent⟩ := ((change?_eq_opened hphase).mp h).1
    rw [hevent]
    rfl
  | closed =>
    obtain ⟨_, turn, hturn⟩ := (change?_eq_closed hphase).mp h
    exact (hturn ▸ r.reacts).callsAt_of_loses

/-- A frame changes nothing about the status. -/
theorem change?_of_isData {message : Message}
    (event : r.event = .message message) (data : message.isData = true) : r.change? = none := by
  have hplain : ¬ r.Handshake := by
    rintro ⟨_, budget, hconnected⟩
    exact absurd (event.symm.trans hconnected) (by simp)
  have hkept : ∀ turn, r.verdict ≠ .loses turn := by
    intro turn hturn
    have hreacts := r.reacts
    rw [event, hturn] at hreacts
    cases hreacts with
    | hungUp listening last => cases message <;> simp_all [Message.isData, Message.isLast]
    | unsent offers => cases offers
  rw [change?, statusAfter_eq hplain hkept, LinkEvent.between?_self]

/-- Watchers are called at their registration or at a change of the status. -/
theorem watcherCalls_eq (hphase : r.loop.IsIn phase) :
    r.watcherCalls =
      (r.watch?.map Watch.atOnce).getD [] ++
        r.loop.subscriptions.callsBetween r.loop.status r.statusAfter := by
  have hcalls := r.calls_eq hphase
  cases hevent : r.event with
  | message message =>
    have hnobody : (r.watch?.map Watch.atOnce).getD [] = [] := by simp [watch?, hevent]
    simp only [watcherCalls, hevent, hnobody, List.nil_append]
    by_cases hdata : message.isData = true
    · have hsteady := change?_of_isData hevent hdata
      rw [if_pos hdata, Subscriptions.callsBetween, ← change?, hsteady]
    · have hframe : message.frame? = none := by
        cases message <;> simp_all [Message.isData, Message.frame?]
      rw [if_neg hdata, hcalls, hevent, Loop.callsAt_of_frame?_eq_none hframe, List.nil_append]
  | command asked =>
    simp only [watcherCalls, hevent]
    rw [hcalls]
    congr 1
    cases asked <;> simp [Loop.callsAt, watch?, hevent, Watch.atOnce]
  | _ =>
    simp only [watcherCalls, hevent]
    rw [hcalls]
    simp [Loop.callsAt, watch?, hevent]

end Reaction

def changes (history : List Reaction) : List LinkEvent :=
  history.filterMap Reaction.change?

/-- How often a watcher is to be called: at its registration, if what it waits for is there already,
and at every change that it waits for from then on. -/
def Watch.dueCalls (watch : Watch) (later : List Reaction) : List Call :=
  watch.atOnce ++
    List.replicate (later.countP fun (r : Reaction) => r.change? = some watch.event) watch.call

theorem changes_snoc (history : List Reaction) (r : Reaction) :
    changes (history ++ [r]) = changes history ++ r.change?.toList := by
  rw [changes, List.filterMap_append, List.filterMap_cons]
  cases r.change? <;> rfl

/-- A watcher is to be called once more at a change that it waits for. -/
theorem Watch.dueCalls_snoc (watch : Watch) (later : List Reaction) (r : Reaction) :
    watch.dueCalls (later ++ [r]) =
      watch.dueCalls later ++ (if r.change? = some watch.event then [watch.call] else []) := by
  unfold dueCalls
  rw [List.countP_append, List.countP_singleton, List.replicate_add, List.append_assoc]
  by_cases hwaited : r.change? = some watch.event <;> simp [hwaited]

/-- A command registers a watcher for the moment that it names. -/
theorem Reaction.watch?_flatMap (r : Reaction) (event : LinkEvent) :
    (r.watch?.toList.flatMap fun (watch : Watch) =>
        if event = watch.event then [watch.call] else []) =
      r.event.command?.toList.filterMap (Command.watcher? event) := by
  cases hevent : r.event with
  | command asked =>
    cases asked with
    | watch moment call =>
      by_cases hsame : moment = event
      · simp [watch?, hevent, LoopEvent.command?, Command.watcher?, hsame]
      · have hother : event ≠ moment := fun h => hsame h.symm
        simp [watch?, hevent, LoopEvent.command?, Command.watcher?, hsame, hother]
    | _ => simp [watch?, hevent, LoopEvent.command?, Command.watcher?]
  | _ => simp [watch?, hevent, LoopEvent.command?]

/-- Those who wait for a moment are those who were registered for it. -/
theorem watchersRegistered_eq (event : LinkEvent) (history : List Reaction) :
    ((withLater Reaction.watch? history).flatMap fun (g : Watch × List Reaction) =>
        if event = g.1.event then [g.1.call] else []) =
      watchersRegistered event history := by
  induction history using List.reverseRecOn with
  | nil => rfl
  | append_singleton history r ih =>
    rw [withLater_snoc, List.flatMap_append, List.flatMap_map, ih, watchersRegistered_snoc,
      ← r.watch?_flatMap event]
    cases r.watch? <;> rfl

namespace Run

variable {config : LoopConfig} {history : List Reaction} {task : Task}

/-- At a change of the status those are called who were registered for it. -/
theorem callsBetween_eq {r : Reaction} (before : Run config history (.running r.loop)) :
    r.loop.subscriptions.callsBetween r.loop.status r.statusAfter =
      (withLater Reaction.watch? history).flatMap fun (g : Watch × List Reaction) =>
        if r.change? = some g.1.event then [g.1.call] else [] := by
  rw [Subscriptions.callsBetween, ← Reaction.change?]
  cases hchange : r.change? with
  | none => simp
  | some event =>
    simp only [Option.some.injEq]
    rw [watchersRegistered_eq]
    exact before.watchersOf_eq event r.loop rfl

/-- In all, every watcher is called as often as it is due. -/
theorem watcherCalls_perm (run : Run config history task) :
    (history.flatMap Reaction.watcherCalls).Perm
      ((withLater Reaction.watch? history).flatMap fun (g : Watch × List Reaction) =>
        g.1.dueCalls g.2) := by
  induction run with
  | start now => exact List.Perm.nil
  | @react history r before ih =>
    obtain ⟨phase, hphase⟩ := before.exists_phase r.loop rfl
    -- What the reaction adds to the calls of the watchers so far, and of the one that it registers.
    have hearlier : ((withLater Reaction.watch? history).map fun (g : Watch × List Reaction) =>
        (g.1, g.2 ++ [r])).flatMap (fun (g : Watch × List Reaction) => g.1.dueCalls g.2) =
          (withLater Reaction.watch? history).flatMap fun (g : Watch × List Reaction) =>
            g.1.dueCalls g.2 ++ (if r.change? = some g.1.event then [g.1.call] else []) := by
      rw [List.flatMap_map]
      exact congrArg (fun f => List.flatMap f _) (funext fun g => g.1.dueCalls_snoc g.2 r)
    have hnew : ((r.watch?.map fun (watch : Watch) => (watch, ([] : List Reaction))).toList).flatMap
        (fun (g : Watch × List Reaction) => g.1.dueCalls g.2) =
          (r.watch?.map Watch.atOnce).getD [] := by
      cases r.watch? <;> simp [Watch.dueCalls]
    rw [List.flatMap_append, List.flatMap_singleton, Reaction.watcherCalls_eq hphase,
      before.callsBetween_eq, withLater_snoc, List.flatMap_append, hearlier, hnew]
    refine List.Perm.trans ?_ ((List.flatMap_append_perm _ _ _).append_right _)
    rw [List.append_assoc]
    exact ih.append List.perm_append_comm

/-- The connection gets online first, and then it is lost and gets online by turns. -/
theorem changes_alternate (run : Run config history task) :
    (∀ n event, (changes history)[n]? = some event → (event = .opened ↔ n % 2 = 0)) ∧
      ∀ loop, task = .running loop →
        (loop.status = .online ↔ (changes history).length % 2 = 1) := by
  induction run with
  | start now =>
    refine ⟨by simp [changes], ?_⟩
    intro loop hloop
    obtain ⟨sweep, rfl⟩ := Loop.start_running hloop
    simp [changes]
  | @react history r before ih =>
    obtain ⟨hearlier, hstatus⟩ := ih
    have hparity := hstatus r.loop rfl
    rw [changes_snoc]
    constructor
    · intro n event hn
      by_cases hold : n < (changes history).length
      · rw [List.getElem?_append_left hold] at hn
        exact hearlier n event hn
      · have hlast : (changes history).length ≤ n := Nat.le_of_not_lt hold
        rw [List.getElem?_append_right hlast] at hn
        have hbound := (List.getElem?_eq_some_iff.mp hn).1
        have hchange : r.change? = some event := Option.mem_toList.mp (List.mem_of_getElem? hn)
        have hsingle : r.change?.toList.length = 1 := by rw [hchange]; rfl
        obtain rfl : n = (changes history).length := by omega
        rw [Reaction.change?] at hchange
        cases honline : r.loop.status <;> cases hafter : r.statusAfter <;>
          rw [honline, hafter] at hchange <;> cases hchange <;> rw [honline] at hparity
        · simpa using hparity
        · simpa using hparity
    · intro next hnext
      have hafter : r.statusAfter = next.status := by rw [Reaction.statusAfter, hnext]; rfl
      rw [Reaction.change?, hafter, List.length_append]
      cases honline : r.loop.status <;> cases hnow : next.status <;> rw [honline] at hparity <;>
        simp [LinkEvent.between?] at hparity ⊢ <;> omega

end Run

/-- A frame concerns the handlers of its topic, or the callback that waits under its identifier. -/
inductive Concerned (before : List Reaction) (loop : Loop) : IncomingFrame → Call → Prop
  | handler (topic : String) (data : Value) (handler : Handler)
      (registered : handler ∈ handlersRegistered topic before) :
      Concerned before loop (.event topic data) ⟨handler, some data⟩
  | callback (id : String) (data : Value) (handler : Handler)
      (waits : (loop.replies.take id).1 = some (.callback handler)) :
      Concerned before loop (.reply id data) ⟨handler, some data⟩

namespace Run

variable {config : LoopConfig} {history : List Reaction} {task : Task}

/-- Whoever is called because of a frame is concerned by it. -/
theorem concerned_of_mem {r : Reaction} (before : Run config history (.running r.loop))
    {frame : IncomingFrame} {call : Call} (h : call ∈ r.loop.callsFor frame) :
    Concerned history r.loop frame call := by
  cases frame with
  | event topic data =>
    obtain ⟨handler, hhandler, rfl⟩ := List.mem_map.mp h
    rw [before.handlersOf_eq topic r.loop rfl] at hhandler
    exact .handler topic data handler hhandler
  | reply id data =>
    cases hwaits : (r.loop.replies.take id).1 with
    | none => simp [Loop.callsFor, hwaits] at h
    | some recipient =>
      cases recipient with
      | channel number => simp [Loop.callsFor, hwaits, Recipient.callsWith] at h
      | callback handler =>
        simp only [Loop.callsFor, hwaits, Option.map_some, Option.getD_some, Recipient.callsWith,
          List.mem_singleton] at h
        subst h
        exact .callback id data handler hwaits

/-- The calls of a reaction to a message are those that its frame leads to. -/
theorem callsOf_message {r : Reaction} (before : Run config history (.running r.loop))
    {message : Message} (event : r.event = .message message) (data : message.isData = true) :
    callsOf r.effects = r.loop.callsAt (.message message) := by
  obtain ⟨phase, hphase⟩ := before.exists_phase r.loop rfl
  have hsteady := Reaction.change?_of_isData event data
  rw [r.calls_eq hphase, Subscriptions.callsBetween, ← Reaction.change?, hsteady, event,
    List.append_nil]

theorem concerned_of_message {r : Reaction} (before : Run config history (.running r.loop))
    {message : Message} (event : r.event = .message message) (data : message.isData = true)
    {call : Call} (h : call ∈ callsOf r.effects) :
    ∃ frame, message.frame? = some frame ∧ Concerned history r.loop frame call := by
  rw [before.callsOf_message event data, Loop.callsAt] at h
  split at h
  · next frame _ hframe => exact ⟨frame, hframe, before.concerned_of_mem h⟩
  · exact absurd h List.not_mem_nil

/-- Two watchers are there before the first connection, whose opening sequence breaks off.  The third
one comes while the next connection is online, which is lost then and followed by another one. -/
def watchedLoss : List (Nat × LoopEvent) :=
  [(0, .command (.onOpened (.plain "early"))), (0, .command (.on "close" (.plain "lost"))),
    (0, .command (.emit "hello" none none)), (1, .connected (some 0)), (5, .reconnectDue),
    (7, .connected none), (8, .command (.on "open" (.plain "late"))), (9, .message .close),
    (11, .reconnectDue), (13, .connected none)]

end Run

end EventLink
