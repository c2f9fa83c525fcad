import Mathlib.Data.List.Perm.Basic
import EventLink.Proofs.Loop.Correlation
import EventLink.Proofs.Loop.Lifecycle
import EventLink.Proofs.Loop.Notices
import EventLink.Simulation.World
/-!
What becomes of those who wait for a reply.

Whoever is let wait goes on waiting until a reply names its identifier or a sweep takes it out,
whichever comes first.  It is over then: a later reply under the same identifier is for somebody else,
or for nobody.  Nothing else ends the waiting, and the loss of a connection does not either.
-/
namespace EventLink

open Json (Value)

/-- How the waiting for a reply ended. -/
inductive Ending where
  | answered (data : Value)
  | swept

namespace Reaction

variable {r : Reaction}

/-- The recipient that a reaction lets wait. -/
def registered? (r : Reaction) : Option Waiter :=
  match r.event with
  | .command (.emit _ _ (some recipient)) =>
    (r.loop.replies.expect r.now recipient).map fun (found : String × ReplyTable) =>
      ⟨found.1, recipient, r.now⟩
  | _ => none

/-- Those whom a reaction sweeps out. -/
def swept (r : Reaction) : List Waiter :=
  match r.event with
  | .sweepDue => (r.loop.replies.sweep r.now r.gone).1
  | _ => []

/-- How a reaction ends the waiting of somebody who waits by then, if it does. -/
def ending? (r : Reaction) (w : Waiter) : Option Ending :=
  match r.reply?, r.event with
  | some (id, data), _ => if w.id = id then some (.answered data) else none
  | none, .sweepDue => if r.loop.replies.keeps r.now r.gone w then none else some .swept
  | none, _ => none

/-- Those whose waiting a reaction ends, and how it does. -/
def ended (r : Reaction) : List (Waiter × Ending) :=
  r.loop.replies.waiters.filterMap fun (w : Waiter) => (r.ending? w).map (Prod.mk w)

/-- Whoever is let wait does so from then on, and a command asked for it. -/
theorem of_registered? {w : Waiter} (h : r.registered? = some w) :
    w.since = r.now ∧
      ∃ topic data, r.event = .command (.emit topic data (some w.recipient)) := by
  unfold registered? at h
  split at h
  · next topic data recipient hevent =>
    obtain ⟨found, _, rfl⟩ := Option.map_eq_some_iff.mp h
    exact ⟨rfl, topic, data, hevent⟩
  · cases h

theorem ending?_of_reply {id : String} {data : Value} (h : r.reply? = some (id, data))
    (w : Waiter) : r.ending? w = if w.id = id then some (.answered data) else none := by
  simp only [ending?, h]

theorem ending?_of_sweep (unreplied : r.reply? = none) (h : r.event = .sweepDue) (w : Waiter) :
    r.ending? w = if r.loop.replies.keeps r.now r.gone w then none else some .swept := by
  simp only [ending?, unreplied, h]

theorem ending?_of_other (unreplied : r.reply? = none) (unswept : r.event ≠ .sweepDue)
    (w : Waiter) : r.ending? w = none := by
  unfold ending?
  split <;> simp_all

/-- Whoever is swept out was in the table and is kept no more. -/
theorem mem_swept {w : Waiter} (waits : w ∈ r.loop.replies.waiters)
    (h : r.ending? w = some .swept) : w ∈ r.swept := by
  rcases r.reply_or_sweep_or_other with ⟨id, data, hreply, _⟩ | ⟨hreply, hsweep⟩ | ⟨hreply, hother⟩
  · rw [ending?_of_reply hreply] at h
    split at h <;> cases h
  · rw [ending?_of_sweep hreply hsweep] at h
    simp only [swept, hsweep]
    refine List.mem_filter.mpr ⟨waits, ?_⟩
    by_cases hkept : r.loop.replies.keeps r.now r.gone w = true
    · simp [hkept] at h
    · simpa using hkept
  · exact absurd ((ending?_of_other hreply hother w).symm.trans h) (by simp)

/-- Nobody stops waiting because something is lost. -/
theorem ending?_of_loses {turn : Turn} (h : r.verdict = .loses turn) (w : Waiter) :
    r.ending? w = none := by
  obtain ⟨unreplied, unswept⟩ := (h ▸ r.reacts).of_loses
  exact ending?_of_other (reply?_eq_none.mpr unreplied) unswept w

theorem ended_of_reply {id : String} {data : Value} (h : r.reply? = some (id, data)) :
    r.ended =
      (r.loop.replies.waiters.filter fun (w : Waiter) => w.id = id).map fun (w : Waiter) =>
        (w, .answered data) := by
  rw [ended, ← List.filterMap_eq_map, List.filterMap_filter]
  refine List.filterMap_congr ?_
  intro w _
  rw [ending?_of_reply h]
  by_cases hid : w.id = id <;> simp [hid]

theorem ended_of_sweep (unreplied : r.reply? = none) (h : r.event = .sweepDue) :
    r.ended = r.swept.map fun (w : Waiter) => (w, .swept) := by
  simp only [swept, h, ReplyTable.sweep]
  rw [ended, ← List.filterMap_eq_map, List.filterMap_filter]
  refine List.filterMap_congr ?_
  intro w _
  rw [ending?_of_sweep unreplied h]
  by_cases hkept : r.loop.replies.keeps r.now r.gone w = true <;> simp [hkept]

theorem ended_of_other (unreplied : r.reply? = none) (unswept : r.event ≠ .sweepDue) :
    r.ended = [] := by
  rw [ended, List.filterMap_eq_nil_iff]
  intro w _
  rw [ending?_of_other unreplied unswept]
  rfl

theorem swept_of_ne (unswept : r.event ≠ .sweepDue) : r.swept = [] := by
  unfold swept
  split
  · next hsweep => exact absurd hsweep unswept
  · rfl

end Reaction

/-- What is neither a reply nor a sweep leaves the reply table alone, or lets somebody wait. -/
theorem Reaction.repliesAfter_of_other {r : Reaction} (unreplied : r.reply? = none)
    (unswept : r.event ≠ .sweepDue) :
    (r.registered? = none ∧ r.loop.repliesAfter r.now r.gone r.event = r.loop.replies) ∨
      ∃ w, r.registered? = some w ∧
        (r.loop.repliesAfter r.now r.gone r.event).waiters = r.loop.replies.waiters ++ [w] := by
  cases hevent : r.event with
  | command asked =>
    cases asked with
    | emit topic data recipient =>
      cases recipient with
      | none => exact .inl ⟨by simp [registered?, hevent], rfl⟩
      | some recipient =>
        cases hexpect : r.loop.replies.expect r.now recipient with
        | none =>
          refine .inl ⟨?_, ?_⟩
          · simp [registered?, hevent, hexpect]
          · simp [Loop.repliesAfter, hexpect]
        | some found =>
          refine .inr ⟨⟨found.1, recipient, r.now⟩, ?_, ?_⟩
          · simp [registered?, hevent, hexpect]
          · simpa [Loop.repliesAfter, hexpect] using (ReplyTable.of_expect_eq_some hexpect).2
    | _ => exact .inl ⟨by simp [registered?, hevent], rfl⟩
  | message message =>
    refine .inl ⟨by simp [registered?, hevent], ?_⟩
    rw [reply?_eq_none, hevent] at unreplied
    rw [Loop.repliesAfter]
    split
    · next id given hframe listening =>
      have hplain := unreplied listening
      rw [LoopEvent.reply?, hframe] at hplain
      exact absurd hplain (by simp [IncomingFrame.reply?])
    · rfl
  | sweepDue => exact absurd hevent unswept
  | _ => exact .inl ⟨by simp [registered?, hevent], rfl⟩

/-- After an event those wait whose waiting it does not end, and then the one whom it lets wait. -/
theorem Reaction.waiters_repliesAfter (r : Reaction) :
    (r.loop.repliesAfter r.now r.gone r.event).waiters =
      (r.loop.replies.waiters.filter fun (w : Waiter) => (r.ending? w).isNone) ++
        r.registered?.toList := by
  rcases r.reply_or_sweep_or_other with ⟨id, data, hreply, _⟩ | ⟨hreply, hsweep⟩ | ⟨hreply, hother⟩
  · obtain ⟨listening, hevent⟩ := reply?_eq_some.mp hreply
    cases hmessage : r.event with
    | message message =>
      rw [hmessage, LoopEvent.reply?, Option.bind_eq_some_iff] at hevent
      obtain ⟨frame, hframe, hsame⟩ := hevent
      cases frame with
      | event topic given => exact absurd hsame (by simp [IncomingFrame.reply?])
      | reply known given =>
        obtain ⟨rfl, rfl⟩ := Prod.mk.inj (Option.some.inj hsame)
        simp only [Loop.repliesAfter, hframe, listening, ReplyTable.waiters_take, registered?,
          hmessage, Option.toList_none, List.append_nil, ending?_of_reply hreply]
        refine List.filter_congr ?_
        intro w _
        by_cases hid : w.id = known <;> simp [hid]
    | _ => simp [hmessage, LoopEvent.reply?] at hevent
  · simp only [hsweep, Loop.repliesAfter, registered?, Option.toList_none, List.append_nil,
      ReplyTable.sweep]
    refine List.filter_congr ?_
    intro w _
    rw [ending?_of_sweep hreply hsweep]
    by_cases hkept : r.loop.replies.keeps r.now r.gone w = true <;> simp [hkept]
  · have hall : (r.loop.replies.waiters.filter fun (w : Waiter) => (r.ending? w).isNone) =
        r.loop.replies.waiters := by
      rw [List.filter_eq_self]
      intro w _
      rw [ending?_of_other hreply hother]
      rfl
    rw [hall]
    rcases repliesAfter_of_other hreply hother with ⟨hnobody, hsame⟩ | ⟨w, hw, hwaiters⟩
    · rw [hnobody, hsame, Option.toList_none, List.append_nil]
    · rw [hw, hwaiters, Option.toList_some]

/-- Whoever waits after a reaction did so before it, or begins to wait in it. -/
theorem Reaction.old_or_asked {r : Reaction} {next : Loop} (h : r.outcome.task = .running next)
    {w : Waiter} (waits : w ∈ next.replies.waiters) :
    w ∈ r.loop.replies.waiters ∨
      w.since = r.now ∧ ∃ topic data, r.event = .command (.emit topic data (some w.recipient)) := by
  rw [(remembers h).2, r.waiters_repliesAfter, List.mem_append, Option.mem_toList] at waits
  rcases waits with hold | hnew
  · exact .inl (List.mem_filter.mp hold).1
  · exact .inr (of_registered? hnew)

/-- A reaction that neither takes in a reply nor sweeps nor lets anybody wait leaves the reply table
alone, even if something is lost in it. -/
theorem Reaction.replies_eq {r : Reaction} {next : Loop} (h : r.outcome.task = .running next)
    (nobody : r.registered? = none) (unreplied : r.reply? = none) (unswept : r.event ≠ .sweepDue) :
    next.replies = r.loop.replies := by
  rw [(remembers h).2]
  rcases repliesAfter_of_other unreplied unswept with ⟨_, hsame⟩ | ⟨w, hw, _⟩
  · exact hsame
  · exact absurd (nobody.symm.trans hw) (by simp)

/-- Everybody who was let wait in a series of reactions, in their order, each with the first ending of
its waiting since then. -/
def fates (history : List Reaction) : List (Waiter × Option Ending) :=
  (withLater Reaction.registered? history).map fun (g : Waiter × List Reaction) =>
    (g.1, g.2.findSome? fun (r : Reaction) => r.ending? g.1)

/-- Those who still wait. -/
def pending (history : List Reaction) : List Waiter :=
  (fates history).filterMap fun (g : Waiter × Option Ending) =>
    if g.2.isNone then some g.1 else none

/-- Those whose waiting is over. -/
def settled (history : List Reaction) : List (Waiter × Ending) :=
  (fates history).filterMap fun (g : Waiter × Option Ending) => g.2.map (Prod.mk g.1)

section Fates

variable (history : List Reaction) (r : Reaction)

/-- An ending is for those who have none yet. -/
theorem fates_snoc :
    fates (history ++ [r]) =
      ((fates history).map fun (g : Waiter × Option Ending) => (g.1, g.2.or (r.ending? g.1))) ++
        (r.registered?.map fun (w : Waiter) => (w, none)).toList := by
  rw [fates, withLater_snoc, List.map_append, List.map_map, fates, List.map_map]
  congr 1
  · refine List.map_congr_left ?_
    intro g _
    simp only [Function.comp_apply, List.findSome?_append, List.findSome?_cons]
    cases r.ending? g.1 <;> rfl
  · cases r.registered? <;> rfl

theorem pending_snoc :
    pending (history ++ [r]) =
      ((pending history).filter fun (w : Waiter) => (r.ending? w).isNone) ++
        r.registered?.toList := by
  rw [pending, fates_snoc, List.filterMap_append, List.filterMap_map, pending,
    List.filter_filterMap]
  congr 1
  · refine List.filterMap_congr ?_
    intro g _
    obtain ⟨w, ending⟩ := g
    cases ending with
    | none => cases hending : r.ending? w <;> simp [Option.filter, hending]
    | some ending => simp
  · cases r.registered? <;> rfl

theorem length_fates :
    (fates history).length = (pending history).length + (settled history).length := by
  unfold pending settled
  induction fates history with
  | nil => rfl
  | cons g rest ih =>
    obtain ⟨w, ending⟩ := g
    cases ending with
    | none =>
      simp [ih]
      omega
    | some ending =>
      simp [ih]
      omega

/-- Those whose waiting is over after a reaction are those for whom it was over before, and those who
waited until then and whose waiting it ends. -/
theorem settled_snoc_perm :
    (settled (history ++ [r])).Perm
      (settled history ++ (pending history).filterMap fun (w : Waiter) =>
        (r.ending? w).map (Prod.mk w)) := by
  have hnew : (r.registered?.map fun (w : Waiter) => (w, (none : Option Ending))).toList.filterMap
      (fun (g : Waiter × Option Ending) => g.2.map (Prod.mk g.1)) = [] := by
    cases r.registered? <;> rfl
  rw [settled, fates_snoc, List.filterMap_append, hnew, List.append_nil, settled, pending]
  -- By induction on the fates: whoever still waits may get an ending, which comes in between.
  induction fates history with
  | nil => exact List.Perm.nil
  | cons g rest ih =>
    obtain ⟨w, ending⟩ := g
    cases ending with
    | none =>
      cases hending : r.ending? w with
      | none => simpa [hending] using ih
      | some ending => simpa [hending] using (ih.cons _).trans List.perm_middle.symm
    | some ending => simpa using ih

end Fates

/-- Whoever still waits was let wait by a reaction, and no reaction since then has ended the waiting. -/
theorem mem_pending {history : List Reaction} {w : Waiter} :
    w ∈ pending history ↔
      ∃ later, (w, later) ∈ withLater Reaction.registered? history ∧
        ∀ r ∈ later, r.ending? w = none := by
  rw [pending, List.mem_filterMap]
  constructor
  · rintro ⟨g, hg, hpending⟩
    obtain ⟨found, hfound, rfl⟩ := List.mem_map.mp hg
    by_cases hnone : (found.2.findSome? fun (r : Reaction) => r.ending? found.1) = none
    · rw [hnone] at hpending
      obtain rfl := Option.some.inj hpending
      exact ⟨found.2, hfound, List.findSome?_eq_none_iff.mp hnone⟩
    · simp [hnone] at hpending
  · rintro ⟨later, hmem, hnone⟩
    refine ⟨_, List.mem_map.mpr ⟨_, hmem, rfl⟩, ?_⟩
    rw [List.findSome?_eq_none_iff.mpr hnone]
    rfl

/-- The first ending of a waiting is the one that counts. -/
theorem mem_settled_of_first {history middle last : List Reaction} {q : Reaction} {w : Waiter}
    {ending : Ending} (waits : (w, middle ++ q :: last) ∈ withLater Reaction.registered? history)
    (none_before : ∀ r ∈ middle, r.ending? w = none) (ends : q.ending? w = some ending) :
    (w, ending) ∈ settled history := by
  have hfirst : ((middle ++ q :: last).findSome? fun (r : Reaction) => r.ending? w) =
      some ending := by
    rw [List.findSome?_append, List.findSome?_eq_none_iff.mpr none_before, List.findSome?_cons, ends]
    rfl
  refine List.mem_filterMap.mpr ⟨_, List.mem_map.mpr ⟨_, waits, rfl⟩, ?_⟩
  rw [hfirst]
  rfl

namespace Run

variable {config : LoopConfig} {history : List Reaction} {task : Task}

/-- The reply table holds those who still wait, in the order in which they were let wait. -/
theorem waiters_eq (run : Run config history task) :
    ∀ loop, task = .running loop → loop.replies.waiters = pending history := by
  induction run with
  | start now =>
    intro loop hloop
    obtain ⟨sweep, rfl⟩ := Loop.start_running hloop
    rfl
  | react r before ih =>
    intro next hnext
    rw [(Reaction.remembers hnext).2, r.waiters_repliesAfter, ih r.loop rfl, pending_snoc]

/-- In all, the reactions end the waiting of everybody once whose waiting is over. -/
theorem ended_perm (run : Run config history task) :
    (history.flatMap Reaction.ended).Perm (settled history) := by
  induction run with
  | start now => exact List.Perm.nil
  | @react history r before ih =>
    have hended : r.ended = (pending history).filterMap fun (w : Waiter) =>
        (r.ending? w).map (Prod.mk w) := by
      rw [Reaction.ended, before.waiters_eq r.loop rfl]
    rw [List.flatMap_append, List.flatMap_singleton, hended]
    exact (ih.append_right _).trans (settled_snoc_perm history r).symm

end Run

def Effect.isMatch : Effect → Bool
  | .measured (.replied matched) => matched
  | _ => false

theorem countP_isMatch_of_noticesOf {effects : List Effect} (silent : noticesOf effects = []) :
    effects.countP Effect.isMatch = 0 := by
  rw [List.countP_eq_zero]
  intro effect heffect hmatch
  have hsilent := List.filter_eq_nil_iff.mp silent effect heffect
  cases effect with
  | measured measurement => cases measurement <;> simp_all [Effect.isMatch, Effect.isNotice]
  | _ => simp [Effect.isMatch] at hmatch

theorem countP_isMatch_ofSwept (swept : List Waiter) :
    (swept.filterMap Effect.ofSwept).countP Effect.isMatch = 0 := by
  rw [List.countP_eq_zero]
  intro effect heffect
  obtain ⟨w, _, hw⟩ := List.mem_filterMap.mp heffect
  unfold Effect.ofSwept at hw
  split at hw
  · cases hw
  · obtain rfl := Option.some.inj hw
    simp [Effect.isMatch]

/-- A reaction ends as many waitings as it counts matched replies and sweeps waiters out. -/
theorem Reaction.length_ended {r : Reaction} (distinct : r.loop.replies.Distinct) :
    r.ended.length = r.effects.countP Effect.isMatch + r.swept.length := by
  rcases r.reply_or_sweep_or_other with ⟨id, data, hreply, hother⟩ | ⟨hreply, hsweep⟩ |
    ⟨hreply, hother⟩
  · rw [swept_of_ne hother, ended_of_reply hreply]
    by_cases hknown : id ∈ r.loop.replies.ids
    · obtain ⟨w, hw, rfl⟩ := List.mem_map.mp hknown
      rw [distinct.filter_eq_singleton hw, effects_of_known hreply distinct hw]
      cases w.recipient <;> rfl
    · rw [ReplyTable.filter_eq_nil hknown, effects_of_unknown hreply hknown]
      rfl
  · have hswept : r.swept = (r.loop.replies.sweep r.now r.gone).1 := by simp only [swept, hsweep]
    rw [ended_of_sweep hreply hsweep, List.length_map, effects_of_sweep hsweep, ← hswept,
      countP_isMatch_ofSwept, Nat.zero_add]
  · rw [ended_of_other hreply hother, swept_of_ne hother,
      countP_isMatch_of_noticesOf (noticesOf_effects hreply hother)]
    rfl

namespace Run

variable {config : LoopConfig} {history : List Reaction} {task : Task}

/-- Without a reply, a sweep or a new request the reply table stays as it is, however often the
connection is lost and found again. -/
theorem replies_eq_of_quiet {before later : List Reaction} {r : Reaction} {next : Loop}
    (run : Run config (before ++ r :: later) (.running next))
    (quiet : ∀ q ∈ r :: later, q.registered? = none ∧ q.reply? = none ∧ q.event ≠ .sweepDue) :
    next.replies = r.loop.replies := by
  induction later using List.reverseRecOn generalizing next with
  | nil =>
    obtain ⟨hnobody, hreply, hother⟩ := quiet r List.mem_cons_self
    exact Reaction.replies_eq run.of_snoc.2.symm hnobody hreply hother
  | append_singleton later q ih =>
    rw [← List.cons_append, ← List.append_assoc] at run
    obtain ⟨hbefore, hnext⟩ := run.of_snoc
    obtain ⟨hnobody, hreply, hother⟩ := quiet q (by simp)
    rw [Reaction.replies_eq hnext.symm hnobody hreply hother]
    exact ih hbefore fun p hp => quiet p (List.mem_append_left [q] hp)

/-- Once a reply was taken in, nobody waits under its identifier until it is handed out again. -/
theorem unknown_after_reply {before middle : List Reaction} {r : Reaction} {id : String}
    {data : Value} (reply : r.reply? = some (id, data))
    (unused : ∀ w ∈ middle.filterMap Reaction.registered?, w.id ≠ id) :
    ∀ w ∈ pending (before ++ r :: middle), w.id ≠ id := by
  induction middle using List.reverseRecOn with
  | nil =>
    intro w hw
    rw [pending_snoc, List.mem_append, List.mem_filter] at hw
    rcases hw with ⟨_, hkept⟩ | hnew
    · rintro rfl
      rw [Reaction.ending?_of_reply reply, if_pos rfl] at hkept
      exact absurd hkept (by simp)
    · obtain ⟨_, hevent⟩ := Reaction.reply?_eq_some.mp reply
      cases hcommand : r.event <;>
        simp [Reaction.registered?, LoopEvent.reply?, hcommand] at hnew hevent
  | append_singleton middle q ih =>
    rw [List.filterMap_append] at unused
    intro w hw
    rw [← List.cons_append, ← List.append_assoc, pending_snoc, List.mem_append,
      List.mem_filter] at hw
    rcases hw with ⟨hold, _⟩ | hnew
    · exact ih (fun other hother => unused other (List.mem_append_left _ hother)) w hold
    · refine unused w (List.mem_append_right _ ?_)
      exact List.mem_filterMap.mpr ⟨q, List.mem_singleton_self q, Option.mem_toList.mp hnew⟩

/-- A reply is for the only one who waits under its identifier, or for nobody. -/
theorem effects_of_reply {r : Reaction} (before : Run config history (.running r.loop))
    {id : String} {data : Value} (reply : r.reply? = some (id, data)) :
    ((pending history).filter fun (w : Waiter) => w.id = id) = [] ∧
        r.effects = [.measured (.replied false)] ∨
      ∃ w, ((pending history).filter fun (w : Waiter) => w.id = id) = [w] ∧
        r.effects = [.handover data w.recipient, .measured (.replied true)] := by
  have hdistinct := before.distinct r.loop rfl
  rw [← before.waiters_eq r.loop rfl]
  by_cases hknown : id ∈ r.loop.replies.ids
  · obtain ⟨w, hw, rfl⟩ := List.mem_map.mp hknown
    exact .inr ⟨w, hdistinct.filter_eq_singleton hw, Reaction.effects_of_known reply hdistinct hw⟩
  · exact .inl ⟨ReplyTable.filter_eq_nil hknown, Reaction.effects_of_unknown reply hknown⟩

/-- A reply under an identifier to which one was taken in already is for nobody, unless the identifier
was handed out again. -/
theorem effects_of_repeated {before middle : List Reaction} {r q : Reaction} {id : String}
    {data another : Value} (run : Run config (before ++ r :: middle) (.running q.loop))
    (reply : r.reply? = some (id, data))
    (unused : ∀ w ∈ middle.filterMap Reaction.registered?, w.id ≠ id)
    (again : q.reply? = some (id, another)) : q.effects = [.measured (.replied false)] := by
  refine Reaction.effects_of_unknown again ?_
  rw [ReplyTable.ids, run.waiters_eq q.loop rfl, List.mem_map]
  rintro ⟨w, hw, hid⟩
  exact unknown_after_reply reply unused w hw hid

/-- Whoever waits gets the data of the first reply to it, or is in the first sweep that takes it out. -/
theorem first_ending (run : Run config history task) {w : Waiter} {middle last : List Reaction}
    {q : Reaction} (waits : (w, middle ++ q :: last) ∈ withLater Reaction.registered? history)
    (none_before : ∀ r ∈ middle, r.ending? w = none) :
    (∀ data, q.reply? = some (w.id, data) →
      (w, .answered data) ∈ settled history ∧
        q.effects = [.handover data w.recipient, .measured (.replied true)]) ∧
      (q.ending? w = some .swept → (w, .swept) ∈ settled history ∧ w ∈ q.swept) := by
  obtain ⟨before, r, rfl, hregistered⟩ := mem_withLater.mp waits
  rw [← List.cons_append, ← List.append_assoc] at run
  have hbefore := run.before
  have hpending : w ∈ pending (before ++ r :: middle) :=
    mem_pending.mpr ⟨middle, mem_withLater.mpr ⟨before, r, rfl, hregistered⟩, none_before⟩
  rw [← hbefore.waiters_eq q.loop rfl] at hpending
  constructor
  · intro data hreply
    refine ⟨mem_settled_of_first waits none_before ?_, ?_⟩
    · rw [Reaction.ending?_of_reply hreply, if_pos rfl]
    · exact Reaction.effects_of_known hreply (hbefore.distinct q.loop rfl) hpending
  · intro hswept
    exact ⟨mem_settled_of_first waits none_before hswept, Reaction.mem_swept hpending hswept⟩

/-- In all, as many waitings are over as replies matched and waiters were swept out. -/
theorem length_settled (run : Run config history task) :
    (settled history).length =
      (history.flatMap Reaction.effects).countP Effect.isMatch +
        (history.flatMap Reaction.swept).length := by
  rw [← run.ended_perm.length_eq]
  induction run with
  | start now => rfl
  | @react history r before ih =>
    simp only [List.flatMap_append, List.flatMap_singleton, List.length_append,
      List.countP_append, ih, Reaction.length_ended (before.distinct r.loop rfl)]
    omega

end Run

/-- A reply to a channel at whose other end nobody waits any more is dropped. -/
theorem World.perform_replied_of_isGone {world : World} {channel : Nat}
    (gone : world.isGone channel = true) (data : Value) :
    world.perform (.replied channel data) = world := by
  have hnobody : (world.requests.find? fun (r : Request) => r.channel == channel) = none := by
    rw [List.find?_eq_none]
    intro r hr
    simp only [isGone, Bool.not_eq_true', List.any_eq_false] at gone
    exact gone r hr
  simp only [perform, finish, hnobody]

/-- Everybody who is let wait for a reply has exactly one fate: still to wait, and to be in the table,
or to be given the data of the first reply since then, or to be swept out.

A reply that comes in is for the only one who waits under its identifier, who gets its data: a
callback is called with it once, and a channel at whose other end nobody is drops it.  If nobody waits
under it the reply is dropped, and so is every other one under an identifier to which a reply was taken
in, until the identifier is handed out again.  Besides replies and sweeps nothing tells those who wait
anything, and no call is for them.  The loss of a connection ends nobody's waiting, and as long as
there are no replies, sweeps and requests, the table stays as it is through any number of connections.

In all, those who were let wait are those who still do, those whose reply came, and those who were
swept out. -/
theorem Run.one_fate {config : LoopConfig} {history : List Reaction} {task : Task}
    (run : Run config history task) :
    ((fates history).map Prod.fst = history.filterMap Reaction.registered?) ∧
      (∀ loop, task = .running loop → loop.replies.waiters = pending history) ∧
      (∀ w middle q last,
        (w, middle ++ q :: last) ∈ withLater Reaction.registered? history →
        (∀ r ∈ middle, r.ending? w = none) →
        (∀ data, q.reply? = some (w.id, data) →
          (w, .answered data) ∈ settled history ∧
            q.effects = [.handover data w.recipient, .measured (.replied true)]) ∧
          (q.ending? w = some .swept → (w, .swept) ∈ settled history ∧ w ∈ q.swept)) ∧
      (∀ before r later, history = before ++ r :: later →
        (∀ id data, r.reply? = some (id, data) →
          (((pending before).filter fun (w : Waiter) => w.id = id) = [] ∧
              r.effects = [.measured (.replied false)] ∨
            ∃ w, ((pending before).filter fun (w : Waiter) => w.id = id) = [w] ∧
              r.effects = [.handover data w.recipient, .measured (.replied true)]) ∧
            ∀ middle q last another, later = middle ++ q :: last →
              (∀ w ∈ middle.filterMap Reaction.registered?, w.id ≠ id) →
              q.reply? = some (id, another) → q.effects = [.measured (.replied false)]) ∧
          (r.reply? = none →
            (r.event ≠ .sweepDue → noticesOf r.effects = []) ∧
              ∀ call ∈ callsOf r.effects,
                (∃ topic, call.handler ∈ handlersRegistered topic before) ∨
                  ∃ event, call ∈ watchersRegistered event (before ++ [r])) ∧
          (r.event = .sweepDue → r.effects = r.swept.filterMap Effect.ofSwept) ∧
          (∀ turn, r.verdict = .loses turn → ∀ w, r.ending? w = none) ∧
          ((∀ q ∈ r :: later,
              q.registered? = none ∧ q.reply? = none ∧ q.event ≠ .sweepDue) →
            ∀ loop, task = .running loop → loop.replies = r.loop.replies)) ∧
      (∀ (world : World) channel data, world.isGone channel = true →
        world.perform (.replied channel data) = world) ∧
      (history.flatMap Reaction.ended).Perm (settled history) ∧
      (history.filterMap Reaction.registered?).length =
        (pending history).length + (history.flatMap Reaction.effects).countP Effect.isMatch +
          (history.flatMap Reaction.swept).length := by
  have hall : (fates history).map Prod.fst = history.filterMap Reaction.registered? := by
    rw [fates, List.map_map, ← map_fst_withLater]
    rfl
  refine ⟨hall, run.waiters_eq, ?_, ?_, ?_, run.ended_perm, ?_⟩
  · intro w middle q last hwaits hnone
    exact run.first_ending hwaits hnone
  · rintro before r later rfl
    have hbefore := run.before
    refine ⟨?_, ?_, ?_, fun turn => Reaction.ending?_of_loses, ?_⟩
    · intro id data hreply
      refine ⟨hbefore.effects_of_reply hreply, ?_⟩
      rintro middle q last another rfl hunused hagain
      rw [← List.cons_append, ← List.append_assoc] at run
      exact run.before.effects_of_repeated hreply hunused hagain
    · intro hreply
      refine ⟨Reaction.noticesOf_effects hreply, ?_⟩
      intro call hcalled
      rcases hbefore.calls_of_unreplied hreply hcalled with ⟨_, topic, _, _, _, hhandler⟩ | hwatcher
      · obtain ⟨handler, hregistered, rfl⟩ := List.mem_map.mp hhandler
        exact .inl ⟨topic, hregistered⟩
      · exact .inr hwatcher
    · intro hsweep
      rw [Reaction.effects_of_sweep hsweep, Reaction.swept, hsweep]
    · rintro hquiet loop rfl
      exact run.replies_eq_of_quiet hquiet
  · intro world channel data hgone
    exact World.perform_replied_of_isGone hgone data
  · rw [← hall, List.length_map, length_fates, run.length_settled, Nat.add_assoc]

/-- Whether somebody got a reply at the end of the waiting. -/
def Ending.isAnswer : Ending → Bool
  | answered _ => true
  | swept => false

/-- What a loop is started with that draws the same identifier twice and waits ten milliseconds for a
reply. -/
def hasty : LoopConfig :=
  { Exchange.repeating with replyLifetime := some (Duration.ofMillis 10) }

/-- The reply to a request comes twice, and then its identifier is handed out again.  The connection is
lost and found, the reply to the second request comes, and the third one takes too long. -/
def repliedTwice : List (Nat × LoopEvent) :=
  [(0, .command (.emit "x" none (some (.callback (.plain "first"))))), (1, .connected none),
    (2, .message Exchange.reply), (3, .message Exchange.reply),
    (4, .command (.emit "y" none (some (.callback ⟨"second", true, none, none⟩)))),
    (5, .command (.emit "z" none (some (.channel 7)))), (6, .message .close), (7, .reconnectDue),
    (8, .connected none), (9, .message Exchange.reply), (10000005, .sweepDue)]

theorem Run.one_fate_of_repliedTwice :
    let history := (hasty.replay repliedTwice).1
    ((fates history).map (fun (g : Waiter × Option Ending) =>
        (g.1.id, g.1.recipient, g.2.map Ending.isAnswer)) =
      [("a", .callback (.plain "first"), some true),
        ("a", .callback ⟨"second", true, none, none⟩, some true), ("g1", .channel 7, some false)]) ∧
      (callsOf (history.flatMap Reaction.effects)).map (fun (call : Call) => call.handler.name) =
        ["first", "second"] ∧
      (history.filterMap Reaction.registered?).length =
        (pending history).length + (history.flatMap Reaction.effects).countP Effect.isMatch +
          (history.flatMap Reaction.swept).length :=
  ⟨by decide +kernel, by decide +kernel,
    (hasty.run_replay repliedTwice).one_fate.2.2.2.2.2.2⟩

end EventLink
