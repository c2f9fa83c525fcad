import EventLink.Proofs.Loop.Requests
/-!
How identifiers are handed out.

An identifier is looked for along a stream until one comes that nobody waits under.  The search has no
bound of its own: it ends if such an identifier comes at all, and the loop is stuck in it otherwise.
With a stream that does not repeat itself it ends soon, for only as many identifiers are in use as
there are recipients.
-/
namespace EventLink

/-- Any stream of identifiers may be a source, from any index on. -/
theorem IdSource.exists_of_stream (stream : Nat → String) (drawn : Nat) :
    ∃ source : IdSource, source.stream = stream ∧ source.drawn = drawn := by
  have hpatience (used : List String) (index : Nat) :
      ∃ draws, ∀ free, index ≤ free → stream free ∉ used →
        ∃ n, index ≤ n ∧ n < index + draws ∧ stream n ∉ used := by
    by_cases hsome : ∃ free, index ≤ free ∧ stream free ∉ used
    · obtain ⟨free, hle, hunused⟩ := hsome
      exact ⟨free + 1, fun _ _ _ => ⟨free, hle, by omega, hunused⟩⟩
    · exact ⟨0, fun free hle hunused => absurd ⟨free, hle, hunused⟩ hsome⟩
  choose patience hpatient using hpatience
  exact ⟨⟨stream, drawn, patience, hpatient⟩, rfl, rfl⟩

namespace ReplyTable

variable {t next : ReplyTable} {id : String} {now : Nat} {recipient : Recipient}

theorem isSome_expect_iff :
    (t.expect now recipient).isSome = true ↔
      ∃ n, t.source.drawn ≤ n ∧ t.source.stream n ∉ t.ids := by
  rw [← isSome_nextFree_iff, expect, Option.isSome_map]

/-- All identifiers that are drawn are in use but the last one, which goes to the new recipient. -/
theorem skipped_of_expect (h : t.expect now recipient = some (id, next)) :
    ∃ skipped, (∀ n < skipped, t.source.stream (t.source.drawn + n) ∈ t.ids) ∧
      id = t.source.stream (t.source.drawn + skipped) ∧ id ∉ t.ids ∧
      next =
        { t with
          waiters := t.waiters ++ [⟨id, recipient, now⟩]
          source := { t.source with drawn := t.source.drawn + (skipped + 1) } } := by
  obtain ⟨found, hfound, rfl, rfl⟩ := expect_eq_some_iff.mp h
  obtain ⟨hle, hunused, hskipped⟩ := nextFree_eq_some_iff.mp hfound
  obtain ⟨skipped, rfl⟩ := Nat.exists_eq_add_of_le hle
  exact ⟨skipped, fun n hn => hskipped _ (by omega) (by omega), rfl, hunused, rfl⟩

/-- With a stream that repeats nothing from some index on, the search passes that index and then one
identifier for everybody who waits, at most. -/
theorem expect_of_distinctFrom {k : Nat} (h : DistinctFrom k t.source.stream) (now : Nat)
    (recipient : Recipient) :
    ∃ id next, t.expect now recipient = some (id, next) ∧
      next.source.drawn ≤ t.source.drawn + (k + t.size + 1) := by
  have hlater : DistinctFrom (t.source.drawn + k) t.source.stream := by
    intro m n hm
    exact h m n (by omega)
  obtain ⟨n, hfrom, hbelow, hunused⟩ := hlater.exists_not_mem t.ids
  have hreturns : (t.expect now recipient).isSome = true :=
    isSome_expect_iff.mpr ⟨n, by omega, hunused⟩
  obtain ⟨⟨id, next⟩, hexpect⟩ := Option.isSome_iff_exists.mp hreturns
  obtain ⟨skipped, hskipped, _, _, rfl⟩ := skipped_of_expect hexpect
  refine ⟨id, _, hexpect, ?_⟩
  -- The identifier at n is not in use, so it is not among those that were skipped.
  have hbound : skipped ≤ n - t.source.drawn := by
    by_contra hbeyond
    have hused := hskipped (n - t.source.drawn) (by omega)
    rw [Nat.add_sub_cancel' (by omega)] at hused
    exact hunused hused
  have hsize : t.ids.length = t.size := List.length_map _
  change t.source.drawn + (skipped + 1) ≤ _
  omega

theorem stream_expect (h : t.expect now recipient = some (id, next)) :
    next.source.stream = t.source.stream := by
  obtain ⟨skipped, _, _, _, rfl⟩ := skipped_of_expect h
  rfl

theorem source_take : (t.take id).2.source = t.source := by
  unfold take
  split <;> rfl

end ReplyTable

theorem Loop.stream_repliesAfter {loop : Loop} {now : Nat} {gone : Nat → Bool}
    {event : LoopEvent} :
    (loop.repliesAfter now gone event).source.stream = loop.replies.source.stream := by
  unfold repliesAfter
  split
  · split
    · next expected => exact ReplyTable.stream_expect expected
    · rfl
  · split
    · rw [ReplyTable.source_take]
    · rfl
  · rfl
  · rfl

/-- Only the search for an identifier goes on forever, and only if no identifier is left for the
recipient of a request. -/
theorem Reaction.spinning_iff {r : Reaction} :
    r.outcome.task = .spinning ↔
      ∃ topic data recipient, r.event = .command (.emit topic data (some recipient)) ∧
        r.loop.replies.expect r.now recipient = none := by
  constructor
  · intro hspinning
    have hspins : r.verdict = .spins := by
      rw [outcome_eq] at hspinning
      cases hverdict : r.verdict <;> simp [hverdict, Loop.conclude] at hspinning ⊢
    have hreacts := r.reacts
    rw [hspins] at hreacts
    generalize r.event = event at hreacts
    cases hreacts with
    | spun topic data recipient exhausted => exact ⟨topic, data, recipient, rfl, exhausted⟩
  · rintro ⟨topic, data, recipient, hevent, hnone⟩
    rw [outcome, hevent, Loop.step, Loop.react, Loop.obey, hnone]
    rfl

namespace Run

variable {config : LoopConfig} {history : List Reaction} {task : Task}

/-- A run draws from the stream that the loop was started with. -/
theorem stream_eq (run : Run config history task) :
    ∀ loop, task = .running loop → loop.replies.source.stream = config.source.stream := by
  induction run with
  | start now =>
    intro loop hloop
    obtain ⟨sweep, rfl⟩ := Loop.start_running hloop
    rfl
  | react r before ih =>
    intro next hnext
    rw [(Reaction.remembers hnext).2, Loop.stream_repliesAfter, ih r.loop rfl]

theorem not_spinning_of_distinctFrom {k : Nat} (run : Run config history task)
    (h : DistinctFrom k config.source.stream) : task ≠ .spinning := by
  cases run with
  | start now =>
    unfold Loop.start
    split <;> simp [Loop.conclude]
  | react r before =>
    intro hspinning
    obtain ⟨_, _, recipient, _, hnone⟩ := Reaction.spinning_iff.mp hspinning
    rw [← before.stream_eq r.loop rfl] at h
    obtain ⟨id, next, hexpect, _⟩ := ReplyTable.expect_of_distinctFrom h r.now recipient
    exact absurd (hnone.symm.trans hexpect) (by simp)

end Run

/-- Identifiers are handed out fresh, or the search for one goes on forever.  Whatever the stream, the
search ends if and only if some identifier to come is not in use; it then has drawn everything up to
the first such one and nothing else, and the table differs by the new recipient at its end.  If the
stream repeats nothing from index `k` on, the draws are at most `k` and one more than there are
recipients, and no run gets stuck.  In every run those who wait do so under different identifiers. -/
theorem identifiers_assigned :
    (∀ (stream : Nat → String) drawn,
      ∃ source : IdSource, source.stream = stream ∧ source.drawn = drawn) ∧
      (∀ (t : ReplyTable) now recipient,
        ((t.expect now recipient).isSome = true ↔
          ∃ n, t.source.drawn ≤ n ∧ t.source.stream n ∉ t.ids) ∧
        (∀ id next, t.expect now recipient = some (id, next) →
          ∃ skipped, (∀ n < skipped, t.source.stream (t.source.drawn + n) ∈ t.ids) ∧
            id = t.source.stream (t.source.drawn + skipped) ∧ id ∉ t.ids ∧
            next =
              { t with
                waiters := t.waiters ++ [⟨id, recipient, now⟩]
                source := { t.source with drawn := t.source.drawn + (skipped + 1) } }) ∧
        ∀ k, DistinctFrom k t.source.stream →
          ∃ id next, t.expect now recipient = some (id, next) ∧
            next.source.drawn ≤ t.source.drawn + (k + t.size + 1)) ∧
      (∀ r : Reaction, r.outcome.task = .spinning ↔
        ∃ topic data recipient, r.event = .command (.emit topic data (some recipient)) ∧
          ∀ n, r.loop.replies.source.drawn ≤ n →
            r.loop.replies.source.stream n ∈ r.loop.replies.ids) ∧
      ∀ config history task, Run config history task →
        (∀ loop, task = .running loop →
          loop.replies.Distinct ∧ loop.replies.source.stream = config.source.stream) ∧
        ∀ k, DistinctFrom k config.source.stream → task ≠ .spinning := by
  refine ⟨IdSource.exists_of_stream, ?_, ?_, ?_⟩
  · intro t now recipient
    refine ⟨ReplyTable.isSome_expect_iff, fun id next => ReplyTable.skipped_of_expect, ?_⟩
    intro k hdistinct
    exact ReplyTable.expect_of_distinctFrom hdistinct now recipient
  · intro r
    have hnone (recipient : Recipient) : r.loop.replies.expect r.now recipient = none ↔
        ∀ n, r.loop.replies.source.drawn ≤ n →
          r.loop.replies.source.stream n ∈ r.loop.replies.ids := by
      rw [← Option.not_isSome_iff_eq_none, ReplyTable.isSome_expect_iff]
      simp only [not_exists, not_and, not_not]
    rw [Reaction.spinning_iff]
    simp only [hnone]
  · intro config history task run
    refine ⟨?_, fun k => run.not_spinning_of_distinctFrom⟩
    intro loop hloop
    exact ⟨run.distinct loop hloop, run.stream_eq loop hloop⟩

/-- A table in which somebody waits under the identifier that its source goes on to repeat. -/
def sevenInUse : ReplyTable :=
  ⟨[⟨"7", .callback (.plain "first"), 0⟩], IdSource.ofList ["7", "7", "8"], none⟩

theorem identifiers_assigned_of_sevenInUse :
    ((sevenInUse.expect 5 (.channel 1)).map fun (found : String × ReplyTable) =>
        (found.1, found.2.ids, found.2.source.drawn)) = some ("8", ["7", "8"], 3) ∧
      ∃ id next, sevenInUse.expect 5 (.channel 1) = some (id, next) ∧
        next.source.drawn ≤ 0 + (3 + 1 + 1) :=
  ⟨by decide, (identifiers_assigned.2.1 sevenInUse 5 (.channel 1)).2.2 3
    (IdSource.listed_distinctFrom ["7", "7", "8"])⟩

end EventLink
