import EventLink.Proofs.Frame.NumericIds
import EventLink.Proofs.Loop.Fate
import EventLink.Proofs.Loop.Identifiers
/-!
Replies to requests that are named by integers.

The identifiers that a client draws by itself are decimal forms of integers.  A reply ends the waiting of
the same recipient whether it writes such an identifier as a number or as a string, and one for another
integer leaves that recipient waiting.
-/
namespace EventLink

open Json (Value Represents Number toString_integer_injective)
open IncomingFrame (replyText inQuotes decode decode_number_id decode_quoted_id)

/-- The two texts of a reply under an integer: it is written as a number, or as a string. -/
def integerReplies (n : Int) (data : String) : List String :=
  [replyText (toString n) data, replyText (inQuotes (toString n)) data]

/-- A stream of decimal numbers from the space of those that need no list. -/
def IsDecimalStream (stream : Nat → String) : Prop :=
  ∀ index, ∃ k < IdSource.spaceSize, stream index = toString k

theorem IdSource.isDecimalStream_decimals : IsDecimalStream IdSource.decimals.stream :=
  fun index => ⟨index % spaceSize, Nat.mod_lt _ (by decide), rfl⟩

variable {n : Int} {data text : String} {v : Value}

theorem decode_of_mem_integerReplies (word : (Number.integer n).IsWord) (carried : Represents data v)
    (nested : v.depth ≤ 126) (h : text ∈ integerReplies n data) :
    decode text = .ok (.reply (toString n) v.canonical) := by
  rcases List.mem_pair.mp h with rfl | rfl
  · exact decode_number_id word carried nested
  · exact decode_quoted_id n carried nested

namespace Loop

variable {loop : Loop}

theorem receiveText_of_decode {frame : IncomingFrame} (h : decode text = .ok frame) :
    loop.receiveText text = loop.deliver frame := by
  rw [receiveText, h]

/-- A reply leaves everybody waiting who does so under another identifier. -/
theorem mem_waiters_deliver_reply {id : String} {w : Waiter} (waits : w ∈ loop.replies.waiters)
    (other : w.id ≠ id) (given : Value) :
    w ∈ (loop.deliver (.reply id given)).loop.replies.waiters := by
  change w ∈ (loop.replies.take id).2.waiters
  rw [ReplyTable.waiters_take, List.mem_filter]
  exact ⟨waits, bne_iff_ne.mpr other⟩

end Loop

namespace Run

variable {config : LoopConfig} {history : List Reaction} {task : Task}

/-- Whoever waits does so under an identifier that the source of the loop has given. -/
theorem exists_drawn (run : Run config history task) :
    ∀ loop, task = .running loop → ∀ w ∈ loop.replies.waiters,
      ∃ index, w.id = config.source.stream index := by
  rintro loop rfl w waits
  rw [run.waiters_eq loop rfl, mem_pending] at waits
  obtain ⟨later, hregistered, _⟩ := waits
  obtain ⟨before, r, rfl, hw⟩ := mem_withLater.mp hregistered
  have hbefore := run.before
  unfold Reaction.registered? at hw
  split at hw
  · obtain ⟨⟨id, next⟩, hexpect, rfl⟩ := Option.map_eq_some_iff.mp hw
    obtain ⟨index, _, rfl, _⟩ := ReplyTable.expect_eq_some_iff.mp hexpect
    exact ⟨index, congrFun (hbefore.stream_eq r.loop rfl) index⟩
  · cases hw

/-- With a source of decimal numbers everybody waits under an integer of 64 bits. -/
theorem exists_integer_id (run : Run config history task)
    (decimal : IsDecimalStream config.source.stream) :
    ∀ loop, task = .running loop → ∀ w ∈ loop.replies.waiters,
      ∃ n : Int, (Number.integer n).IsWord ∧ w.id = toString n := by
  intro loop hloop w waits
  obtain ⟨index, hid⟩ := run.exists_drawn loop hloop w waits
  obtain ⟨k, hk, hdecimal⟩ := decimal index
  refine ⟨k, ⟨by omega, ?_⟩, hid.trans hdecimal⟩
  rw [IdSource.spaceSize] at hk
  omega

end Run

/-- An integer of 64 bits names a reply as a number just as it does as a string.  Both texts are read as
the same reply, and whoever waits under that integer is given the data and waits no more, while all
others stay.  Neither text ends the waiting of anybody who waits under another integer.  Where the source
gives decimal numbers, as it does unless it is replaced, everybody waits under such an integer. -/
theorem integer_id_as_number_or_string :
    (∀ (n : Int) (data : String) (v : Value), (Number.integer n).IsWord → Represents data v →
      v.depth ≤ 126 →
        decode (replyText (toString n) data) = decode (replyText (inQuotes (toString n)) data) ∧
          ∀ text ∈ integerReplies n data,
            decode text = .ok (.reply (toString n) v.canonical) ∧
              ∀ (loop : Loop) (first last : List Waiter) (w : Waiter), loop.replies.Distinct →
                loop.replies.waiters = first ++ w :: last →
                  (w.id = toString n →
                    loop.receiveText text =
                      ⟨{ loop with replies := { loop.replies with waiters := first ++ last } },
                        [.handover v.canonical w.recipient, .measured (.replied true)]⟩) ∧
                  ∀ m : Int, m ≠ n → w.id = toString m →
                    w ∈ (loop.receiveText text).loop.replies.waiters) ∧
      IsDecimalStream IdSource.decimals.stream ∧
      ∀ config history loop, Run config history (.running loop) →
        IsDecimalStream config.source.stream →
          loop.replies.Distinct ∧
            ∀ w ∈ loop.replies.waiters,
              ∃ n : Int, (Number.integer n).IsWord ∧ w.id = toString n := by
  refine ⟨?_, IdSource.isDecimalStream_decimals, ?_⟩
  · intro n data v word carried nested
    have read (text : String) (h : text ∈ integerReplies n data) :=
      decode_of_mem_integerReplies word carried nested h
    refine ⟨(read _ List.mem_cons_self).trans (read _ (by simp [integerReplies])).symm, ?_⟩
    intro text htext
    refine ⟨read text htext, ?_⟩
    intro loop first last w distinct split
    rw [Loop.receiveText_of_decode (read text htext)]
    constructor
    · intro hid
      rw [← hid, Loop.deliver_reply distinct split, Effect.ofReply_eq]
      rfl
    · intro m hother hid
      have waits : w ∈ loop.replies.waiters := split ▸ List.mem_append_right _ List.mem_cons_self
      refine Loop.mem_waiters_deliver_reply waits ?_ v.canonical
      rw [hid]
      exact fun same => hother (toString_integer_injective same)
  · intro config history loop run decimal
    exact ⟨run.distinct loop rfl, run.exists_integer_id decimal loop rfl⟩

def twoAsked : List (Nat × LoopEvent) :=
  [(0, .command (.emit "x" none (some (.callback (.plain "first"))))),
    (0, .command (.emit "y" none (some (.channel 5))))]

theorem integer_id_as_number_or_string_after_twoAsked :
    (∀ text ∈ integerReplies (-0x8000000000000000) "[7]",
      decode text = .ok (.reply "-9223372036854775808" (.array [.ofInt 7]))) ∧
      ∃ loop, (LoopConfig.standard.replay twoAsked).2 = .running loop ∧
        (∀ text ∈ integerReplies 1 "[7]",
          (loop.receiveText text).effects =
              [.replied 5 (.array [.ofInt 7]), .measured (.replied true)] ∧
            (loop.receiveText text).loop.replies.ids = ["0"]) ∧
        (∀ text ∈ integerReplies 2 "[7]",
          ⟨"1", .channel 5, 0⟩ ∈ (loop.receiveText text).loop.replies.waiters) ∧
        ∀ w ∈ loop.replies.waiters, ∃ n : Int, (Number.integer n).IsWord ∧ w.id = toString n := by
  obtain ⟨reads, decimal, ids⟩ := integer_id_as_number_or_string
  have seven : Represents "[7]" (.array [.ofInt 7]) :=
    Json.represents_of_contents (by decide +kernel) (by decide)
  obtain ⟨loop, hloop, hwaiters⟩ :
      ∃ loop, (LoopConfig.standard.replay twoAsked).2 = .running loop ∧
        loop.replies.waiters =
          [⟨"0", .callback (.plain "first"), 0⟩] ++ ⟨"1", .channel 5, 0⟩ :: [] := ⟨_, rfl, rfl⟩
  have run := LoopConfig.standard.run_replay twoAsked
  rw [hloop] at run
  obtain ⟨distinct, integers⟩ := ids _ _ loop run decimal
  refine ⟨?_, loop, hloop, ?_, ?_, integers⟩
  · intro text htext
    exact ((reads _ _ _ (by decide) seven (by decide)).2 text htext).1
  · intro text htext
    have taken := (((reads 1 _ _ (by decide) seven (by decide)).2 text htext).2 loop _ _ _ distinct
      hwaiters).1 rfl
    rw [taken]
    exact ⟨rfl, rfl⟩
  · intro text htext
    exact (((reads 2 _ _ (by decide) seven (by decide)).2 text htext).2 loop _ _ _ distinct
      hwaiters).2 1 (by decide) rfl

end EventLink
