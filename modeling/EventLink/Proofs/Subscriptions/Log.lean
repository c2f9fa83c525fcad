import EventLink.Proofs.Loop.Audience
import EventLink.Proofs.Loop.Calls
/-!
Subscriptions as a log of registrations.

Whatever is asked of subscriptions, they answer as the plain list of all registrations would.  They
keep an order of topics and a table of handlers, which stay in step, and neither shows outside.
-/
namespace EventLink

open Json (Value)

/-- What subscriptions are used for. -/
inductive SubscriptionUse where
  | add (topic : String) (handler : Handler)
  | watch (event : LinkEvent) (call : Call)
  | dispatch (topic : String) (data : Value)
  | fire (event : LinkEvent)

/-- What comes of a use: whether a topic was new, nothing, or the number of calls and the calls that
were made. -/
inductive SubscriptionAnswer where
  | isNew (first : Bool)
  | noted
  | made (number : Nat) (calls : List Call)

namespace Subscriptions

/-- The answer to a use, and the subscriptions after it. -/
def answer (s : Subscriptions) : SubscriptionUse → SubscriptionAnswer × Subscriptions
  | .add topic handler => (.isNew (s.addHandler topic handler).1, (s.addHandler topic handler).2)
  | .watch event call => (.noted, s.addWatcher event call)
  | .dispatch topic data => (.made (s.count topic) (s.delivery topic data), s)
  | .fire event => (.made (s.watchersOf event).length (s.firing event), s)

/-- The answers to uses one after another, and the subscriptions after them. -/
def answers (s : Subscriptions) : List SubscriptionUse → List SubscriptionAnswer × Subscriptions
  | [] => ([], s)
  | use :: rest =>
    let (first, next) := s.answer use
    let (later, last) := next.answers rest
    (first :: later, last)

def ofUses (uses : List SubscriptionUse) : Subscriptions :=
  (empty.answers uses).2

end Subscriptions

namespace SubscriptionUse

def topic? : SubscriptionUse → Option String
  | add topic _ => some topic
  | _ => none

def handler? (topic : String) : SubscriptionUse → Option Handler
  | add name handler => if name = topic then some handler else none
  | _ => none

def watcher? (event : LinkEvent) : SubscriptionUse → Option Call
  | watch moment call => if moment = event then some call else none
  | _ => none

end SubscriptionUse

/-- The uses of subscriptions so far. -/
structure SubscriptionLog where
  uses : List SubscriptionUse

namespace SubscriptionLog

/-- The topics that handlers were added to, once for each handler. -/
def topics (log : SubscriptionLog) : List String :=
  log.uses.filterMap SubscriptionUse.topic?

def handlersOf (log : SubscriptionLog) (topic : String) : List Handler :=
  log.uses.filterMap (SubscriptionUse.handler? topic)

def watchersOf (log : SubscriptionLog) (event : LinkEvent) : List Call :=
  log.uses.filterMap (SubscriptionUse.watcher? event)

/-- What a log answers to a use. -/
def answer (log : SubscriptionLog) : SubscriptionUse → SubscriptionAnswer
  | .add topic _ => .isNew (decide (topic ∉ log.topics))
  | .watch _ _ => .noted
  | .dispatch topic data =>
    .made (log.handlersOf topic).length
      ((log.handlersOf topic).map fun (handler : Handler) => ⟨handler, some data⟩)
  | .fire event => .made (log.watchersOf event).length (log.watchersOf event)

/-- What a log answers to uses one after another, each of which it takes down. -/
def answers (log : SubscriptionLog) : List SubscriptionUse → List SubscriptionAnswer
  | [] => []
  | use :: rest => log.answer use :: (SubscriptionLog.mk (log.uses ++ [use])).answers rest

end SubscriptionLog

namespace Subscriptions

/-- The subscriptions hold what a log says. -/
structure Refines (s : Subscriptions) (log : SubscriptionLog) : Prop where
  topics : s.topics = log.topics.eraseDups
  handlersOf : ∀ topic, s.handlersOf topic = log.handlersOf topic
  watchersOf : ∀ event, s.watchersOf event = log.watchersOf event

variable {s : Subscriptions} {log : SubscriptionLog}

/-- A topic that has a place in the order has a handler. -/
theorem mem_topics_iff_count_pos (s : Subscriptions) (topic : String) :
    topic ∈ s.topics ↔ 0 < s.count topic := by
  have hhandled := s.inStep.handled topic
  rw [mem_topics_iff, contains, count, handlersOf]
  cases hknown : s.table.handlers topic with
  | none => simp
  | some handlers =>
    rw [hknown] at hhandled
    have hsome : handlers ≠ [] := fun hempty => hhandled (congrArg some hempty)
    simpa using List.length_pos_iff.mpr hsome

theorem first_addHandler (s : Subscriptions) (topic : String) (handler : Handler) :
    (s.addHandler topic handler).1 = decide (topic ∉ s.topics) := by
  have hlisted := s.mem_topics_iff topic
  rw [contains] at hlisted
  change (s.table.add topic handler).1 = _
  cases hknown : s.table.handlers topic with
  | none => simp [TopicTable.add_of_none hknown, hlisted, hknown]
  | some handlers => simp [TopicTable.add_of_some hknown, hlisted, hknown]

theorem handlersOf_addWatcher (s : Subscriptions) (event : LinkEvent) (call : Call)
    (topic : String) : (s.addWatcher event call).handlersOf topic = s.handlersOf topic := by
  cases event <;> rfl

theorem empty_refines : empty.Refines ⟨[]⟩ where
  topics := rfl
  handlersOf := fun _ => rfl
  watchersOf := fun event => by cases event <;> rfl

/-- Subscriptions that hold what a log says answer as it does. -/
theorem Refines.answer_eq (h : s.Refines log) (use : SubscriptionUse) :
    (s.answer use).1 = log.answer use := by
  cases use with
  | add topic handler =>
    rw [answer, SubscriptionLog.answer, first_addHandler, h.topics]
    simp
  | watch event call => rfl
  | dispatch topic data =>
    rw [answer, SubscriptionLog.answer, count, delivery, Call.makeEachGuarded_eq, h.handlersOf]
  | fire event => rw [answer, SubscriptionLog.answer, firing_eq, h.watchersOf]

/-- After a use they hold what the log says with the use taken down. -/
theorem Refines.answer (h : s.Refines log) (use : SubscriptionUse) :
    (s.answer use).2.Refines ⟨log.uses ++ [use]⟩ := by
  constructor
  case topics =>
    rw [SubscriptionLog.topics, List.filterMap_append]
    cases use with
    | add topic handler =>
      refine (topics_addHandler s topic handler).trans ?_
      rw [h.topics]
      exact (eraseDups_snoc log.topics topic).symm
    | watch event call =>
      refine (topics_addWatcher s event call).trans (h.topics.trans ?_)
      exact congrArg List.eraseDups (List.append_nil log.topics).symm
    | _ => exact h.topics.trans (congrArg List.eraseDups (List.append_nil log.topics).symm)
  case handlersOf =>
    intro topic
    have hnobody : s.handlersOf topic = log.handlersOf topic ++ [] :=
      (h.handlersOf topic).trans (List.append_nil _).symm
    rw [SubscriptionLog.handlersOf, List.filterMap_append]
    cases use with
    | add name handler =>
      refine (handlersOf_addHandler s name topic handler).trans ?_
      rw [h.handlersOf, SubscriptionLog.handlersOf]
      by_cases hsame : name = topic <;> simp [SubscriptionUse.handler?, hsame]
    | watch event call => exact (handlersOf_addWatcher s event call topic).trans hnobody
    | _ => exact hnobody
  case watchersOf =>
    intro event
    have hnobody : s.watchersOf event = log.watchersOf event ++ [] :=
      (h.watchersOf event).trans (List.append_nil _).symm
    rw [SubscriptionLog.watchersOf, List.filterMap_append]
    cases use with
    | add name handler => exact (watchersOf_addHandler s name handler event).trans hnobody
    | watch moment call =>
      refine (watchersOf_addWatcher s moment event call).trans ?_
      rw [h.watchersOf, SubscriptionLog.watchersOf]
      by_cases hsame : moment = event <;> simp [SubscriptionUse.watcher?, hsame]
    | _ => exact hnobody

/-- So it goes on, however long the subscriptions are used. -/
theorem Refines.answers (h : s.Refines log) (uses : List SubscriptionUse) :
    (s.answers uses).1 = log.answers uses ∧
      (s.answers uses).2.Refines ⟨log.uses ++ uses⟩ := by
  induction uses generalizing s log with
  | nil => exact ⟨rfl, by rwa [List.append_nil]⟩
  | cons use rest ih =>
    obtain ⟨hanswers, hrefines⟩ := ih (h.answer use)
    rw [List.append_assoc] at hrefines
    refine ⟨?_, hrefines⟩
    rw [Subscriptions.answers, SubscriptionLog.answers, ← h.answer_eq use, ← hanswers]

/-- Subscriptions refine the log of their uses.  To every use, whatever came before it and whichever
handlers panic, they answer as the log does: a topic is new if no handler was added to it before, and
a dispatch or a fire calls exactly those who were added for it, in their order, and counts them.  The
topics are those that handlers were added to, each once and in the order of the first additions, and
they are the ones with handlers to count.  Handlers and watchers never mix, whatever a topic is called,
and a dispatch or a fire changes nothing. -/
theorem refine_log (uses : List SubscriptionUse) :
    (empty.answers uses).1 = SubscriptionLog.answers ⟨[]⟩ uses ∧
      (ofUses uses).Refines ⟨uses⟩ ∧ (ofUses uses).topics.Nodup ∧
      (∀ topic, ((ofUses uses).contains topic = true ↔ topic ∈ (ofUses uses).topics) ∧
        (topic ∈ (ofUses uses).topics ↔ 0 < (ofUses uses).count topic) ∧
        (ofUses uses).count topic = ((SubscriptionLog.mk uses).handlersOf topic).length) ∧
      (∀ (s : Subscriptions) topic handler event,
        (s.answer (.add topic handler)).2.watchersOf event = s.watchersOf event) ∧
      (∀ (s : Subscriptions) event call topic,
        (s.answer (.watch event call)).2.topics = s.topics ∧
          (s.answer (.watch event call)).2.handlersOf topic = s.handlersOf topic) ∧
      (∀ (s : Subscriptions) topic data, (s.answer (.dispatch topic data)).2 = s) ∧
      ∀ (s : Subscriptions) event, (s.answer (.fire event)).2 = s := by
  obtain ⟨hanswers, hrefines⟩ := empty_refines.answers uses
  refine ⟨hanswers, hrefines, (ofUses uses).inStep.nodup, ?_, watchersOf_addHandler, ?_,
    fun _ _ _ => rfl, fun _ _ => rfl⟩
  · intro topic
    refine ⟨(mem_topics_iff _ topic).symm, mem_topics_iff_count_pos _ topic, ?_⟩
    rw [count, ofUses, hrefines.handlersOf]
    rfl
  · intro s event call topic
    exact ⟨s.topics_addWatcher event call, s.handlersOf_addWatcher event call topic⟩

/-- Handlers of a topic that is called like a moment, one of which panics, and a watcher of the
moment. -/
def namesakes : List SubscriptionUse :=
  [.add "open" ⟨"first", true, none, none⟩, .watch .opened ⟨.plain "watcher", none⟩,
    .add "news" (.plain "other"), .add "open" (.plain "second"), .dispatch "open" .null,
    .fire .opened]

theorem refine_log_of_namesakes :
    (empty.answers namesakes).1 =
        [.isNew true, .noted, .isNew true, .isNew false,
          .made 2 [⟨⟨"first", true, none, none⟩, some .null⟩, ⟨.plain "second", some .null⟩],
          .made 1 [⟨.plain "watcher", none⟩]] ∧
      (ofUses namesakes).topics = ["open", "news"] :=
  ⟨rfl, (refine_log namesakes).2.1.topics⟩

end Subscriptions

end EventLink
