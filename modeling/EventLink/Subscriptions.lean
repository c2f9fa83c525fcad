import EventLink.Handler
/-!
Who wants to be called, and when.

Topics are kept in the order in which they were first subscribed to, and the handlers of a topic in
the order in which they were added.  The two moments in the life of a connection have watchers of
their own, which never mix with the handlers of topics, not even of topics that have the same name.
-/
namespace EventLink

open Json (Value)

/-- A connection gets online, or it is lost after that. -/
inductive LinkEvent where
  | opened
  | closed
  deriving DecidableEq, Repr

/-- The reserved name of such a moment. -/
def LinkEvent.reservedName : LinkEvent → String
  | opened => "open"
  | closed => "close"

/-- What a name stands for when a handler is registered under it. -/
inductive Interest where
  | link (event : LinkEvent)
  | topic (name : String)
  deriving DecidableEq, Repr

/-- Two names are reserved; all others are topics. -/
def Interest.ofName (name : String) : Interest :=
  if name = LinkEvent.opened.reservedName then .link .opened
  else if name = LinkEvent.closed.reservedName then .link .closed
  else .topic name

/-- The topics that have handlers, in the order of their first handlers, and the handlers of each. -/
structure TopicTable where
  order : List String
  handlers : String → Option (List Handler)

namespace TopicTable

def empty : TopicTable :=
  ⟨[], fun (_ : String) => none⟩

/-- The handlers of a topic are replaced, or put in if it had none. -/
def put (t : TopicTable) (topic : String) (handlers : List Handler) :
    String → Option (List Handler) :=
  fun (name : String) => if name = topic then some handlers else t.handlers name

/-- Adds a handler of a topic.  True if the topic is new. -/
def add (t : TopicTable) (topic : String) (handler : Handler) : Bool × TopicTable :=
  match t.handlers topic with
  | some handlers => (false, { t with handlers := t.put topic (handlers ++ [handler]) })
  | none => (true, ⟨t.order ++ [topic], t.put topic [handler]⟩)

/-- The order lists exactly the topics that have handlers, each of them once. -/
structure InStep (t : TopicTable) : Prop where
  nodup : t.order.Nodup
  mem_order_iff : ∀ topic, topic ∈ t.order ↔ (t.handlers topic).isSome = true
  handled : ∀ topic, t.handlers topic ≠ some []

variable {t : TopicTable} {topic : String} {handler : Handler}

theorem empty_inStep : empty.InStep where
  nodup := .nil
  mem_order_iff := by simp [empty]
  handled := by simp [empty]

theorem add_of_some {handlers : List Handler} (h : t.handlers topic = some handlers) :
    t.add topic handler = (false, { t with handlers := t.put topic (handlers ++ [handler]) }) := by
  rw [add, h]

theorem add_of_none (h : t.handlers topic = none) :
    t.add topic handler = (true, ⟨t.order ++ [topic], t.put topic [handler]⟩) := by
  rw [add, h]

/-- A topic gets its place in the order with its first handler, and never another one. -/
theorem InStep.add (h : t.InStep) (topic : String) (handler : Handler) :
    (t.add topic handler).2.InStep := by
  cases hknown : t.handlers topic with
  | some handlers =>
    have hlisted : topic ∈ t.order := (h.mem_order_iff topic).mpr (by rw [hknown]; rfl)
    rw [add_of_some hknown]
    refine ⟨h.nodup, ?_, ?_⟩ <;> intro name <;> by_cases hsame : name = topic
    · simp [put, hsame, hlisted]
    · simp [put, hsame, h.mem_order_iff name]
    · simp [put, hsame]
    · simpa [put, hsame] using h.handled name
  | none =>
    have hunlisted : topic ∉ t.order := by rw [h.mem_order_iff topic, hknown]; decide
    rw [add_of_none hknown]
    refine ⟨?_, ?_, ?_⟩
    · rw [List.Nodup, List.pairwise_append]
      refine ⟨h.nodup, List.pairwise_singleton _ _, ?_⟩
      intro name hname other hother
      obtain rfl := List.mem_singleton.mp hother
      rintro rfl
      exact hunlisted hname
    · intro name
      by_cases hsame : name = topic <;> simp [put, hsame, h.mem_order_iff name]
    · intro name
      by_cases hsame : name = topic
      · simp [put, hsame]
      · simpa [put, hsame] using h.handled name

end TopicTable

/-- The handlers of topics, and the watchers of the connection.  A watcher is kept as the call that
it leads to. -/
structure Subscriptions where
  table : TopicTable
  inStep : table.InStep
  onOpened : List Call
  onClosed : List Call

namespace Subscriptions

def empty : Subscriptions :=
  ⟨.empty, TopicTable.empty_inStep, [], []⟩

/-- The topics, in the order of their first handlers. -/
def topics (s : Subscriptions) : List String :=
  s.table.order

def handlersOf (s : Subscriptions) (topic : String) : List Handler :=
  (s.table.handlers topic).getD []

def contains (s : Subscriptions) (topic : String) : Bool :=
  (s.table.handlers topic).isSome

def count (s : Subscriptions) (topic : String) : Nat :=
  (s.handlersOf topic).length

/-- Adds a handler of a topic.  True if it is the first one. -/
def addHandler (s : Subscriptions) (topic : String) (handler : Handler) : Bool × Subscriptions :=
  ((s.table.add topic handler).1,
    { s with
      table := (s.table.add topic handler).2
      inStep := s.inStep.add topic handler })

def addWatcher (s : Subscriptions) (event : LinkEvent) (call : Call) : Subscriptions :=
  match event with
  | .opened => { s with onOpened := s.onOpened ++ [call] }
  | .closed => { s with onClosed := s.onClosed ++ [call] }

def watchersOf (s : Subscriptions) (event : LinkEvent) : List Call :=
  match event with
  | .opened => s.onOpened
  | .closed => s.onClosed

/-- Calls the handlers of a topic with the data of a delivery, and returns the calls made. -/
def delivery (s : Subscriptions) (topic : String) (data : Value) : List Call :=
  Call.makeEachGuarded ((s.handlersOf topic).map fun (handler : Handler) => ⟨handler, some data⟩)

/-- Calls the watchers of a moment, and returns the calls made. -/
def firing (s : Subscriptions) (event : LinkEvent) : List Call :=
  Call.makeEachGuarded (s.watchersOf event)

theorem mem_topics_iff (s : Subscriptions) (topic : String) :
    topic ∈ s.topics ↔ s.contains topic = true :=
  s.inStep.mem_order_iff topic

/-- A topic gets its place when its first handler is added. -/
theorem topics_addHandler (s : Subscriptions) (topic : String) (handler : Handler) :
    (s.addHandler topic handler).2.topics =
      if topic ∈ s.topics then s.topics else s.topics ++ [topic] := by
  change (s.table.add topic handler).2.order = _
  have hlisted := s.mem_topics_iff topic
  rw [contains] at hlisted
  cases hknown : s.table.handlers topic with
  | some handlers =>
    rw [hknown] at hlisted
    rw [if_pos (hlisted.mpr rfl), TopicTable.add_of_some hknown]
    rfl
  | none =>
    rw [hknown] at hlisted
    rw [if_neg fun hmem => Bool.false_ne_true (hlisted.mp hmem), TopicTable.add_of_none hknown]
    rfl

theorem topics_addWatcher (s : Subscriptions) (event : LinkEvent) (call : Call) :
    (s.addWatcher event call).topics = s.topics := by
  cases event <;> rfl

end Subscriptions

end EventLink
