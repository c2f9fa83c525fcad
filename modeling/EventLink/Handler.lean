import EventLink.Json.Value
/-!
Handlers: what a user of the client wants to be called.

Of a handler it is known what it is called, what it asks of the client while it runs, and whether it
panics at its end.  Calls that are made under guard do not get in each other's way: a panic ends the
call that it happens in, and the calls after it are made all the same.
-/
namespace EventLink

open Json (Value)

/-- Code of the user that the client calls. -/
structure Handler where
  name : String
  panics : Bool
  thenEmit : Option String
  thenOn : Option String
  deriving DecidableEq, Repr

/-- A handler that only takes note of its calls. -/
def Handler.plain (name : String) : Handler :=
  ⟨name, false, none, none⟩

/-- A call of a handler, with an argument if it takes one. -/
structure Call where
  handler : Handler
  argument : Option Value
  deriving Repr

namespace Call

/-- Makes calls one after another until one panics.  Returns the calls that were made, and whether
the last of them panicked. -/
def makeAll : List Call → List Call × Bool
  | [] => ([], false)
  | c :: rest =>
    if c.handler.panics then ([c], true)
    else
      let (made, panicked) := makeAll rest
      (c :: made, panicked)

/-- Makes a call under guard: whether it panicked is forgotten. -/
def makeGuarded (c : Call) : List Call :=
  (makeAll [c]).1

/-- Makes calls one after another, each of them under guard. -/
def makeEachGuarded (calls : List Call) : List Call :=
  calls.flatMap makeGuarded

@[simp]
theorem makeGuarded_eq (c : Call) : c.makeGuarded = [c] := by
  unfold makeGuarded
  cases h : c.handler.panics <;> simp [makeAll, h]

/-- Under guard all calls are made, whichever of them panic. -/
@[simp]
theorem makeEachGuarded_eq (calls : List Call) : makeEachGuarded calls = calls := by
  induction calls with
  | nil => rfl
  | cons c rest ih =>
    unfold makeEachGuarded at ih ⊢
    rw [List.flatMap_cons, makeGuarded_eq, ih]
    rfl

end Call

end EventLink
