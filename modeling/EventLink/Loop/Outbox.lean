/-!
Frames that wait for a connection, the oldest first.
-/
namespace EventLink

/-- A queue that also takes frames back at its front. -/
structure Outbox (Frame : Type) where
  frames : List Frame
  deriving DecidableEq, Repr

namespace Outbox

variable {Frame : Type}

def empty : Outbox Frame :=
  ⟨[]⟩

def add (outbox : Outbox Frame) (frame : Frame) : Outbox Frame :=
  ⟨outbox.frames ++ [frame]⟩

def takeAll (outbox : Outbox Frame) : List Frame × Outbox Frame :=
  (outbox.frames, empty)

/-- Puts frames back in front of those that wait, in their order. -/
def putBack (outbox : Outbox Frame) (frames : List Frame) : Outbox Frame :=
  ⟨frames ++ outbox.frames⟩

def size (outbox : Outbox Frame) : Nat :=
  outbox.frames.length

def isEmpty (outbox : Outbox Frame) : Bool :=
  outbox.frames.isEmpty

end Outbox

end EventLink
