import EventLink.Pattern.Element
/-!
Sets of characters between square brackets: members, ranges, named classes, sets within sets, and
the operations `&&`, `--` and `~~` on what stands beside them.

Reading a set gives its height, which is how deep its parts are nested.
-/
namespace EventLink.Pattern

/-- The height of parts side by side: one part alone adds nothing. -/
def rowHeight : List Nat → Nat
  | [] => 0
  | [height] => height
  | heights => 1 + heights.foldl max 0

/-- Heights of the members read since the last operation, and the height of all that it works on. -/
structure Members where
  recent : List Nat
  operand : Option Nat

namespace Members

def height (members : Members) : Nat :=
  match members.operand with
  | none => rowHeight members.recent
  | some height => 1 + max height (rowHeight members.recent)

def add (members : Members) (height : Nat) : Members :=
  { members with recent := height :: members.recent }

/-- The members so far become the operand of an operation. -/
def operate (members : Members) : Members := ⟨[], some members.height⟩

end Members

def classNames : List String :=
  ["alnum", "alpha", "ascii", "blank", "cntrl", "digit", "graph", "lower", "print", "punct",
    "space", "upper", "word", "xdigit"]

def readClassName (cs : List Char) : Option (List Char) :=
  match cs.dropWhile (· != ':') with
  | ':' :: ']' :: rest =>
    if classNames.contains (String.ofList (cs.takeWhile (· != ':'))) then some rest else none
  | _ => none

/-- A named class after its opening bracket: whether it is negated, and what follows. -/
def readClass : List Char → Option (Bool × List Char)
  | ':' :: '^' :: rest => (readClassName rest).map fun rest => (true, rest)
  | ':' :: rest => (readClassName rest).map fun rest => (false, rest)
  | _ => none

/-- Whether a named class can be a member of a set.  Its characters are ASCII, those outside of it
are not. -/
def Mode.admitsClass (mode : Mode) (negated : Bool) : Bool :=
  if mode.unicode then !mode.ignoreCase else !negated

def readMember (mode : Mode) : List Char → Option (Element × List Char)
  | [] => none
  | '\\' :: rest => readEscape mode rest
  | c :: rest => some (.char c false, rest)

/-- Whether a hyphen in front of some characters stands between the ends of a range. -/
def Mode.joins (mode : Mode) (cs : List Char) : Bool :=
  match mode.glance cs with
  | some c => c != ']' && c != '-'
  | none => true

/-- Whether two elements are the ends of a range. -/
def isRange : Element → Element → Bool
  | .char first _, .char last _ => first ≤ last
  | _, _ => false

def readRange (mode : Mode) (cs : List Char) : Option (List Char) :=
  match readMember mode cs with
  | none => none
  | some (first, rest) =>
    if !mode.admitsMember first then none
    else
      match mode.skip rest with
      | '-' :: rest =>
        if mode.joins rest then
          match readMember mode (mode.skip rest) with
          | some (last, rest) =>
            if mode.admitsMember last && isRange first last then some rest else none
          | none => none
        else some ('-' :: rest)
      | rest => some rest

/-- Where in a set a member is looked for: right after the opening, after nothing but hyphens, or
further on.  A bracket in the first place and hyphens in the first two are members. -/
inductive Place where
  | opening
  | hyphens
  | inside
  deriving DecidableEq, Repr

/-- Whether a character is a member because of its place. -/
def Place.claims (place : Place) (c : Char) : Bool :=
  match place with
  | .opening => c == '-' || c == ']'
  | .hyphens => c == '-'
  | .inside => false

/-- The place after a character that is a member because of its place. -/
def Place.after (c : Char) : Place :=
  if c = '-' then .hyphens else .inside

def readNegation (mode : Mode) (cs : List Char) : Bool × List Char :=
  match mode.skip cs with
  | '^' :: rest => (true, rest)
  | rest => (false, rest)

/-- Reads members up to the closing bracket: their height, and what follows.  Each step takes one
character at least, so the number of characters bounds the steps. -/
def readMembers (mode : Mode) :
    Nat → Place → Members → List Char → Option (Nat × List Char)
  | 0, _, _, _ => none
  | steps + 1, place, members, cs =>
    match mode.skip cs with
    | [] => none
    | c :: rest =>
      if place.claims c then
        if mode.admitsMember (.char c false) then
          readMembers mode steps (Place.after c) (members.add 0) rest
        else none
      else
        match c, rest with
        | ']', rest => some (members.height, rest)
        | '&', '&' :: rest => readMembers mode steps .inside members.operate rest
        | '-', '-' :: rest => readMembers mode steps .inside members.operate rest
        | '~', '~' :: rest => readMembers mode steps .inside members.operate rest
        | '[', rest =>
          match readClass rest with
          | some (negated, rest) =>
            if mode.admitsClass negated then
              readMembers mode steps .inside (members.add 0) rest
            else none
          | none =>
            let (negated, inner) := readNegation mode rest
            if negated && !mode.unicode then none
            else
              match readMembers mode steps .opening ⟨[], none⟩ inner with
              | some (height, rest) =>
                readMembers mode steps .inside (members.add (1 + height)) rest
              | none => none
        | c, rest =>
          match readRange mode (c :: rest) with
          | some rest => readMembers mode steps .inside (members.add 0) rest
          | none => none

/-- Reads a set after its opening bracket: its height, and what follows. -/
def readSet (mode : Mode) (cs : List Char) : Option (Nat × List Char) :=
  let (negated, inner) := readNegation mode cs
  if negated && !mode.unicode then none
  else
    match readMembers mode (inner.length + 1) .opening ⟨[], none⟩ inner with
    | some (height, rest) => some (1 + height, rest)
    | none => none

end EventLink.Pattern
