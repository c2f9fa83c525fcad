import EventLink.Pattern.CharSet
import EventLink.Text.Letter
/-!
Whether a pattern can be used to compare the values of a field.

A pattern has branches between bars, a branch is a row of parts, and a part is an element, a set or
a group, repeated or not.  Patterns stand between braces and commas, so a repetition with a count,
which needs a closing brace, is never complete.
-/
namespace EventLink.Pattern

/-- Why a pattern cannot be used. -/
inductive Fault where
  /-- It is not well formed, or needs tables that are not at hand. -/
  | malformed
  /-- It asks for the edge of a word in Unicode, which no table of states can tell. -/
  | wordEdge
  deriving DecidableEq, Repr

def Fault.message : Fault → String
  | malformed => "error building NFA"
  | wordEdge =>
    "unsupported regex feature for DFAs: cannot build DFAs for regexes with Unicode word " ++
      "boundaries; switch to ASCII word boundaries, or heuristically enable Unicode word " ++
      "boundaries or use a different regex engine"

/-- What a pattern has shown of itself: the names of its groups, and whether it asked for the edge
of a word in Unicode. -/
structure Survey where
  names : List (List Char)
  wordEdge : Bool

/-- Heights of the finished branches, and of the parts of the last branch from its end.  A setting
in a branch has no height. -/
structure Branches where
  finished : List Nat
  parts : List (Option Nat)

namespace Branches

def lastHeight (branches : Branches) : Nat :=
  rowHeight (branches.parts.map fun part => part.getD 0)

def height (branches : Branches) : Nat :=
  rowHeight (branches.lastHeight :: branches.finished)

def add (branches : Branches) (height : Nat) : Branches :=
  { branches with parts := some height :: branches.parts }

def addSetting (branches : Branches) : Branches :=
  { branches with parts := none :: branches.parts }

/-- A bar: the last branch is finished. -/
def split (branches : Branches) : Branches :=
  ⟨branches.lastHeight :: branches.finished, []⟩

/-- Repeats the last part; a setting cannot be repeated. -/
def repeatLast (branches : Branches) : Option Branches :=
  match branches.parts with
  | some height :: parts => some { branches with parts := some (1 + height) :: parts }
  | _ => none

end Branches

def startsName (c : Char) : Bool :=
  c == '_' || Text.isLetter c

/-- Whether a name of a group may go on with a character. -/
def continuesName (c : Char) : Bool :=
  startsName c || c == '.' || c == '[' || c == ']' || Text.isNumeric c

/-- The name of a group up to the angle bracket that ends it, and what follows.  No two groups have
the same name. -/
def readName (names : List (List Char)) (cs : List Char) : Option (List Char × List Char) :=
  let name := cs.takeWhile (· != '>')
  match name, cs.dropWhile (· != '>') with
  | c :: others, '>' :: rest =>
    if startsName c && others.all continuesName && !names.contains name then some (name, rest)
    else none
  | _, _ => none

/-- What an opening parenthesis begins. -/
inductive Opening where
  /-- Settings for the rest of the branches around it. -/
  | setting (mode : Mode)
  /-- A group with a reading of its own, and perhaps a name. -/
  | group (mode : Mode) (name : Option (List Char))

/-- The settings of a parenthesis after its question mark. -/
def openSettings (mode : Mode) (cs : List Char) : Option (Opening × List Char) :=
  match readSettings [] cs with
  | some ([], ')', _) => none
  | some (letters, ')', rest) => some (.setting (mode.apply true letters), rest)
  | some (letters, _, rest) => some (.group (mode.apply true letters) none, rest)
  | none => none

/-- Reads the beginning of what an opening parenthesis begins.  A group cannot look ahead or
behind. -/
def readOpening (mode : Mode) (names : List (List Char)) (cs : List Char) :
    Option (Opening × List Char) :=
  let named (cs : List Char) : Option (Opening × List Char) :=
    (readName names cs).map fun (name, rest) => (.group mode (some name), rest)
  match mode.skip cs with
  | '?' :: 'P' :: '<' :: rest => named rest
  | '?' :: '<' :: rest => named rest
  | '?' :: rest => openSettings mode rest
  | rest => some (.group mode none, rest)

/-- An element outside of sets, and what follows it. -/
def readElement (mode : Mode) : List Char → Option (Element × List Char)
  | [] => none
  | '\\' :: rest => readEscape mode rest
  | '.' :: rest => some (.any, rest)
  | '^' :: rest => some (.edge, rest)
  | '$' :: rest => some (.edge, rest)
  | c :: rest => some (.char c false, rest)

/-- A repetition without its question mark, which only changes what is tried first. -/
def skipQuestion : List Char → List Char
  | '?' :: rest => rest
  | cs => cs

/-- Reads branches up to the end of the group or pattern: their height, what they have shown, and
what follows.  Each step takes one character at least, so the number of characters bounds the
steps. -/
def readBranches : Nat → Mode → Bool → Survey → Branches → List Char →
    Option (Nat × Survey × List Char)
  | 0, _, _, _, _, _ => none
  | steps + 1, mode, inGroup, survey, branches, cs =>
    match mode.skip cs with
    | [] => if inGroup then none else some (branches.height, survey, [])
    | c :: rest =>
      if c = ')' then
        if inGroup then some (branches.height, survey, rest) else none
      else if c = '|' then readBranches steps mode inGroup survey branches.split rest
      else if c = '*' ∨ c = '+' ∨ c = '?' then
        match branches.repeatLast with
        | some branches => readBranches steps mode inGroup survey branches (skipQuestion rest)
        | none => none
      else if c = '\x7b' then none
      else if c = '[' then
        match readSet mode rest with
        | some (height, rest) =>
          readBranches steps mode inGroup survey (branches.add height) rest
        | none => none
      else if c = '(' then
        match readOpening mode survey.names rest with
        | some (.setting mode, rest) =>
          readBranches steps mode inGroup survey branches.addSetting rest
        | some (.group inner name, rest) =>
          let entered := { survey with names := name.toList ++ survey.names }
          match readBranches steps inner true entered ⟨[], []⟩ rest with
          | some (height, survey, rest) =>
            readBranches steps mode inGroup survey (branches.add (1 + height)) rest
          | none => none
        | none => none
      else
        match readElement mode (c :: rest) with
        | some (element, rest) =>
          if mode.admits element then
            let wordEdge := survey.wordEdge || (mode.unicode && element == .wordEdge)
            readBranches steps mode inGroup { survey with wordEdge := wordEdge }
              (branches.add 0) rest
          else none
        | none => none

/-- How deep the parts of a pattern may be nested. -/
def heightLimit : Nat := 250

def check (cs : List Char) : Except Fault Unit :=
  match readBranches (cs.length + 1) .initial false ⟨[], false⟩ ⟨[], []⟩ cs with
  | some (height, survey, _) =>
    if heightLimit < height then .error .malformed
    else if survey.wordEdge then .error .wordEdge
    else .ok ()
  | none => .error .malformed

end EventLink.Pattern
