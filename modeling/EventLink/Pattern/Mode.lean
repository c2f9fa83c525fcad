import EventLink.Text.Blank
/-!
How a pattern is to be read, and the settings that change it along the way.

A setting is a row of letters, each named once; those after a minus sign are switched off.  Only
three of the letters matter to whether a pattern is usable.
-/
namespace EventLink.Pattern

/-- The reading in force at a place of a pattern.  In a spaced pattern blanks and comments are
passed over. -/
structure Mode where
  ignoreCase : Bool
  unicode : Bool
  spaced : Bool
  deriving DecidableEq, Repr

namespace Mode

/-- The reading that every pattern begins with. -/
def initial : Mode := ⟨false, true, false⟩

def switch (mode : Mode) (on : Bool) (letter : Char) : Mode :=
  match letter with
  | 'i' => { mode with ignoreCase := on }
  | 'u' => { mode with unicode := on }
  | 'x' => { mode with spaced := on }
  | _ => mode

def apply (mode : Mode) (on : Bool) : List Char → Mode
  | [] => mode
  | '-' :: rest => mode.apply false rest
  | letter :: rest => (mode.switch on letter).apply on rest

end Mode

/-- The letters of the settings, and the sign that switches off. -/
def settingLetters : List Char := ['-', 'i', 'm', 's', 'U', 'u', 'R', 'x']

/-- A row of setting letters, the colon or bracket that ends it, and what follows.  No letter comes
twice, and the minus sign is not the last. -/
def readSettings (seen : List Char) : List Char → Option (List Char × Char × List Char)
  | [] => none
  | c :: rest =>
    if c = ':' ∨ c = ')' then
      if seen.head? = some '-' then none else some (seen.reverse, c, rest)
    else if settingLetters.contains c && !seen.contains c then readSettings (c :: seen) rest
    else none

/-- Passes over blanks, and over comments from a number sign to the end of the line. -/
def skipBlanks (inComment : Bool) : List Char → List Char
  | [] => []
  | c :: rest =>
    if inComment then skipBlanks (c != '\n') rest
    else if Text.isBlank c then skipBlanks false rest
    else if c = '#' then skipBlanks true rest
    else c :: rest

/-- What is to be read next at a place of a pattern. -/
def Mode.skip (mode : Mode) (cs : List Char) : List Char :=
  if mode.spaced then skipBlanks false cs else cs

/-- A glance at the next character of a set.  In a spaced pattern it looks past blanks and past one
number sign, but not past the comment behind that sign. -/
def Mode.glance (mode : Mode) (cs : List Char) : Option Char :=
  if mode.spaced then
    match cs.dropWhile Text.isBlank with
    | [] => cs.head?
    | '#' :: rest =>
      match rest.dropWhile Text.isBlank with
      | [] => cs.head?
      | c :: _ => some c
    | c :: _ => some c
  else cs.head?

end EventLink.Pattern
