import EventLink.Binary.Decimal
import EventLink.Pattern.Check
/-!
Filters for log lines.

A filter is a list of directives between commas; empty ones are passed over.  A directive names a
level, or a target, a span and a field of it with the level that applies to them.  A field may have
a value: a number or a pattern.  Only whether a filter is well formed is decided here.
-/
namespace EventLink.LogFilter

/-- What is wrong with a directive. -/
inductive Fault where
  | malformed
  | level
  | field (fault : Pattern.Fault)
  deriving DecidableEq, Repr

def Fault.message : Fault → String
  | malformed => "invalid filter directive"
  | level =>
    "error parsing level filter: expected one of \"off\", \"error\", \"warn\", \"info\", " ++
      "\"debug\", \"trace\", or a number 0-5"
  | field fault => "invalid field filter: " ++ fault.message

def levelNames : List String :=
  ["off", "error", "warn", "info", "debug", "trace"]

/-- A number from 0 to 5, with a plus sign and zeros in front of it allowed. -/
def isLevelNumber (cs : List Char) : Bool :=
  let digits :=
    match cs with
    | '+' :: rest => rest
    | cs => cs
  !digits.isEmpty && digits.all Char.isDigit && Nat.ofDigitChars 10 digits 0 ≤ 5

/-- The level of a directive: a name in whatever case, a number, or nothing. -/
def isLevel (cs : List Char) : Bool :=
  cs.isEmpty || isLevelNumber cs || levelNames.contains (String.ofList (cs.map Char.toLower))

/-- The names of the values that are numbers without digits. -/
def wordNumbers : List String :=
  ["inf", "infinity", "nan"]

/-- Whether a value of a field is a number: a numeral, or a sign and one of the names in whatever
case. -/
def isNumber (cs : List Char) : Bool :=
  (Decimal.ofText? (String.ofList cs)).isSome ||
    wordNumbers.contains (String.ofList ((Decimal.splitSign cs).2.map Char.toLower))

/-- The value of a field: what stands between its first equals sign and the next. -/
def fieldValue? (cs : List Char) : Option (List Char) :=
  match cs.dropWhile (· != '=') with
  | [] => none
  | _ :: rest => some (rest.takeWhile (· != '='))

/-- Checks a field.  A name may be anything; a value that is not a number is a pattern. -/
def checkField (cs : List Char) : Except Fault Unit :=
  match fieldValue? cs with
  | none => .ok ()
  | some value => if isNumber value then .ok () else (Pattern.check value).mapError .field

/-- What follows a count of bytes. -/
def dropBytes : Nat → List Char → List Char
  | 0, cs => cs
  | _ + 1, [] => []
  | count + 1, c :: rest => dropBytes (count + 1 - c.utf8Size) rest

/-- The characters that a count of bytes holds. -/
def takeBytes : Nat → List Char → List Char
  | 0, _ => []
  | _ + 1, [] => []
  | count + 1, c :: rest => c :: takeBytes (count + 1 - c.utf8Size) rest

/-- The parts of a directive.  A field and a level remember where they start. -/
inductive Part where
  | start
  | target
  | span
  | field (start : Nat)
  | fieldDone
  | spanDone
  | level (start : Nat)
  deriving DecidableEq, Repr

/-- The characters that a directive without a span starts with. -/
def startsTarget (c : Char) : Bool :=
  c == '-' || c == ':' || c == '_' || Text.isLetter c || Text.isNumeric c

/-- The part that a character leads to.  The place is that of the character, in bytes; fields are
taken from the text at their places. -/
def next (text : List Char) (place : Nat) (c : Char) : Part → Except Fault Part
  | .start =>
    if c = '[' then .ok .span else if startsTarget c then .ok .target else .error .malformed
  | .target =>
    if c = '=' then .ok (.level (place + 1)) else if c = '[' then .ok .span else .ok .target
  | .span =>
    if c = ']' then .ok .spanDone
    else if c = '\x7b' then .ok (.field (place + 1))
    else .ok .span
  | .field start =>
    if c = '\x7d' then
      if start = place then .error .malformed
      else (checkField (takeBytes (place - start) (dropBytes start text))).map fun _ => .fieldDone
    else .ok (.field start)
  | .fieldDone => if c = ']' then .ok .spanDone else .error .malformed
  | .spanDone => if c = '=' then .ok (.level (place + 1)) else .error .malformed
  | .level start => .ok (.level start)

/-- The part reached at the end of some characters, the first of which stands at a place. -/
def reach (text : List Char) (part : Part) (place : Nat) : List Char → Except Fault Part
  | [] => .ok part
  | c :: rest =>
    match next text place c part with
    | .ok part => reach text part (place + c.utf8Size) rest
    | .error fault => .error fault

/-- Checks a directive.  The blanks around it are passed over, but the places counted without them
are looked up with them: behind a blank, fields and levels begin early. -/
def checkDirective (cs : List Char) : Except Fault Unit :=
  match reach cs .start 0 (Text.trimList cs) with
  | .ok .target => .ok ()
  | .ok .spanDone => .ok ()
  | .ok (.level start) => if isLevel (dropBytes start cs) then .ok () else .error .level
  | .ok _ => .error .malformed
  | .error fault => .error fault

/-- Checks directives in their order, without the empty ones. -/
def checkAll : List (List Char) → Except Fault Unit
  | [] => .ok ()
  | [] :: rest => checkAll rest
  | directive :: rest =>
    match checkDirective directive with
    | .error fault => .error fault
    | .ok () => checkAll rest

/-- A text between the commas in it. -/
def splitCommas : List Char → List (List Char)
  | [] => [[]]
  | c :: rest =>
    if c = ',' then [] :: splitCommas rest
    else
      match splitCommas rest with
      | [] => [[c]]
      | first :: others => (c :: first) :: others

/-- Checks a filter; the first directive that is not well formed decides what is wrong. -/
def check (filter : String) : Except Fault Unit :=
  checkAll (splitCommas filter.toList)

end EventLink.LogFilter
