import EventLink.Json.Lexemes
import EventLink.Json.Value
/-!
Reading a JSON value from its tokens.

The reader is a machine that takes one token at a time.  Its state is the place of the grammar that
it has reached, together with the lists and objects that it is inside of.  A place says which tokens
may come next and what is missing if none comes.
-/
namespace EventLink.Json

/-- A list or an object that waits for a value: what it holds so far, the latest part first. -/
inductive Level where
  | list (items : List Value)
  | entry (members : List Member) (key : String)

/-- A place of the grammar, and the levels around it, the innermost first. -/
inductive Place where
  | value (around : List Level)
  | listStart (around : List Level)
  | listItem (items : List Value) (around : List Level)
  | listNext (items : List Value) (around : List Level)
  | objectStart (around : List Level)
  | objectKey (members : List Member) (around : List Level)
  | objectNext (members : List Member) (around : List Level)
  | colon (members : List Member) (key : String) (around : List Level)

/-- The result of taking a token: another place, the whole value, or a fault. -/
inductive Step where
  | go (place : Place)
  | done (value : Value)
  | fail (fault : Fault)

/-- Lists and objects may not be nested to this depth. -/
def tooManyLevels : Nat := 128

/-- A finished value goes to the innermost level that waits for it. -/
def give (v : Value) : List Level → Step
  | [] => .done v
  | .list items :: around => .go (.listNext (v :: items) around)
  | .entry members key :: around => .go (.objectNext ((key, v) :: members) around)

/-- A list or an object is entered unless it would be one level too many. -/
def enter (lexeme : Lexeme) (around : List Level) (place : Place) : Step :=
  if around.length + 1 < tooManyLevels then .go place else .fail (.looking .tooDeep lexeme.rest)

/-- Takes the first token of a value. -/
def startValue (around : List Level) (lexeme : Lexeme) : Step :=
  match lexeme.content with
  | .error fault => .fail fault
  | .ok .null => give .null around
  | .ok (.bool b) => give (.bool b) around
  | .ok (.number n) => give (.number n) around
  | .ok (.string s) => give (.string s) around
  | .ok .listStart => enter lexeme around (.listStart around)
  | .ok .objectStart => enter lexeme around (.objectStart around)
  | .ok _ => .fail (.looking .expectedValue lexeme.rest)

/-- Takes the key of a member.  A string that cannot be read is at fault itself. -/
def startKey (members : List Member) (around : List Level) (lexeme : Lexeme) : Step :=
  match lexeme.content with
  | .ok (.string key) => .go (.colon members key around)
  | .ok _ => .fail (.looking .keyNotString lexeme.rest)
  | .error fault =>
    if lexeme.rest.head? = some '"' then .fail fault
    else .fail (.looking .keyNotString lexeme.rest)

/-- Takes one token at a place. -/
def step (lexeme : Lexeme) : Place → Step
  | .value around => startValue around lexeme
  | .listStart around =>
    match lexeme.content with
    | .ok .listEnd => give (.array []) around
    | _ => startValue (.list [] :: around) lexeme
  | .listItem items around =>
    match lexeme.content with
    | .ok .listEnd => .fail (.looking .trailingComma lexeme.rest)
    | _ => startValue (.list items :: around) lexeme
  | .listNext items around =>
    match lexeme.content with
    | .ok .listEnd => give (.array items.reverse) around
    | .ok .comma => .go (.listItem items around)
    | _ => .fail (.looking .expectedListEnd lexeme.rest)
  | .objectStart around =>
    match lexeme.content with
    | .ok .objectEnd => give (.object []) around
    | _ => startKey [] around lexeme
  | .objectKey members around =>
    match lexeme.content with
    | .ok .objectEnd => .fail (.looking .trailingComma lexeme.rest)
    | _ => startKey members around lexeme
  | .objectNext members around =>
    match lexeme.content with
    | .ok .objectEnd => give (.object members.reverse) around
    | .ok .comma => .go (.objectKey members around)
    | _ => .fail (.looking .expectedObjectEnd lexeme.rest)
  | .colon members key around =>
    match lexeme.content with
    | .ok .colon => .go (.value (.entry members key :: around))
    | _ => .fail (.looking .expectedColon lexeme.rest)

/-- What is missing if the text ends at a place. -/
def Place.missing : Place → Cause
  | value _ => .endInValue
  | listStart _ => .endInList
  | listItem _ _ => .endInValue
  | listNext _ _ => .endInList
  | objectStart _ => .endInObject
  | objectKey _ _ => .endInValue
  | objectNext _ _ => .endInObject
  | colon _ _ _ => .endInObject

/-- Takes tokens until a value is complete, and returns it with the tokens after it. -/
def run (place : Place) : List Lexeme → Except Fault (Value × List Lexeme)
  | [] => .error (.before place.missing [])
  | lexeme :: rest =>
    match step lexeme place with
    | .go next => run next rest
    | .done v => .ok (v, rest)
    | .fail fault => .error fault

/-- The value at the front of a text, and what is wrong with the text after it, if anything is. -/
def readFront (s : String) : Except SyntaxError (Value × Option SyntaxError) :=
  match run (.value []) (lexemes s.toList) with
  | .error fault => .error (fault.locate s)
  | .ok (v, []) => .ok (v, none)
  | .ok (v, next :: _) =>
    .ok (v, some ((Fault.looking .trailingCharacters next.rest).locate s))

/-- Reads a text that is one JSON value. -/
def read (s : String) : Except SyntaxError Value :=
  match readFront s with
  | .error e => .error e
  | .ok (_, some e) => .error e
  | .ok (v, none) => .ok v

end EventLink.Json
