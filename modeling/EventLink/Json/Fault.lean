/-!
What can be wrong with a JSON text, and where.

A fault remembers the part of the text that was still unread when it was found, and how many bytes
of that part the finding used up.  Lines and columns are computed from it only when a message is
wanted; they count bytes, as the text is stored in UTF-8.
-/
namespace EventLink.Json

/-- The ways in which a text fails to be JSON. -/
inductive Cause where
  | endInValue
  | endInList
  | endInObject
  | endInString
  | expectedValue
  | expectedWord
  | expectedListEnd
  | expectedObjectEnd
  | expectedColon
  | trailingComma
  | trailingCharacters
  | keyNotString
  | invalidNumber
  | numberOutOfRange
  | controlCharacter
  | invalidEscape
  | loneSurrogate
  | endOfSurrogatePair
  | tooDeep
  deriving DecidableEq, Repr

def Cause.message : Cause → String
  | endInValue => "EOF while parsing a value"
  | endInList => "EOF while parsing a list"
  | endInObject => "EOF while parsing an object"
  | endInString => "EOF while parsing a string"
  | expectedValue => "expected value"
  | expectedWord => "expected ident"
  | expectedListEnd => "expected `,` or `]`"
  | expectedObjectEnd => "expected `,` or `\x7d`"
  | expectedColon => "expected `:`"
  | trailingComma => "trailing comma"
  | trailingCharacters => "trailing characters"
  | keyNotString => "key must be a string"
  | invalidNumber => "invalid number"
  | numberOutOfRange => "number out of range"
  | controlCharacter => "control character (\\u0000-\\u001F) found while parsing a string"
  | invalidEscape => "invalid escape"
  | loneSurrogate => "lone leading surrogate in hex escape"
  | endOfSurrogatePair => "unexpected end of hex escape"
  | tooDeep => "recursion limit exceeded"

/-- A cause, the unread text where it was found, and the bytes of that text that it covers. -/
structure Fault where
  cause : Cause
  rest : List Char
  covered : Nat
  deriving DecidableEq, Repr

namespace Fault

/-- A fault at the first byte of the unread text. -/
def looking (cause : Cause) (rest : List Char) : Fault :=
  ⟨cause, rest, 1⟩

/-- A fault that stands before all of the unread text. -/
def before (cause : Cause) (rest : List Char) : Fault :=
  ⟨cause, rest, 0⟩

end Fault

/-- Bytes of a text in UTF-8. -/
def byteCount (cs : List Char) : Nat :=
  cs.foldl (fun (count : Nat) (c : Char) => count + c.utf8Size) 0

/-- The line and the column after the given bytes of a text: lines count from one, and a column is
the number of bytes since the last line break. -/
def lineColumn (bytes : List UInt8) : Nat × Nat :=
  bytes.foldl
    (fun (place : Nat × Nat) (b : UInt8) =>
      if b = 10 then (place.1 + 1, 0) else (place.1, place.2 + 1))
    (1, 0)

/-- A cause together with the place in the text where it was found. -/
structure SyntaxError where
  cause : Cause
  line : Nat
  column : Nat
  deriving DecidableEq, Repr

def Fault.locate (text : String) (fault : Fault) : SyntaxError :=
  let bytes := text.toUTF8.toList
  let reached := bytes.length - byteCount fault.rest + fault.covered
  let place := lineColumn (bytes.take reached)
  ⟨fault.cause, place.1, place.2⟩

def SyntaxError.message (error : SyntaxError) : String :=
  error.cause.message ++ " at line " ++ toString error.line ++ " column " ++ toString error.column

end EventLink.Json
