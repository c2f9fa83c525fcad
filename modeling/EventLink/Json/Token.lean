import EventLink.Json.Fault
import EventLink.Json.Number
/-!
Tokens of a JSON text: brackets, separators, and the values without parts.

A token is remembered with the unread text that it starts.  Where no token can be read, what is wrong
there is kept in its place, because it matters only to a reader that wants a value or a key there.
-/
namespace EventLink.Json

/-- A bracket, a separator, or a value without parts. -/
inductive Token where
  | listStart
  | listEnd
  | objectStart
  | objectEnd
  | comma
  | colon
  | null
  | bool (value : Bool)
  | number (value : Number)
  | string (value : String)
  deriving DecidableEq, Repr

/-- What stands at one place of a text, and the unread text there. -/
structure Lexeme where
  rest : List Char
  content : Except Fault Token

def isSpace (c : Char) : Bool :=
  c == ' ' || c == '\t' || c == '\n' || c == '\r'

end EventLink.Json
