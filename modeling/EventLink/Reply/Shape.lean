import EventLink.Client.Error
import EventLink.Json.Printer
import EventLink.Text.Quoted
/-!
The shapes that a caller may want a reply to have.

A reply fits a shape or it does not; a misfit tells what was found and what was expected.  Integers
of the wrong size are told apart from values of the wrong kind.
-/
namespace EventLink

open Json (Value)

/-- What a caller takes a reply for. -/
inductive ReplyShape where
  | anything
  | string
  | bool
  | word32
  | optionalInt64
  | word32List
  deriving DecidableEq, Repr

/-- A value that does not fit: one of another kind, or an integer of another size. -/
inductive Misfit where
  | kind (found : Value) (expected : String)
  | size (found : Value) (expected : String)
  deriving Repr

namespace Misfit

/-- A value as a misfit mentions it. -/
def shown : Value → String
  | .null => "null"
  | .bool b => "boolean `" ++ (if b then "true" else "false") ++ "`"
  | .number (.integer n) => "integer `" ++ String.ofList (Json.integerChars n) ++ "`"
  | .number (.double x) => "floating point `" ++ (Json.Number.double x).text ++ "`"
  | .string s => "string " ++ Text.quoted s
  | .array _ => "sequence"
  | .object _ => "map"

def message : Misfit → String
  | kind found expected => "invalid type: " ++ shown found ++ ", expected " ++ expected
  | size found expected => "invalid value: " ++ shown found ++ ", expected " ++ expected

def error (misfit : Misfit) : ClientError :=
  .serialization misfit.message

end Misfit

namespace ReplyShape

/-- An integer from a range with a name. -/
def integer (lowest highest : Int) (expected : String) (v : Value) : Except Misfit Value :=
  match v with
  | .number (.integer n) =>
    if lowest ≤ n ∧ n ≤ highest then .ok v else .error (.size v expected)
  | v => .error (.kind v expected)

/-- An unsigned integer of 32 bits. -/
def word (v : Value) : Except Misfit Value :=
  integer 0 0xffffffff "u32" v

/-- Unsigned integers of 32 bits; the first item that is none is the misfit. -/
def words : List Value → Except Misfit (List Value)
  | [] => .ok []
  | v :: rest =>
    match word v with
    | .error misfit => .error misfit
    | .ok item => (words rest).map (item :: ·)

def fit (shape : ReplyShape) (v : Value) : Except Misfit Value :=
  match shape, v with
  | anything, v => .ok v
  | string, .string s => .ok (.string s)
  | string, v => .error (.kind v "a string")
  | bool, .bool b => .ok (.bool b)
  | bool, v => .error (.kind v "a boolean")
  | word32, v => word v
  | optionalInt64, .null => .ok .null
  | optionalInt64, v => integer (-0x8000000000000000) 0x7fffffffffffffff "i64" v
  | word32List, .array items => (words items).map Value.array
  | word32List, v => .error (.kind v "a sequence")

end ReplyShape

end EventLink
