import EventLink.Client.Error
import EventLink.Json.Value
/-!
Payloads: the data that a caller hands over with an event, and the JSON value it becomes.

A datum describes the shape of a value in a program.  Whatever stands for nothing becomes null; a
named alternative becomes its name, or an object with that name as its only key.  The keys of a map
have to be texts or things that have one plain spelling.
-/
namespace EventLink

open Json (Value Member)

/-- A value of a program.  A number that is not finite has no binary value. -/
inductive Datum where
  | bool (value : Bool)
  | integer (value : Int)
  | single (value : Option BinaryNumber)
  | double (value : Option BinaryNumber)
  | character (value : Char)
  | string (value : String)
  | bytes (values : List UInt8)
  | nothing
  | present (inner : Datum)
  | wrapped (inner : Datum)
  | symbol (name : String)
  | list (items : List Datum)
  | map (entries : List (Datum × Datum))
  | record (fields : List (String × Datum))
  | tagged (name : String) (content : Datum)
  | refused (reason : String)
  deriving Repr

/-- Why a datum has no JSON value. -/
inductive PayloadFault where
  | numberOutOfRange
  | keyNotFinite
  | keyNotString
  | refused (reason : String)
  deriving DecidableEq, Repr

namespace PayloadFault

def message : PayloadFault → String
  | numberOutOfRange => "number out of range"
  | keyNotFinite => "float key must be finite (got NaN or +/-inf)"
  | keyNotString => "key must be a string"
  | refused reason => reason

def error (fault : PayloadFault) : ClientError :=
  .serialization fault.message

end PayloadFault

namespace Datum

/-- Exponents written positionally in a key of single precision. -/
def singleKeyRange : PlainRange := ⟨-6, 12⟩

/-- A finite number as a key, in the shortest form of its own format. -/
def floatKey (format : BinaryFormat) (range : PlainRange) :
    Option BinaryNumber → Except PayloadFault String
  | some x => .ok (String.ofList (x.text format range))
  | none => .error .keyNotFinite

def keyText : Datum → Except PayloadFault String
  | bool b => .ok (if b then "true" else "false")
  | integer n => .ok (String.ofList (Json.integerChars n))
  | single x => floatKey BinaryFormat.single singleKeyRange x
  | double x => floatKey BinaryFormat.double Json.plainRange x
  | character c => .ok (String.singleton c)
  | string s => .ok s
  | symbol name => .ok name
  | wrapped inner => keyText inner
  | refused reason => .error (.refused reason)
  | _ => .error .keyNotString

/-- A number of double precision; null if it is not finite. -/
def doubleValue : Option BinaryNumber → Value
  | some x => .number (.double x)
  | none => .null

/-- An integer of at most 64 bits. -/
def integerValue (n : Int) : Except PayloadFault Value :=
  if -0x8000000000000000 ≤ n ∧ n < 0x10000000000000000 then .ok (.ofInt n) else .error .numberOutOfRange

mutual

/-- The JSON value of a datum, with members in the order in which the datum has them. -/
def toJson : Datum → Except PayloadFault Value
  | bool b => .ok (.bool b)
  | integer n => integerValue n
  | single x => .ok (doubleValue (x.bind BinaryFormat.double.convert))
  | double x => .ok (doubleValue x)
  | character c => .ok (.string (String.singleton c))
  | string s => .ok (.string s)
  | bytes values => .ok (.array (values.map fun (b : UInt8) => Value.ofInt b.toNat))
  | nothing => .ok .null
  | present inner => toJson inner
  | wrapped inner => toJson inner
  | symbol name => .ok (.string name)
  | list items => (itemsToJson items).map Value.array
  | map entries => (entriesToJson entries).map Value.object
  | record fields => (fieldsToJson fields).map Value.object
  | tagged name content => (toJson content).map fun (v : Value) => .object [(name, v)]
  | refused reason => .error (.refused reason)

def itemsToJson : List Datum → Except PayloadFault (List Value)
  | [] => .ok []
  | item :: rest =>
    match toJson item with
    | .error fault => .error fault
    | .ok v => (itemsToJson rest).map (v :: ·)

/-- The members of a map.  The key of an entry is looked at before its value. -/
def entriesToJson : List (Datum × Datum) → Except PayloadFault (List (String × Value))
  | [] => .ok []
  | (key, datum) :: rest =>
    match keyText key, toJson datum with
    | .error fault, _ => .error fault
    | .ok _, .error fault => .error fault
    | .ok k, .ok v => (entriesToJson rest).map ((k, v) :: ·)

def fieldsToJson : List (String × Datum) → Except PayloadFault (List (String × Value))
  | [] => .ok []
  | (name, datum) :: rest =>
    match toJson datum with
    | .error fault => .error fault
    | .ok v => (fieldsToJson rest).map ((name, v) :: ·)

end

end Datum

/-- The payload of an event: the canonical value of a datum, or none if there is no datum. -/
def payload : Option Datum → Except ClientError (Option Value)
  | none => .ok none
  | some datum =>
    match datum.toJson with
    | .error fault => .error fault.error
    | .ok v => .ok (some v.canonical)

end EventLink
