import EventLink.Json.Number
/-!
JSON values.

An object keeps its members as they were written, repetitions and all.  Its canonical form has each
key once, with the value that was written last for it, in ascending order of code points.
-/
namespace EventLink.Json

/-- A JSON value. -/
inductive Value where
  | null
  | bool (value : Bool)
  | number (value : Number)
  | string (value : String)
  | array (items : List Value)
  | object (members : List (String × Value))
  deriving Repr

/-- A key and its value. -/
abbrev Member := String × Value

/-- Puts a member among others in ascending order, unless its key is there already. -/
def insertMember (key : String) (value : Value) : List Member → List Member
  | [] => [(key, value)]
  | (k, v) :: rest =>
    if key = k then (k, v) :: rest
    else if key < k then (key, value) :: (k, v) :: rest
    else (k, v) :: insertMember key value rest

/-- Members in ascending order of their keys, the last one written for each key. -/
def sortMembers (members : List Member) : List Member :=
  members.foldr (fun (m : Member) (sorted : List Member) => insertMember m.1 m.2 sorted) []

/-- The last value written for a key. -/
def lookup (key : String) (members : List Member) : Option Value :=
  (members.reverse.find? fun (m : Member) => m.1 == key).map Prod.snd

namespace Value

mutual

def canonical : Value → Value
  | array items => array (canonicalItems items)
  | object members => object (sortMembers (canonicalMembers members))
  | null => null
  | bool b => bool b
  | number n => number n
  | string s => string s

def canonicalItems : List Value → List Value
  | [] => []
  | v :: rest => canonical v :: canonicalItems rest

def canonicalMembers : List (String × Value) → List (String × Value)
  | [] => []
  | (key, v) :: rest => (key, canonical v) :: canonicalMembers rest

end

def ofInt (n : Int) : Value :=
  number (.integer n)

end Value

end EventLink.Json
