import EventLink.Json.Value
/-!
Compact JSON text of a value: no blanks, members in the order in which the value has them.
-/
namespace EventLink.Json

def hexChar (n : Nat) : Char :=
  Nat.digitChar (n % 16)

/-- A character inside a string: quotes, backslashes and control characters are escaped, and
everything else stands for itself. -/
def escapedChar (c : Char) : List Char :=
  match c with
  | '"' => ['\\', '"']
  | '\\' => ['\\', '\\']
  | '\x08' => ['\\', 'b']
  | '\t' => ['\\', 't']
  | '\n' => ['\\', 'n']
  | '\x0c' => ['\\', 'f']
  | '\r' => ['\\', 'r']
  | c =>
    if c.toNat < 0x20 then ['\\', 'u', '0', '0', hexChar (c.toNat / 16), hexChar c.toNat] else [c]

def stringChars (s : String) : List Char :=
  '"' :: (s.toList.flatMap escapedChar ++ ['"'])

namespace Value

mutual

def chars : Value → List Char
  | null => ['n', 'u', 'l', 'l']
  | bool true => ['t', 'r', 'u', 'e']
  | bool false => ['f', 'a', 'l', 's', 'e']
  | number n => n.chars
  | string s => stringChars s
  | array [] => ['[', ']']
  | array (v :: rest) => '[' :: (chars v ++ itemChars rest)
  | object [] => ['\x7b', '\x7d']
  | object ((key, v) :: rest) => '\x7b' :: (stringChars key ++ ':' :: (chars v ++ memberChars rest))

/-- The items after the first one, each after a comma, and the closing bracket. -/
def itemChars : List Value → List Char
  | [] => [']']
  | v :: rest => ',' :: (chars v ++ itemChars rest)

/-- The members after the first one, each after a comma, and the closing brace. -/
def memberChars : List (String × Value) → List Char
  | [] => ['\x7d']
  | (key, v) :: rest => ',' :: (stringChars key ++ ':' :: (chars v ++ memberChars rest))

end

def text (v : Value) : String :=
  String.ofList v.chars

end Value

end EventLink.Json
