import EventLink.Text.Hidden
/-!
Quoted display of a text: between double quotes, with a backslash before a quote or a backslash,
short escapes for the usual blanks, and the code point in braces for every other hidden character.
-/
namespace EventLink.Text

/-- Digits of a code point in lower-case hexadecimal, without leading zeros. -/
def hexDigits (n : Nat) : List Char :=
  Nat.toDigits 16 n

/-- The spelling of one character inside a quoted display. -/
def quotedChar (c : Char) : List Char :=
  match c with
  | '"' => ['\\', '"']
  | '\\' => ['\\', '\\']
  | '\n' => ['\\', 'n']
  | '\r' => ['\\', 'r']
  | '\t' => ['\\', 't']
  | '\x00' => ['\\', '0']
  | c =>
    if isHidden c then ['\\', 'u', '\x7b'] ++ hexDigits c.toNat ++ ['\x7d'] else [c]

/-- A text as it stands between its quotes in a diagnostic. -/
def quoted (s : String) : String :=
  String.ofList ('"' :: (s.toList.flatMap quotedChar ++ ['"']))

end EventLink.Text
