import TwinDesk.Text.Printable

/-!
# Quoted text

Text between double quotes, in which every character that could be misread is escaped: quotes and
backslashes with a backslash, the common control characters by a letter, everything else that does
not print by its code point in braces.
-/

namespace TwinDesk.Text

/-- The escape of a code point by its number. -/
def codePointEscape (c : Char) : List Char :=
  ['\\', 'u', '\x7b'] ++ Nat.toDigits 16 c.toNat ++ ['\x7d']

/-- A character inside quotes. -/
def escape (c : Char) : List Char :=
  match c with
  | '\x00' => ['\\', '0']
  | '\t' => ['\\', 't']
  | '\r' => ['\\', 'r']
  | '\n' => ['\\', 'n']
  | '\\' => ['\\', '\\']
  | '"' => ['\\', '"']
  | c => if isPrintable c then [c] else codePointEscape c

/-- The text in double quotes. -/
def quoted (text : String) : String :=
  String.ofList ('"' :: text.toList.flatMap escape ++ ['"'])

end TwinDesk.Text
