import RobotScript.Text.Hidden

/-!
# Quoted text

A text between double quotes. The quote and the backslash are written with a backslash before them,
the newline, the return, the tab and the null character by a letter or digit after a backslash, and
every other character without a shape of its own by a backslash, the letter u and its code point in
hexadecimal between braces.
-/

namespace RobotScript.Text

/-- The character is shown as it is: a printable ASCII character, or one above ASCII that is not
hidden. -/
def isShown (c : Char) : Bool :=
  if c.toNat < 0x80 then 0x20 ≤ c.toNat && c.toNat < 0x7F else !hiddenRanges.contains c.toNat

/-- How a character is written inside quotes. -/
def escape (c : Char) : List Char :=
  match c with
  | '"' => ['\\', '"']
  | '\\' => ['\\', '\\']
  | '\n' => ['\\', 'n']
  | '\r' => ['\\', 'r']
  | '\t' => ['\\', 't']
  | '\x00' => ['\\', '0']
  | c => if isShown c then [c] else ['\\', 'u', '\x7b'] ++ Nat.toDigits 16 c.toNat ++ ['\x7d']

/-- The text between double quotes, with its characters escaped where they have to be. -/
def quote (text : String) : String :=
  String.ofList ('"' :: text.toList.flatMap escape ++ ['"'])

end RobotScript.Text
