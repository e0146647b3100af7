import RobotScript.Text.Alphabetic
import RobotScript.Text.Numeric

/-!
# Letters and word characters

A word of a script starts with a letter and goes on with letters and numerals. ASCII characters are
decided without a table.
-/

namespace RobotScript.Text

/-- A letter: a character with the Unicode property Alphabetic. -/
def isLetter (c : Char) : Bool :=
  if c.toNat < 0x80 then c.isAlpha else alphabeticRanges.contains c.toNat

/-- A numeral: a character of the Unicode categories Nd, Nl or No. -/
def isNumeral (c : Char) : Bool :=
  if c.toNat < 0x80 then c.isDigit else numericRanges.contains c.toNat

/-- What a word can go on with. -/
def isWordChar (c : Char) : Bool :=
  isLetter c || isNumeral c

end RobotScript.Text
