import RobotScript.Decimal.Reading
import RobotScript.Decimal.Written
import RobotScript.Direction
import RobotScript.Text.Blank

/-!
# Values

A script computes with numbers, texts and directions. Every value can be read as a number and
written as a text.
-/

namespace RobotScript

/-- What a variable holds and an expression gives. -/
inductive Value where
  | number (x : Float)
  | text (s : String)
  | direction (d : Direction)
deriving DecidableEq

namespace Value

instance : Inhabited Value := ⟨.number 0.0⟩

/-- The number that stands for a truth value. -/
def ofBool (b : Bool) : Value :=
  .number (if b then 1.0 else 0.0)

/-- The number in a text, white space around it aside. -/
def textNumber? (s : String) : Option Float :=
  Decimal.read? (Text.trim s.toList)

/-- A line of input: the number in it, or the line itself. -/
def ofInput (line : String) : Value :=
  match textNumber? line with
  | some x => .number x
  | none => .text line

/-- A value as a number. A text without a number in it counts as zero, a direction as its code. -/
def toNumber : Value → Float
  | number x => x
  | text s => (textNumber? s).getD 0.0
  | direction d => Decimal.ofInt d.code

/-- A value holds as a condition unless it counts as zero. -/
def isTrue (v : Value) : Bool :=
  v.toNumber != 0.0

/-- The direction that a value is. -/
def toDirection? : Value → Option Direction
  | direction d => some d
  | _ => none

/-- Numbers are written out in full, and whole ones without a point. -/
def numberStyle : Decimal.Style where
  pointed := false
  writtenOut _ := true

/-- Integers are written as such below this size. -/
def integerBound : Nat := Nat.pow 10 15

/-- A number as a text. Both zeros are written `0`. -/
def writeNumber (x : Float) : String :=
  match Decimal.integer? x with
  | some n => if n.natAbs < integerBound then toString n else Decimal.write numberStyle x
  | none => Decimal.write numberStyle x

/-- A value as a text. -/
def write : Value → String
  | number x => writeNumber x
  | text s => s
  | direction d => d.keyword

end Value

end RobotScript
