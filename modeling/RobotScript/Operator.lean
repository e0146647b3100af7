import RobotScript.Value

/-!
# Operators

The eight binary operators. They have one precedence level. The left operand decides whether a
comparison or a sum is one of numbers or of texts.
-/

namespace RobotScript

/-- A binary operator. -/
inductive Operator where
  | equal
  | notEqual
  | add
  | subtract
  | multiply
  | divide
  | less
  | greater
deriving DecidableEq, Repr

namespace Operator

/-- Every operator, in the order in which a listing names them. -/
def all : List Operator := [equal, notEqual, add, subtract, multiply, divide, less, greater]

/-- The sign for an operator in a script. -/
def symbol : Operator → Char
  | equal => '='
  | notEqual => '!'
  | add => '+'
  | subtract => '-'
  | multiply => '*'
  | divide => '/'
  | less => '<'
  | greater => '>'

/-- The operator that a text stands for. -/
def ofSymbol? (text : String) : Option Operator :=
  all.find? fun op => op.symbol.toString == text

/-- Numbers and directions are the same when they count as the same number, texts when they read the
same. -/
def same (left right : Value) : Bool :=
  match left with
  | .text s => s == right.write
  | _ => left.toNumber == right.toNumber

/-- A number comes before another by size. Anything else comes before another in the order of texts,
character by character. -/
def before (left right : Value) : Bool :=
  match left with
  | .number x => x < right.toNumber
  | _ => left.write < right.write

/-- A number comes after another by size, and anything else in the order of texts. As in `before`,
the left operand decides which of the two orders holds, so `after x y` and `before y x` can
differ. -/
def after (left right : Value) : Bool :=
  match left with
  | .number x => right.toNumber < x
  | _ => right.write < left.write

/-- Numbers are added. After anything else the right operand is appended as a text. -/
def sum (left right : Value) : Value :=
  match left with
  | .number x => .number (x + right.toNumber)
  | _ => .text (left.write ++ right.write)

/-- The quotient of two numbers. Division by zero gives zero. -/
def quotient (left right : Value) : Value :=
  let divisor := right.toNumber
  .number (if divisor == 0.0 then 0.0 else left.toNumber / divisor)

/-- The value of an operator at two operands. -/
def apply (op : Operator) (left right : Value) : Value :=
  match op with
  | equal => .ofBool (same left right)
  | notEqual => .ofBool (!same left right)
  | add => sum left right
  | subtract => .number (left.toNumber - right.toNumber)
  | multiply => .number (left.toNumber * right.toNumber)
  | divide => quotient left right
  | less => .ofBool (before left right)
  | greater => .ofBool (after left right)

end Operator

end RobotScript
