import RobotScript.Command.Printout
import RobotScript.Statement

/-!
# Listings of programs

A listing shows a program as it was read: every statement with its parts, by name. Texts are quoted,
and numbers keep a point and have an exponent when they are very large or very small.
-/

namespace RobotScript.Command

/-- A name with its parts in parentheses. -/
def writeCall (name argument : String) : String :=
  name ++ "(" ++ argument ++ ")"

/-- Numbers in a listing are written out from a ten thousandth up to sixteen digits, and whole ones
end in `.0`. -/
def listingStyle : Decimal.Style where
  pointed := true
  writtenOut power := -4 ≤ power && power < 16

/-- The name of a direction in a listing. -/
def directionName : Direction → String
  | .upLeft => "UpLeft"
  | .upRight => "UpRight"
  | .downLeft => "DownLeft"
  | .downRight => "DownRight"

/-- The name of an operator in a listing. -/
def operatorName : Operator → String
  | .equal => "Equal"
  | .notEqual => "NotEqual"
  | .add => "Add"
  | .subtract => "Subtract"
  | .multiply => "Multiply"
  | .divide => "Divide"
  | .less => "Less"
  | .greater => "Greater"

/-- The name of a kind of token in a listing. -/
def kindName : TokenKind → String
  | .word => "Word"
  | .number => "Number"
  | .text => "String"
  | .label => "Label"
  | .lineBreak => "LineBreak"
  | .equals => "Equals"
  | .operator => "Operator"
  | .leftParen => "LeftParen"
  | .rightParen => "RightParen"
  | .endOfFile => "Eof"

/-- A value in a listing. -/
def listValue : Value → String
  | .number x => writeCall "Number" (Decimal.write listingStyle x)
  | .text s => writeCall "Text" (Text.quote s)
  | .direction d => writeCall "Direction" (directionName d)

/-- An expression in a listing. -/
def listExpr : Expr → String
  | .literal value => writeCall "Literal" (listValue value)
  | .var name => writeCall "Variable" (Text.quote name)
  | .binary op left right =>
    writeRecord "BinaryOp" [("left", listExpr left), ("op", operatorName op),
      ("right", listExpr right)]
  | .ask .enemy => "EnemyDirection"
  | .ask .alive => "Alive"

/-- An assignment in a listing. -/
def listAssignment (assignment : Assignment) : String :=
  writeRecord "Assignment" [("target", Text.quote assignment.target),
    ("value", listExpr assignment.value)]

/-- The direction of an action in a listing. -/
def listBearing : Bearing → String
  | .toward direction => writeCall "Literal" (directionName direction)
  | .held name => writeCall "Variable" (Text.quote name)

/-- A label that may be absent, in a listing. -/
def listLabel? : Option String → String
  | some label => writeCall "Some" (Text.quote label)
  | none => "None"

/-- A statement in a listing. -/
def listStatement : Statement → String
  | .print value => writeCall "Print" (listExpr value)
  | .input target => writeCall "Input" (Text.quote target)
  | .assign assignment => writeCall "Assign" (listAssignment assignment)
  | .goto label => writeCall "Goto" (Text.quote label)
  | .si condition otherwise finish =>
    writeRecord "IfThen"
      [("condition", listExpr condition), ("else_label", listLabel? otherwise),
        ("end_label", Text.quote finish)]
  | .tantque condition start finish =>
    writeRecord "While"
      [("condition", listExpr condition), ("start_label", Text.quote start),
        ("end_label", Text.quote finish)]
  | .pour init condition step start finish =>
    writeRecord "For"
      [("init", listAssignment init), ("condition", listExpr condition),
        ("step", listAssignment step), ("start_label", Text.quote start),
        ("end_label", Text.quote finish)]
  | .move bearing => writeCall "Move" (listBearing bearing)
  | .shoot bearing => writeCall "Shoot" (listBearing bearing)
  | .melee direction => writeCall "Melee" (directionName direction)
  | .reload => "Reload"

end RobotScript.Command
