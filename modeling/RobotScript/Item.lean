import RobotScript.Diagnostic
import RobotScript.Statement
import RobotScript.Vocabulary

/-!
# Items

A script is a sequence of items: labels, statements, and the words that open, divide and close
blocks. An item is read without regard to the blocks around it. What is wrong with it is kept as
findings, since the message for a malformed expression names the block that the item stands in.
-/

namespace RobotScript

/-- The kinds of blocks. -/
inductive Block where
  | si
  | tantque
  | pour
deriving DecidableEq, Repr

/-- The word that opens a block. -/
def Block.keyword : Block → String
  | si => Keyword.si.name
  | tantque => Keyword.tantque.name
  | pour => Keyword.pour.name

/-- What opens a block. -/
inductive Header where
  | si (condition : Expr)
  | tantque (condition : Expr)
  | pour (init : Assignment) (condition : Expr) (step : Assignment)
deriving DecidableEq

/-- One item of a script. The words that divide and close blocks come with their tokens. -/
inductive Item where
  | label (name : String)
  | statement (statement : Statement)
  | opening (header : Header)
  | divider (token : Token)
  | closing (block : Block) (token : Token)
  | void
deriving DecidableEq

/-- The names that an item makes usable as directions: the target of an assignment statement. -/
def Item.assigned : Item → List String
  | .statement (.assign assignment) => [assignment.target]
  | _ => []

/-- Something wrong with an item. -/
inductive Finding where
  | plain (diagnostic : Diagnostic)
  | malformed (token : Token)
deriving DecidableEq

/-- The diagnostic for a finding. A malformed expression is reported under the innermost open block,
if there is one. -/
def Finding.diagnose (innermost : Option Block) : Finding → Diagnostic
  | plain diagnostic => diagnostic
  | malformed token =>
    let text := (innermost.map Block.keyword).getD token.text
    ⟨.malformedExpression, text, false, some token.place⟩

end RobotScript
