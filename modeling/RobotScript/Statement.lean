import RobotScript.Expr

/-!
# Statements

A program is a flat sequence of statements. The statements that open a block name the labels between
which it lies.
-/

namespace RobotScript

/-- A variable and the expression it is set to. -/
structure Assignment where
  target : String
  value : Expr
deriving DecidableEq

/-- Where an action takes its direction from: a keyword, or a variable that is read when the action
is due. -/
inductive Bearing where
  | toward (direction : Direction)
  | held (name : String)
deriving DecidableEq, Repr

/-- A statement. A label that is not filled in is empty. -/
inductive Statement where
  | print (value : Expr)
  | input (target : String)
  | assign (assignment : Assignment)
  | goto (label : String)
  | si (condition : Expr) (otherwise : Option String) (finish : String)
  | tantque (condition : Expr) (start finish : String)
  | pour (init : Assignment) (condition : Expr) (step : Assignment) (start finish : String)
  | move (bearing : Bearing)
  | shoot (bearing : Bearing)
  | melee (direction : Direction)
  | reload
deriving DecidableEq

namespace Statement

/-- The label at which a loop starts. -/
def start? : Statement → Option String
  | tantque _ start _ => some start
  | pour _ _ _ start _ => some start
  | _ => none

/-- The statement with the label after its block filled in. -/
def withFinish (label : String) : Statement → Statement
  | si condition otherwise _ => si condition otherwise label
  | tantque condition start _ => tantque condition start label
  | pour init condition step start _ => pour init condition step start label
  | statement => statement

/-- The statement with the label of its alternative branch filled in. -/
def withOtherwise (label : String) : Statement → Statement
  | si condition _ finish => si condition (some label) finish
  | statement => statement

end Statement

/-- A program: its statements, and the index of a statement for each label. -/
structure Program where
  statements : Array Statement := #[]
  labels : Table String Nat := {}
deriving DecidableEq

/-- The labels in the order of their targets, and those of one target in the order of their
names. -/
def Program.sortedLabels (program : Program) : List (String × Nat) :=
  program.labels.entries.mergeSort fun one other =>
    one.2 < other.2 || (one.2 == other.2 && one.1 ≤ other.1)

end RobotScript
