import RobotScript.Operator
import RobotScript.Table

/-!
# Expressions

An expression is built from literals, variables, questions to the host and operators. `Expr.eval`
works from left to right and takes the answers of the host in the order of its questions. The first
question without an answer stops it.
-/

namespace RobotScript

/-- A question that only the host can answer. -/
inductive Query where
  | enemy
  | alive
deriving DecidableEq, Repr

/-- An expression. -/
inductive Expr where
  | literal (value : Value)
  | var (name : String)
  | binary (op : Operator) (left right : Expr)
  | ask (query : Query)
deriving DecidableEq

/-- What the variables hold. -/
abbrev Store := Table String Value

/-- The value of a variable. One that was never written counts as zero. -/
def Store.read (store : Store) (name : String) : Value :=
  (store.get? name).getD default

namespace Expr

/-- A numeric literal. -/
def num (x : Float) : Expr :=
  .literal (.number x)

/-- The value of an expression, or the question that stopped it, and the answers that are left. -/
def eval (store : Store) : Expr → List Value → Except Query Value × List Value
  | literal value, answers => (.ok value, answers)
  | var name, answers => (.ok (store.read name), answers)
  | ask query, [] => (.error query, [])
  | ask _, answer :: answers => (.ok answer, answers)
  | binary op left right, answers =>
    match left.eval store answers with
    | (.error query, rest) => (.error query, rest)
    | (.ok x, rest) =>
      match right.eval store rest with
      | (.error query, rest) => (.error query, rest)
      | (.ok y, rest) => (.ok (op.apply x y), rest)

/-- The values of expressions in a row, each going on with the answers that the ones before it
left. -/
def evalAll (store : Store) : List Expr → List Value → List (Except Query Value)
  | [], _ => []
  | expr :: exprs, answers =>
    let (result, rest) := expr.eval store answers
    result :: evalAll store exprs rest

end Expr

end RobotScript
