import RobotScript.Statement

/-!
# Scripts as trees

A script is a sequence of items, and a block is an item with scripts inside it. This is what a
script means before it is laid out as a flat program.

`Script.program` is the layout that is meant: one statement for each simple item, the opening
statement, the body and a jump back for a loop, the opening statement and the branches for a `si`,
with a jump over the second branch at the end of the first. The labels of blocks are decimal
numerals, counted in the order in which the script is read.
-/

namespace RobotScript

/-- An item without a script inside it that becomes one statement. -/
inductive Simple where
  | print (value : Expr)
  | input (target : String)
  | assign (assignment : Assignment)
  | goto (label : String)
  | move (bearing : Bearing)
  | shoot (bearing : Bearing)
  | melee (direction : Direction)
  | reload
deriving DecidableEq

namespace Simple

/-- The statement for a simple item. -/
def statement : Simple → Statement
  | print value => .print value
  | input target => .input target
  | assign assignment => .assign assignment
  | goto label => .goto label
  | move bearing => .move bearing
  | shoot bearing => .shoot bearing
  | melee direction => .melee direction
  | reload => .reload

/-- The names that a simple item makes usable as directions. -/
def assigned : Simple → List String
  | assign assignment => [assignment.target]
  | _ => []

end Simple

/-- The labels that a statement names. -/
def Statement.labels : Statement → List String
  | goto label => [label]
  | si _ otherwise finish => otherwise.toList ++ [finish]
  | tantque _ start finish => [start, finish]
  | pour _ _ _ start finish => [start, finish]
  | _ => []

/-- A script: nothing, or a first item and the script after it. -/
inductive Script where
  | empty
  | label (name : String) (rest : Script)
  | simple (item : Simple) (rest : Script)
  | si (condition : Expr) (body rest : Script)
  | siSinon (condition : Expr) (body alternative rest : Script)
  | tantque (condition : Expr) (body rest : Script)
  | pour (init : Assignment) (condition : Expr) (step : Assignment) (body rest : Script)
deriving DecidableEq

namespace Script

/-! ## The layout -/

/-- How many statements a script becomes. -/
def size : Script → Nat
  | empty => 0
  | label _ rest => rest.size
  | simple _ rest => 1 + rest.size
  | si _ body rest => 1 + body.size + rest.size
  | siSinon _ body alternative rest => 1 + body.size + (1 + alternative.size) + rest.size
  | tantque _ body rest => 1 + body.size + 1 + rest.size
  | pour _ _ _ body rest => 1 + body.size + 1 + rest.size

/-- How many labels are minted for the blocks of a script: two for a loop, one for the end of a
`si`, and one for its second branch. -/
def mints : Script → Nat
  | empty => 0
  | label _ rest => rest.mints
  | simple _ rest => rest.mints
  | si _ body rest => body.mints + 1 + rest.mints
  | siSinon _ body alternative rest => body.mints + 1 + alternative.mints + 1 + rest.mints
  | tantque _ body rest => 1 + body.mints + 1 + rest.mints
  | pour _ _ _ body rest => 1 + body.mints + 1 + rest.mints

/-- The statements of a script, when `minted` labels have been minted before it. -/
def statements (minted : Nat) : Script → List Statement
  | empty => []
  | label _ rest => rest.statements minted
  | simple item rest => item.statement :: rest.statements minted
  | si condition body rest =>
    let finish := minted + body.mints
    .si condition none (toString finish) :: body.statements minted ++ rest.statements (finish + 1)
  | siSinon condition body alternative rest =>
    let otherwise := minted + body.mints
    let finish := otherwise + 1 + alternative.mints
    .si condition (some (toString otherwise)) (toString finish) :: body.statements minted ++
      .goto (toString finish) :: alternative.statements (otherwise + 1) ++
      rest.statements (finish + 1)
  | tantque condition body rest =>
    let finish := minted + 1 + body.mints
    .tantque condition (toString minted) (toString finish) :: body.statements (minted + 1) ++
      .goto (toString minted) :: rest.statements (finish + 1)
  | pour init condition step body rest =>
    let finish := minted + 1 + body.mints
    .pour init condition step (toString minted) (toString finish) :: body.statements (minted + 1) ++
      .goto (toString minted) :: rest.statements (finish + 1)

/-- The labels of a script with their targets in the order in which they are set, when it starts at
the statement `start` and `minted` labels have been minted before it. -/
def labels (start minted : Nat) : Script → List (String × Nat)
  | empty => []
  | label name rest => (name, start) :: rest.labels start minted
  | simple _ rest => rest.labels (start + 1) minted
  | si _ body rest =>
    let last := start + 1 + body.size
    let finish := minted + body.mints
    body.labels (start + 1) minted ++ (toString finish, last) :: rest.labels last (finish + 1)
  | siSinon _ body alternative rest =>
    let second := start + 1 + body.size + 1
    let otherwise := minted + body.mints
    let last := second + alternative.size
    let finish := otherwise + 1 + alternative.mints
    body.labels (start + 1) minted ++ (toString otherwise, second) ::
      alternative.labels second (otherwise + 1) ++ (toString finish, last) ::
      rest.labels last (finish + 1)
  | tantque _ body rest =>
    let last := start + 1 + body.size + 1
    let finish := minted + 1 + body.mints
    (toString minted, start) :: body.labels (start + 1) (minted + 1) ++
      (toString finish, last) :: rest.labels last (finish + 1)
  | pour _ _ _ body rest =>
    let last := start + 1 + body.size + 1
    let finish := minted + 1 + body.mints
    (toString minted, start) :: body.labels (start + 1) (minted + 1) ++
      (toString finish, last) :: rest.labels last (finish + 1)

/-- The program that a script is laid out as. A label that is set again has its last target. -/
def program (script : Script) : Program where
  statements := (script.statements 0).toArray
  labels := (script.labels 0 0).foldl (fun table entry => table.insert entry.1 entry.2) {}

/-- The labels to which a script jumps. -/
def jumps : Script → List String
  | empty => []
  | label _ rest => rest.jumps
  | simple item rest => item.statement.labels ++ rest.jumps
  | si _ body rest => body.jumps ++ rest.jumps
  | siSinon _ body alternative rest => body.jumps ++ alternative.jumps ++ rest.jumps
  | tantque _ body rest => body.jumps ++ rest.jumps
  | pour _ _ _ body rest => body.jumps ++ rest.jumps

theorem length_statements (script : Script) (minted : Nat) :
    (script.statements minted).length = script.size := by
  induction script generalizing minted with
  | empty => rfl
  | label name rest ih => exact ih minted
  | simple item rest ih =>
    simp only [statements, size, List.length_cons, ih]
    omega
  | si condition body rest ihBody ihRest =>
    simp only [statements, size, List.length_cons, List.length_append, ihBody, ihRest]
    omega
  | siSinon condition body alternative rest ihBody ihAlternative ihRest =>
    simp only [statements, size, List.length_cons, List.length_append, ihBody,
      ihAlternative, ihRest]
    omega
  | tantque condition body rest ihBody ihRest =>
    simp only [statements, size, List.length_cons, List.length_append, ihBody, ihRest]
    omega
  | pour init condition step body rest ihBody ihRest =>
    simp only [statements, size, List.length_cons, List.length_append, ihBody, ihRest]
    omega

end Script

end RobotScript
