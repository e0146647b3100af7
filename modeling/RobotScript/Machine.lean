import RobotScript.Console
import RobotScript.Diagnostic
import RobotScript.Statement

/-!
# The machine

The machine is all that a statement can change: where the program goes on, the variables, the
console, the phases of the counted loops, and the answers that the host has given to the questions
of the current statement. `Program.execute` runs one statement. A statement that lacks an answer
asks for it and leaves everything as it was, except that a counted loop keeps an assignment it has
already made.
-/

namespace RobotScript

/-- What a robot does on the board. -/
inductive Action where
  | move (direction : Direction)
  | shoot (direction : Direction)
  | melee (direction : Direction)
  | reload
deriving DecidableEq, Repr

/-- Where a counted loop stands: its condition is due, or its body is running. -/
inductive Phase where
  | checking
  | iterating
deriving DecidableEq, Repr

/-- What statements change. -/
structure Machine where
  pc : Nat := 0
  store : Store := {}
  console : Console := {}
  loops : Table Nat Phase := {}
  answers : List Value := []
deriving DecidableEq

/-- How a statement ended: it is done, the host has to act, the host has to answer, or the script is
at fault. -/
inductive Outcome where
  | done
  | act (action : Action)
  | ask (query : Query)
  | fault (diagnostic : Diagnostic)
deriving DecidableEq

/-- The statement waits for an answer. -/
def Outcome.isQuestion : Outcome → Bool
  | ask _ => true
  | _ => false

namespace Machine

/-- The machine at another statement. -/
def jump (machine : Machine) (target : Nat) : Machine :=
  { machine with pc := target }

/-- The machine with a variable written. -/
def write (machine : Machine) (name : String) (value : Value) : Machine :=
  { machine with store := machine.store.insert name value }

/-- The value of an expression with the answers so far, or the question that has none. -/
def value (machine : Machine) (expr : Expr) : Except Query Value :=
  (expr.eval machine.store machine.answers).1

/-- Goes on with the value of an expression, or asks for the answer that it lacks. -/
def withValue (machine : Machine) (expr : Expr) (following : Value → Machine × Outcome) :
    Machine × Outcome :=
  match machine.value expr with
  | .ok value => following value
  | .error query => (machine, .ask query)

/-- Goes on with the target of a label. One that leads nowhere is a fault. -/
def withLabel (machine : Machine) (labels : Table String Nat) (label : String)
    (following : Nat → Machine × Outcome) : Machine × Outcome :=
  match labels.get? label with
  | some target => following target
  | none => (machine, .fault ⟨.unknownLabel, label, true, none⟩)

/-- Goes on with the direction of an action. A variable that holds something else stands for
`HAUTDROIT`, and one that was never written is a fault. -/
def withBearing (machine : Machine) (bearing : Bearing)
    (following : Direction → Machine × Outcome) :
    Machine × Outcome :=
  match bearing with
  | .toward direction => following direction
  | .held name =>
    match machine.store.get? name with
    | some value => following (value.toDirection?.getD .upRight)
    | none => (machine, .fault ⟨.invalidVariable, name, true, none⟩)

/-- Makes the assignment that is due before the condition of a counted loop: the first one on entry,
the step after each pass, and none if it has been made already. The answers it used are spent. -/
def prepareLoop (machine : Machine) (index : Nat) (init step : Assignment) : Except Query Machine :=
  let prepare (assignment : Assignment) : Except Query Machine :=
    match machine.value assignment.value with
    | .ok value =>
      .ok { machine.write assignment.target value with
            loops := machine.loops.insert index .checking, answers := [] }
    | .error query => .error query
  match machine.loops.get? index with
  | none => prepare init
  | some .iterating => prepare step
  | some .checking => .ok machine

/-- Enters the body of a counted loop. -/
def enterLoop (machine : Machine) (index : Nat) : Machine :=
  { machine with loops := machine.loops.insert index .iterating }

/-- Leaves a counted loop. -/
def leaveLoop (machine : Machine) (index target : Nat) : Machine :=
  { machine with loops := machine.loops.erase index, pc := target }

/-- Reads a line into a variable. At the end of the input the variable stays as it is. -/
def readInto (machine : Machine) (name : String) : Machine :=
  match machine.console.readLine with
  | (some line, console) => { machine with console }.write name (.ofInput line)
  | (none, _) => machine

end Machine

/-- Runs the statement at an index. The machine already stands at the next one, which a jump
changes. -/
def Program.execute (program : Program) (machine : Machine) (index : Nat) :
    Statement → Machine × Outcome
  | .print expr =>
    machine.withValue expr fun value =>
      ({ machine with console := machine.console.print value.write }, .done)
  | .input name => (machine.readInto name, .done)
  | .assign assignment =>
    machine.withValue assignment.value fun value => (machine.write assignment.target value, .done)
  | .goto label => machine.withLabel program.labels label fun target => (machine.jump target, .done)
  | .si condition otherwise finish =>
    machine.withLabel program.labels finish fun target =>
      machine.withValue condition fun value =>
        if value.isTrue then (machine, .done)
        else
          match otherwise with
          | none => (machine.jump target, .done)
          | some label =>
            machine.withLabel program.labels label fun target => (machine.jump target, .done)
  | .tantque condition _ finish =>
    machine.withLabel program.labels finish fun target =>
      machine.withValue condition fun value =>
        (if value.isTrue then machine else machine.jump target, .done)
  | .pour init condition step _ finish =>
    machine.withLabel program.labels finish fun target =>
      match machine.prepareLoop index init step with
      | .error query => (machine, .ask query)
      | .ok machine =>
        machine.withValue condition fun value =>
          (if value.isTrue then machine.enterLoop index else machine.leaveLoop index target, .done)
  | .move bearing => machine.withBearing bearing fun direction => (machine, .act (.move direction))
  | .shoot bearing =>
    machine.withBearing bearing fun direction => (machine, .act (.shoot direction))
  | .melee direction => (machine, .act (.melee direction))
  | .reload => (machine, .act .reload)

end RobotScript
