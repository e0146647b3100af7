import RobotScript.Proofs.Script
import RobotScript.Session.Host

/-!
# What a script means as a tree

The direct reading of a script, without labels, jumps, statement numbers, suspensions or answers
that are kept for later. A question is asked where it stands and its answer is used there. A `si`
chooses a branch, a `tantque` is its test and then its body, and a `pour` is its first assignment
and then, over and over, its test, its body and its step.

What can be seen of a run is what the host is told: each message, with the variables and the console
at that moment. `Script.account` is all that a script tells its host, up to and including how it
ends.

A tree can be read for any number of passes of a loop, so the reading is given a bound on the passes
of each loop. A script that needs more has no account, and neither has one that jumps.
-/

namespace RobotScript

variable {σ : Type}

/-! ## The world of a script -/

/-- What a host sees when it is told something: the message, the variables, and what was printed and
is left to read. -/
structure Moment where
  message : Message
  store : Store
  console : Console
deriving DecidableEq

/-- A host in the middle of a run: its state, and what it has been told so far. -/
structure Audience (σ : Type) where
  state : σ
  heard : List Moment := []

/-- All that a script works on. -/
structure World (σ : Type) where
  store : Store := {}
  console : Console
  audience : Audience σ

/-- Why a reading stops before its end: a variable that was never written is used as a direction, or
the reading says nothing, since the script jumps or a loop makes too many passes. -/
inductive Stop where
  | unset (name : String)
  | unknown
deriving DecidableEq

/-- What a part of a script does to the world. -/
abbrev Meaning (σ α : Type) := EStateM Stop (World σ) α

/-- The value with which a host answers a question, and the host afterwards. -/
def Host.answer (host : Host σ) (state : σ) : Query → Value × σ
  | .enemy => (((host.enemy state).1.map Value.direction).getD (.number 0.0), (host.enemy state).2)
  | .alive => (.number (Decimal.ofInt ((host.alive state).1.getD 0)), (host.alive state).2)

namespace Audience

/-- The host is told something. -/
def hear (audience : Audience σ) (message : Message) (store : Store) (console : Console) :
    Audience σ :=
  { audience with heard := audience.heard ++ [⟨message, store, console⟩] }

/-- The host is asked a question and answers it. -/
def ask (audience : Audience σ) (host : Host σ) (query : Query) (store : Store)
    (console : Console) :
    Value × Audience σ :=
  let (value, state) := host.answer audience.state query
  (value, { audience.hear (.suspended (.ask query)) store console with state })

end Audience

namespace World

/-- The world with a variable written. -/
def write (world : World σ) (name : String) (value : Value) : World σ :=
  { world with store := world.store.insert name value }

/-- The world with one more line printed. -/
def print (world : World σ) (line : String) : World σ :=
  { world with console := world.console.print line }

/-- The world after a line was read into a variable. At the end of the input nothing changes. -/
def readInto (world : World σ) (name : String) : World σ :=
  match world.console.input with
  | [] => world
  | line :: rest =>
    { world with console := { world.console with input := rest } }.write name (.ofInput line)

/-- The world after the host was told something. -/
def tell (world : World σ) (message : Message) : World σ :=
  { world with audience := world.audience.hear message world.store world.console }

end World

/-! ## Expressions and simple items -/

namespace Host

variable (host : Host σ)

/-- Asks the host. -/
def question (query : Query) : Meaning σ Value := fun world =>
  let (value, audience) := world.audience.ask host query world.store world.console
  .ok value { world with audience }

/-- The value of an expression, from left to right. -/
def evaluate : Expr → Meaning σ Value
  | .literal value => return value
  | .var name => return (← get).store.read name
  | .ask query => host.question query
  | .binary op left right => do
    let x ← evaluate left
    let y ← evaluate right
    return op.apply x y

/-- Writes the value of an expression to a variable. -/
def assign (assignment : Assignment) : Meaning σ Unit := do
  let value ← host.evaluate assignment.value
  modify (·.write assignment.target value)

end Host

/-- The direction of an action. A variable that holds something else stands for `HAUTDROIT`. -/
def Bearing.meaning : Bearing → Meaning σ Direction
  | .toward direction => return direction
  | .held name => do
    match (← get).store.get? name with
    | some value => return value.toDirection?.getD .upRight
    | none => throw (.unset name)

/-- Tells the host what the robot does. -/
def Action.meaning (action : Action) : Meaning σ Unit :=
  modify (·.tell (.suspended (.act action)))

/-- What a simple item does. A jump has no meaning in a tree. -/
def Simple.meaning (host : Host σ) : Simple → Meaning σ Unit
  | print expr => do
    let value ← host.evaluate expr
    modify (·.print value.write)
  | input target => modify (·.readInto target)
  | assign assignment => host.assign assignment
  | goto _ => throw .unknown
  | move bearing => do
    let direction ← bearing.meaning
    Action.meaning (.move direction)
  | shoot bearing => do
    let direction ← bearing.meaning
    Action.meaning (.shoot direction)
  | melee direction => Action.meaning (.melee direction)
  | reload => Action.meaning .reload

/-! ## Scripts -/

/-- Makes passes through a body as long as a test holds. The test is made at most `tests` times. -/
def Meaning.repeatWhile (test : Meaning σ Value) (body : Meaning σ Unit) : Nat → Meaning σ Unit
  | 0 => throw .unknown
  | tests + 1 => do
    let value ← test
    if value.isTrue then
      body
      repeatWhile test body tests

/-- What a script does. Each entry of a loop makes its test at most `tests` times. -/
def Script.meaning (host : Host σ) (tests : Nat) : Script → Meaning σ Unit
  | empty => return
  | label _ rest => rest.meaning host tests
  | simple item rest => do
    item.meaning host
    rest.meaning host tests
  | si condition body rest => do
    let value ← host.evaluate condition
    if value.isTrue then body.meaning host tests
    rest.meaning host tests
  | siSinon condition body alternative rest => do
    let value ← host.evaluate condition
    if value.isTrue then body.meaning host tests else alternative.meaning host tests
    rest.meaning host tests
  | tantque condition body rest => do
    (host.evaluate condition).repeatWhile (body.meaning host tests) tests
    rest.meaning host tests
  | pour init condition step body rest => do
    host.assign init
    (host.evaluate condition).repeatWhile (do body.meaning host tests; host.assign step) tests
    rest.meaning host tests

/-- The message at the end of a script that uses a variable as a direction before it is written. -/
def Message.unset (name : String) : Message :=
  .failed [⟨.invalidVariable, name, true, none⟩]

/-- All that a script tells a host, if it starts without variables. -/
def Script.account (host : Host σ) (tests : Nat) (script : Script) (state : σ)
    (console : Console) :
    Option (List Moment) :=
  match script.meaning host tests { console, audience := { state } } with
  | .ok _ world => some (world.tell .terminated).audience.heard
  | .error (.unset name) world => some (world.tell (.unset name)).audience.heard
  | .error .unknown _ => none

end RobotScript
