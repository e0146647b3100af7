import RobotScript.Item.Script

/-!
# The layout of a program

Items are laid out as a flat sequence of statements. A block becomes its opening statement, its
body, and a jump, tied together by labels that are minted as decimal numerals. The labels that a
block needs after its end are filled in when it is closed. A word that divides or closes no open
block is reported and changes nothing.
-/

namespace RobotScript

/-- A block that is open, with the index of its opening statement, and for a divided `si` the index
of the jump over its alternative branch. -/
inductive Frame where
  | si (index : Nat) (jump : Option Nat)
  | tantque (index : Nat)
  | pour (index : Nat)
deriving DecidableEq, Repr

/-- The kind of an open block. -/
def Frame.block : Frame → Block
  | si .. => .si
  | tantque .. => .tantque
  | pour .. => .pour

/-- A program that is being laid out, with the open blocks, the innermost first. -/
structure Draft where
  program : Program := {}
  frames : List Frame := []
  minted : Nat := 0
  errors : Array Diagnostic := #[]
deriving DecidableEq

namespace Draft

/-- The index of the next statement. -/
def size (draft : Draft) : Nat :=
  draft.program.statements.size

/-- The draft with one more statement. -/
def push (draft : Draft) (statement : Statement) : Draft :=
  { draft with program.statements := draft.program.statements.push statement }

/-- The draft with a statement changed. -/
def amend (draft : Draft) (index : Nat) (change : Statement → Statement) : Draft :=
  { draft with program.statements := draft.program.statements.modify index change }

/-- The draft with a label for the next statement. -/
def mark (draft : Draft) (label : String) : Draft :=
  { draft with program.labels := draft.program.labels.insert label draft.size }

/-- The label that is minted next. -/
def nextLabel (draft : Draft) : String :=
  toString draft.minted

/-- The draft with a minted label for the next statement. -/
def mint (draft : Draft) : Draft :=
  { draft.mark draft.nextLabel with minted := draft.minted + 1 }

/-- The draft with one more open block. -/
def enter (draft : Draft) (frame : Frame) : Draft :=
  { draft with frames := frame :: draft.frames }

/-- The draft without its innermost open block. -/
def leave (draft : Draft) : Draft :=
  { draft with frames := draft.frames.tail }

/-- The draft with one more diagnostic. -/
def report (draft : Draft) (diagnostic : Diagnostic) : Draft :=
  { draft with errors := draft.errors.push diagnostic }

/-- A word that divides or closes no open block. -/
def reject (draft : Draft) (token : Token) : Draft :=
  draft.report (.ofToken .unexpectedInstruction token true)

/-- Opens a block. A loop has a label at its opening statement. -/
def openBlock (draft : Draft) : Header → Draft
  | .si condition =>
    let index := draft.size
    (draft.push (.si condition none "")).enter (.si index none)
  | .tantque condition =>
    let index := draft.size
    let label := draft.nextLabel
    (draft.mint.push (.tantque condition label "")).enter (.tantque index)
  | .pour init condition step =>
    let index := draft.size
    let label := draft.nextLabel
    (draft.mint.push (.pour init condition step label "")).enter (.pour index)

/-- The label at which the loop with the given opening statement starts. -/
def loopStart (draft : Draft) (index : Nat) : String :=
  (draft.program.statements[index]?.bind Statement.start?).getD ""

/-- Closes a loop: a jump back to its start, and a label after that jump. -/
def closeLoop (draft : Draft) (index : Nat) : Draft :=
  let label := draft.nextLabel
  ((draft.push (.goto (draft.loopStart index))).mint.amend index (.withFinish label)).leave

/-- Divides a `si`: the first branch ends with a jump over the second, which is filled in at the
end, and the second has a label. -/
def divide (draft : Draft) (index : Nat) : Draft :=
  let jump := draft.size
  let label := draft.nextLabel
  ((draft.push (.goto "")).mint.amend index (.withOtherwise label)).leave.enter
    (.si index (some jump))

/-- Closes a `si`: a label after it, to which the jump over the second branch goes. -/
def closeSi (draft : Draft) (index : Nat) (jump : Option Nat) : Draft :=
  let label := draft.nextLabel
  let joined := match jump with
    | some jump => draft.mint.amend jump fun _ => .goto label
    | none => draft.mint
  (joined.amend index (.withFinish label)).leave

/-- Lays out one item. -/
def addItem (draft : Draft) : Item → Draft
  | .label name => draft.mark name
  | .statement statement => draft.push statement
  | .opening header => draft.openBlock header
  | .divider token =>
    match draft.frames with
    | .si index none :: _ => draft.divide index
    | _ => draft.reject token
  | .closing block token =>
    match block, draft.frames with
    | .si, .si index jump :: _ => draft.closeSi index jump
    | .tantque, .tantque index :: _ => draft.closeLoop index
    | .pour, .pour index :: _ => draft.closeLoop index
    | _, _ => draft.reject token
  | .void => draft

/-- Lays out one item after reporting what is wrong with it. -/
def add (draft : Draft) (entry : Item × List Finding) : Draft :=
  let innermost := draft.frames.head?.map Frame.block
  let reported := { draft with errors := draft.errors ++ entry.2.map (Finding.diagnose innermost) }
  reported.addItem entry.1

/-- The draft of a list of items. -/
def ofItems (items : List (Item × List Finding)) : Draft :=
  items.foldl add {}

/-- The diagnostics for the blocks that are still open, the innermost first. -/
def unclosed (draft : Draft) : List Diagnostic :=
  draft.frames.map fun frame => ⟨.unclosedBlock, frame.block.keyword, true, none⟩

end Draft

/-- A script that was read: its program, and everything that is wrong with it. -/
structure Parse where
  program : Program
  errors : List Diagnostic
deriving DecidableEq

/-- The script is faulty. -/
def Parse.hasErrors (parse : Parse) : Bool :=
  !parse.errors.isEmpty

/-- The program of a list of tokens. -/
def Parse.ofTokens (tokens : List Token) : Parse :=
  let draft := Draft.ofItems (Item.readAll tokens)
  ⟨draft.program, draft.errors.toList ++ draft.unclosed⟩

/-- The program of a script. Its last statement is ended by line breaks like every other. -/
def Parse.ofSource (source : String) : Parse :=
  .ofTokens (Token.tokenize (source ++ "\n\n"))

end RobotScript
