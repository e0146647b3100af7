import RobotScript.Program.Layout
import RobotScript.Proofs.Script

/-!
# Laying out scripts

`Draft.append` adds statements, labels and minted labels to a draft, and every step that lays out an
item is written with it. `Draft.extend` adds a whole script, in the layout of `Script.statements`
and `Script.labels`. The lemmas `extend_label` to `extend_pour` say that laying out items one by one
comes to the same: opening a block, laying out its body and closing it extends the draft by the
block.
-/

namespace RobotScript

namespace Draft

/-! ## Steps -/

/-- What laying out an item can do to a draft. -/
inductive Change (draft : Draft) : Item → Draft → Prop
  | label (name : String) : Change draft (.label name) (draft.mark name)
  | statement (statement : Statement) : Change draft (.statement statement) (draft.push statement)
  | opening (header : Header) : Change draft (.opening header) (draft.openBlock header)
  | divide {index : Nat} {others : List Frame} {token : Token}
      (inside : draft.frames = .si index none :: others) :
      Change draft (.divider token) (draft.divide index)
  | closeSi {index : Nat} {jump : Option Nat} {others : List Frame} {token : Token}
      (inside : draft.frames = .si index jump :: others) :
      Change draft (.closing .si token) (draft.closeSi index jump)
  | closeTantque {index : Nat} {others : List Frame} {token : Token}
      (inside : draft.frames = .tantque index :: others) :
      Change draft (.closing .tantque token) (draft.closeLoop index)
  | closePour {index : Nat} {others : List Frame} {token : Token}
      (inside : draft.frames = .pour index :: others) :
      Change draft (.closing .pour token) (draft.closeLoop index)
  | reject (item : Item) (token : Token) : Change draft item (draft.reject token)
  | void : Change draft .void draft

theorem change_addItem (draft : Draft) (item : Item) : Change draft item (draft.addItem item) := by
  cases item with
  | label name => exact .label name
  | statement statement => exact .statement statement
  | opening header => exact .opening header
  | divider token =>
    simp only [addItem]
    split
    · next inside => exact .divide inside
    · exact .reject _ token
  | closing block token =>
    simp only [addItem]
    split
    · next inside => exact .closeSi inside
    · next inside => exact .closeTantque inside
    · next inside => exact .closePour inside
    · exact .reject _ token
  | void => exact .void

/-! ## Appending -/

/-- The draft with statements after its last one, labels set in the given order, and `minted` more
labels minted. -/
def append (draft : Draft) (statements : List Statement) (labels : List (String × Nat))
    (minted : Nat) : Draft :=
  { draft with
    program.statements := draft.program.statements ++ statements.toArray
    program.labels :=
      labels.foldl (fun table entry => table.insert entry.1 entry.2) draft.program.labels
    minted := draft.minted + minted }

variable (draft : Draft) (statements : List Statement) (labels : List (String × Nat))
  (minted : Nat)

@[simp] theorem size_append :
    (draft.append statements labels minted).size = draft.size + statements.length := by
  simp [append, size]

@[simp] theorem minted_append :
    (draft.append statements labels minted).minted = draft.minted + minted := rfl

theorem append_nil : draft.append [] [] 0 = draft := by
  simp [append]

@[simp] theorem append_append (later : List Statement) (others : List (String × Nat))
    (more : Nat) :
    (draft.append statements labels minted).append later others more =
      draft.append (statements ++ later) (labels ++ others) (minted + more) := by
  simp [append, Nat.add_assoc]

@[simp] theorem enter_append (frame : Frame) :
    (draft.enter frame).append statements labels minted =
      (draft.append statements labels minted).enter frame := rfl

@[simp] theorem leave_enter (frame : Frame) : (draft.enter frame).leave = draft := rfl

theorem push_eq_append (statement : Statement) :
    draft.push statement = draft.append [statement] [] 0 := by
  simp [push, append]

theorem mark_eq_append (label : String) :
    draft.mark label = draft.append [] [(label, draft.size)] 0 := by
  simp [mark, append]

theorem mint_eq_append : draft.mint = draft.append [] [(toString draft.minted, draft.size)] 1 := by
  simp [mint, mark, nextLabel, append]

/-- The first of the statements that were appended stands at the former end. -/
theorem getElem?_append_cons (statement : Statement) :
    (draft.append (statement :: statements) labels minted).program.statements[draft.size]? =
      some statement := by
  simp [append, size]

/-- A statement that was appended is changed at its place. -/
theorem amend_append (before after : List Statement) (statement : Statement)
    (change : Statement → Statement) :
    (draft.append (before ++ statement :: after) labels minted).amend
      (draft.size + before.length) change =
      draft.append (before ++ change statement :: after) labels minted := by
  have changed : (draft.program.statements ++ (before ++ statement :: after).toArray).modify
        (draft.program.statements.size + before.length) change =
      draft.program.statements ++ (before ++ change statement :: after).toArray := by
    apply Array.ext
    · simp
    · intro index inside _
      rw [Array.getElem_modify]
      grind
  simp only [amend, append, size, changed]

/-- The first of the statements that were appended is changed. -/
@[simp] theorem amend_append_cons (statement : Statement) (change : Statement → Statement) :
    (draft.append (statement :: statements) labels minted).amend draft.size change =
      draft.append (change statement :: statements) labels minted :=
  amend_append draft labels minted [] statements statement change

@[simp] theorem amend_enter (frame : Frame) (index : Nat) (change : Statement → Statement) :
    (draft.enter frame).amend index change = (draft.amend index change).enter frame := rfl

@[simp] theorem size_enter (frame : Frame) : (draft.enter frame).size = draft.size := rfl

@[simp] theorem minted_enter (frame : Frame) : (draft.enter frame).minted = draft.minted := rfl

/-! ## Blocks -/

/-- A loop that was opened is closed after its body. -/
theorem closeLoop_append {header : Statement} {start : String} (starts : header.start? = some start)
    (frame : Frame) :
    ((draft.append (header :: statements) labels minted).enter frame).closeLoop draft.size =
      draft.append
        (header.withFinish (toString (draft.minted + minted)) :: (statements ++ [.goto start]))
        (labels ++ [(toString (draft.minted + minted), draft.size + statements.length + 1 + 1)])
        (minted + 1) := by
  have found : ((draft.append (header :: statements) labels minted).enter frame).loopStart
      draft.size = start := by
    show ((draft.append (header :: statements) labels minted).program.statements[draft.size]?.bind
      _).getD "" = start
    rw [getElem?_append_cons, Option.bind_some, starts]
    rfl
  unfold closeLoop
  rw [found, push_eq_append, mint_eq_append]
  simp [nextLabel, Nat.add_assoc]

/-- A `si` that was opened is divided after its first branch. -/
theorem divide_append (header : Statement) (frame : Frame) :
    ((draft.append (header :: statements) labels minted).enter frame).divide draft.size =
      (draft.append
        (header.withOtherwise (toString (draft.minted + minted)) :: (statements ++ [.goto ""]))
        (labels ++ [(toString (draft.minted + minted), draft.size + statements.length + 1 + 1)])
        (minted + 1)).enter
        (.si draft.size (some (draft.size + statements.length + 1))) := by
  unfold divide
  rw [push_eq_append, mint_eq_append]
  simp [nextLabel, Nat.add_assoc]

/-- A `si` with one branch is closed after it. -/
theorem closeSi_append (header : Statement) (frame : Frame) :
    ((draft.append (header :: statements) labels minted).enter frame).closeSi draft.size none =
      draft.append (header.withFinish (toString (draft.minted + minted)) :: statements)
        (labels ++ [(toString (draft.minted + minted), draft.size + statements.length + 1)])
        (minted + 1) := by
  unfold closeSi
  rw [mint_eq_append]
  simp [nextLabel, Nat.add_assoc]

/-- A `si` with two branches is closed after the second, and the jump at the end of the first is
filled in. -/
theorem closeSi_append_jump (header : Statement) (alternative : List Statement) (frame : Frame) :
    ((draft.append (header :: (statements ++ .goto "" :: alternative)) labels minted).enter
      frame).closeSi draft.size
        (some (draft.size + statements.length + 1)) =
      draft.append (header.withFinish (toString (draft.minted + minted)) ::
          (statements ++ .goto (toString (draft.minted + minted)) :: alternative))
        (labels ++ [(toString (draft.minted + minted),
          draft.size + statements.length + 1 + 1 + alternative.length)])
        (minted + 1) := by
  have jumps := draft.amend_append (labels ++ [(toString (draft.minted + minted),
    draft.size + statements.length + 1 + 1 + alternative.length)]) (minted + 1)
    (header :: statements) alternative (.goto "") fun _ => .goto (toString (draft.minted + minted))
  have last : draft.size + (statements.length + 1 + (alternative.length + 1)) =
      draft.size + statements.length + 1 + 1 + alternative.length := by omega
  have place : draft.size + statements.length + 1 = draft.size + (header :: statements).length := by
    rw [List.length_cons, Nat.add_assoc]
  unfold closeSi
  rw [mint_eq_append, place]
  simp only [nextLabel, enter_append, append_append, amend_enter, size_enter, minted_enter,
    size_append, minted_append, List.append_nil, List.length_cons, List.length_append, last,
    ← List.cons_append]
  rw [List.length_cons] at jumps
  rw [jumps, List.cons_append, amend_append_cons, leave_enter]
  rfl

/-! ## Scripts -/

/-- The draft with a script laid out after its last statement. -/
def extend (script : Script) : Draft :=
  draft.append (script.statements draft.minted) (script.labels draft.size draft.minted) script.mints

theorem extend_empty : draft.extend .empty = draft :=
  draft.append_nil

theorem extend_label (name : String) (rest : Script) :
    draft.extend (.label name rest) = (draft.mark name).extend rest := by
  simp only [mark_eq_append, extend, append_append, size_append, minted_append]
  simp only [Script.statements, Script.labels, Script.mints, List.nil_append, List.cons_append,
    List.length_nil, Nat.add_zero, Nat.zero_add]

theorem extend_simple (item : Simple) (rest : Script) :
    draft.extend (.simple item rest) = (draft.push item.statement).extend rest := by
  simp only [push_eq_append, extend, append_append, size_append, minted_append]
  simp only [Script.statements, Script.labels, Script.mints, List.nil_append, List.cons_append,
    List.length_cons, List.length_nil, Nat.add_zero, Nat.zero_add]

theorem extend_si (condition : Expr) (body rest : Script) :
    draft.extend (.si condition body rest) =
      (((draft.openBlock (.si condition)).extend body).closeSi draft.size none).extend rest := by
  have opened : draft.openBlock (.si condition) =
      (draft.append [.si condition none ""] [] 0).enter (.si draft.size none) := by
    simp [openBlock, push_eq_append]
  simp only [opened, extend, enter_append, append_append, List.singleton_append,
    closeSi_append, size_append, minted_append, size_enter, minted_enter]
  simp [Script.statements, Script.labels, Script.mints, Script.length_statements,
    Statement.withFinish, Nat.add_assoc, Nat.add_comm, Nat.add_left_comm]

theorem extend_siSinon (condition : Expr) (body alternative rest : Script) :
    draft.extend (.siSinon condition body alternative rest) =
      (((((draft.openBlock (.si condition)).extend body).divide draft.size).extend
        alternative).closeSi draft.size (some (draft.size + body.size + 1))).extend rest := by
  have opened : draft.openBlock (.si condition) =
      (draft.append [.si condition none ""] [] 0).enter (.si draft.size none) := by
    simp [openBlock, push_eq_append]
  have jumps := draft.closeSi_append_jump (body.statements draft.minted)
  rw [Script.length_statements] at jumps
  simp only [opened, extend, enter_append, append_append, divide_append, size_append,
    minted_append, size_enter, minted_enter, List.append_assoc, List.cons_append, List.nil_append,
    Nat.add_zero, jumps]
  simp [Script.statements, Script.labels, Script.mints, Script.length_statements,
    Statement.withFinish, Statement.withOtherwise, Nat.add_assoc, Nat.add_comm, Nat.add_left_comm]

theorem extend_tantque (condition : Expr) (body rest : Script) :
    draft.extend (.tantque condition body rest) =
      (((draft.openBlock (.tantque condition)).extend body).closeLoop draft.size).extend rest := by
  have opened : draft.openBlock (.tantque condition) =
      (draft.append [.tantque condition (toString draft.minted) ""]
        [(toString draft.minted, draft.size)] 1).enter (.tantque draft.size) := by
    simp [openBlock, mint_eq_append, push_eq_append, nextLabel]
  have starts : (Statement.tantque condition (toString draft.minted) "").start? =
      some (toString draft.minted) := rfl
  simp only [opened, extend, enter_append, append_append, List.singleton_append,
    closeLoop_append _ _ _ _ starts, size_append, minted_append, size_enter, minted_enter]
  simp [Script.statements, Script.labels, Script.mints, Script.length_statements,
    Statement.withFinish, Nat.add_assoc, Nat.add_comm, Nat.add_left_comm]

theorem extend_pour (init : Assignment) (condition : Expr) (step : Assignment)
    (body rest : Script) :
    draft.extend (.pour init condition step body rest) =
      (((draft.openBlock (.pour init condition step)).extend body).closeLoop draft.size).extend
        rest := by
  have opened : draft.openBlock (.pour init condition step) =
      (draft.append [.pour init condition step (toString draft.minted) ""]
        [(toString draft.minted, draft.size)] 1).enter (.pour draft.size) := by
    simp [openBlock, mint_eq_append, push_eq_append, nextLabel]
  have starts : (Statement.pour init condition step (toString draft.minted) "").start? =
      some (toString draft.minted) := rfl
  simp only [opened, extend, enter_append, append_append, List.singleton_append,
    closeLoop_append _ _ _ _ starts, size_append, minted_append, size_enter, minted_enter]
  simp [Script.statements, Script.labels, Script.mints, Script.length_statements,
    Statement.withFinish, Nat.add_assoc, Nat.add_comm, Nat.add_left_comm]

end Draft

end RobotScript
