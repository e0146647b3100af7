import RobotScript.Proofs.Wiring.Draft

/-!
# Open blocks of any list of items

An open block is kept with the index of its opening statement, and a divided `si` with the index of
a jump. `Draft.Framed` says that these indices are those of such statements, and that the open
blocks lie in one another. It holds of the draft of every list of items, whatever their labels are
and whatever is wrong with them.

Laying out an item leaves every statement at its place and in its form, as `Draft.Keeps` says, so an
index stays the index of such a statement. What remains is the block that an item opens, divides or
leaves.
-/

namespace RobotScript

namespace Statement

/-- The kind of block that a statement opens. -/
def opens? : Statement → Option Block
  | si .. => some .si
  | tantque .. => some .tantque
  | pour .. => some .pour
  | _ => none

/-- The statement is a jump. -/
def isJump : Statement → Bool
  | goto _ => true
  | _ => false

/-- Two statements open the same kind of block, and both or none of them are jumps. -/
def Alike (statement other : Statement) : Prop :=
  other.opens? = statement.opens? ∧ other.isJump = statement.isJump

theorem alike_withFinish (label : String) (statement : Statement) :
    Alike statement (statement.withFinish label) := by
  cases statement <;> exact ⟨rfl, rfl⟩

theorem alike_withOtherwise (label : String) (statement : Statement) :
    Alike statement (statement.withOtherwise label) := by
  cases statement <;> exact ⟨rfl, rfl⟩

theorem exists_goto {statement : Statement} (jumps : statement.isJump = true) :
    ∃ label, statement = .goto label := by
  cases statement with
  | goto label => exact ⟨label, rfl⟩
  | _ => cases jumps

end Statement

/-- The index of the jump over the second branch of a `si`. -/
def Frame.jump? : Frame → Option Nat
  | si _ jump => jump
  | _ => none

namespace Draft

/-- The new draft has every statement of the old one, at its place and in its form. -/
def Keeps (old new : Draft) : Prop :=
  ∀ (index : Nat) (statement : Statement), old.program.statements[index]? = some statement →
    ∃ later, new.program.statements[index]? = some later ∧ statement.Alike later

/-- The indices of open blocks are those of statements that open such blocks, and of jumps. An inner
block is opened after an outer one. -/
structure Framed (draft : Draft) : Prop where
  opening : ∀ frame ∈ draft.frames, ∃ statement, draft.program.statements[frame.index]? =
    some statement ∧
    statement.opens? = some frame.block
  jumps : ∀ frame ∈ draft.frames, ∀ jump ∈ frame.jump?, ∃ label,
    draft.program.statements[jump]? = some (.goto label)
  ordered : draft.frames.Pairwise fun inner outer => outer.index < inner.index

/-! ## Statements that are kept -/

theorem keeps_refl (draft : Draft) : Keeps draft draft :=
  fun _ _ found => ⟨_, found, rfl, rfl⟩

theorem Keeps.trans {first second third : Draft} (keeps : Keeps first second)
    (further : Keeps second third) :
    Keeps first third := by
  intro index statement found
  obtain ⟨later, here, blocks, jumps⟩ := keeps _ _ found
  obtain ⟨last, there, moreBlocks, moreJumps⟩ := further _ _ here
  exact ⟨last, there, moreBlocks.trans blocks, moreJumps.trans jumps⟩

theorem keeps_push (draft : Draft) (statement : Statement) : Keeps draft (draft.push statement) :=
  fun _ _ found => ⟨_, (draft.grows_push statement).statement found, rfl, rfl⟩

theorem keeps_amend {draft : Draft} {index : Nat} {change : Statement → Statement}
    (alike : ∀ statement, draft.program.statements[index]? = some statement →
      statement.Alike (change statement)) :
    Keeps draft (draft.amend index change) := by
  intro other statement found
  by_cases same : other = index
  · subst same
    exact ⟨change statement, amend_self found, alike statement found⟩
  · exact ⟨statement, (amend_other same).trans found, rfl, rfl⟩

/-! ## Changes of the open blocks -/

namespace Framed

variable {draft : Draft} (framed : draft.Framed)

include framed

/-- The opening statement of an open block is one of the statements. -/
theorem index_lt {frame : Frame} (isOpen : frame ∈ draft.frames) : frame.index < draft.size := by
  obtain ⟨statement, found, -⟩ := framed.opening frame isOpen
  exact lt_size found

theorem keeps {new : Draft} (keeps : Keeps draft new) (same : new.frames = draft.frames) :
    new.Framed where
  opening := by
    intro frame isOpen
    obtain ⟨statement, found, opens⟩ := framed.opening frame (same ▸ isOpen)
    obtain ⟨later, kept, blocks, -⟩ := keeps _ _ found
    exact ⟨later, kept, blocks.trans opens⟩
  jumps := by
    intro frame isOpen jump isJump
    obtain ⟨label, found⟩ := framed.jumps frame (same ▸ isOpen) jump isJump
    obtain ⟨later, kept, -, jumps⟩ := keeps _ _ found
    obtain ⟨target, rfl⟩ := Statement.exists_goto jumps
    exact ⟨target, kept⟩
  ordered := same ▸ framed.ordered

theorem leave : draft.leave.Framed where
  opening := fun frame isOpen => framed.opening frame (List.mem_of_mem_tail isOpen)
  jumps := fun frame isOpen => framed.jumps frame (List.mem_of_mem_tail isOpen)
  ordered := framed.ordered.tail

theorem enter {frame : Frame} {statement : Statement}
    (found : draft.program.statements[frame.index]? = some statement)
    (opens : statement.opens? = some frame.block) (jumps : ∀ jump ∈ frame.jump?, ∃ label,
      draft.program.statements[jump]? = some (.goto label))
    (inside : ∀ outer ∈ draft.frames, outer.index < frame.index) :
    (draft.enter frame).Framed where
  opening := List.forall_mem_cons.mpr ⟨⟨statement, found, opens⟩, framed.opening⟩
  jumps := List.forall_mem_cons.mpr ⟨jumps, framed.jumps⟩
  ordered := List.pairwise_cons.mpr ⟨inside, framed.ordered⟩

/-- A block is opened by the statement that is laid out for it. -/
theorem enter_push {frame : Frame} {statement : Statement} (last : frame.index = draft.size)
    (opens : statement.opens? = some frame.block) (whole : frame.jump? = none) :
    ((draft.push statement).enter frame).Framed := by
  refine (framed.keeps (draft.keeps_push statement) rfl).enter
    (last ▸ draft.getElem?_push_size statement) opens ?_ ?_
  · intro jump isJump
    rw [whole] at isJump
    cases isJump
  · exact fun outer isOpen => last ▸ framed.index_lt isOpen

theorem openBlock (header : Header) : (draft.openBlock header).Framed := by
  have minted : draft.mint.Framed := framed.keeps draft.keeps_refl rfl
  cases header with
  | si condition => exact framed.enter_push rfl rfl rfl
  | tantque condition => exact minted.enter_push rfl rfl rfl
  | pour init condition step => exact minted.enter_push rfl rfl rfl

theorem closeLoop (index : Nat) : (draft.closeLoop index).Framed := by
  have kept : Keeps draft ((draft.push (.goto (draft.loopStart index))).mint.amend index
      (.withFinish draft.nextLabel)) :=
    (draft.keeps_push _).trans (keeps_amend fun statement _ => statement.alike_withFinish _)
  exact (framed.keeps kept rfl).leave

theorem divide {index : Nat} {others : List Frame}
    (inside : draft.frames = .si index none :: others) :
    (draft.divide index).Framed := by
  have member : Frame.si index none ∈ draft.frames := inside ▸ List.mem_cons_self
  have changed : Keeps (draft.push (.goto "")).mint
      ((draft.push (.goto "")).mint.amend index (.withOtherwise draft.nextLabel)) :=
    keeps_amend fun statement _ => statement.alike_withOtherwise _
  have kept :
      Keeps draft ((draft.push (.goto "")).mint.amend index (.withOtherwise draft.nextLabel)) :=
    (draft.keeps_push (.goto "")).trans changed
  obtain ⟨statement, found, opens⟩ := framed.opening _ member
  obtain ⟨later, there, blocks, -⟩ := kept _ _ found
  obtain ⟨jumped, last, -, jumps⟩ := changed _ _ (draft.getElem?_push_size (.goto ""))
  obtain ⟨label, rfl⟩ := Statement.exists_goto jumps
  refine (framed.keeps kept rfl).leave.enter there (blocks.trans opens) ?_ ?_
  · rintro jump ⟨⟩
    exact ⟨label, last⟩
  · intro outer isOpen
    have isOuter : outer ∈ draft.frames.tail := isOpen
    have nested := framed.ordered
    rw [inside] at isOuter nested
    exact (List.pairwise_cons.mp nested).1 outer isOuter

theorem closeSi {index : Nat} {jump : Option Nat} {others : List Frame}
    (inside : draft.frames = .si index jump :: others) :
    (draft.closeSi index jump).Framed := by
  have member : Frame.si index jump ∈ draft.frames := inside ▸ List.mem_cons_self
  have closed (joined : Draft) (framed : joined.Framed) :
      (joined.amend index (.withFinish draft.nextLabel)).leave.Framed :=
    (framed.keeps (keeps_amend fun statement _ => statement.alike_withFinish _) rfl).leave
  cases jump with
  | none => exact closed draft.mint (framed.keeps draft.keeps_refl rfl)
  | some jump =>
    obtain ⟨label, found⟩ := framed.jumps _ member jump rfl
    refine closed _ (framed.keeps (keeps_amend fun statement here => ?_) rfl)
    obtain rfl : statement = .goto label := Option.some.inj (here.symm.trans found)
    exact ⟨rfl, rfl⟩

end Framed

/-! ## Whole lists of items -/

theorem Framed.addItem {draft : Draft} (framed : draft.Framed) (item : Item) :
    (draft.addItem item).Framed := by
  have change := draft.change_addItem item
  generalize draft.addItem item = new at change ⊢
  cases change with
  | label name => exact framed.keeps draft.keeps_refl rfl
  | statement statement => exact framed.keeps (draft.keeps_push statement) rfl
  | opening header => exact framed.openBlock header
  | divide inside => exact framed.divide inside
  | closeSi inside => exact framed.closeSi inside
  | closeTantque inside => exact framed.closeLoop _
  | closePour inside => exact framed.closeLoop _
  | reject item token => exact framed.keeps draft.keeps_refl rfl
  | void => exact framed

theorem Framed.add {draft : Draft} (framed : draft.Framed) (entry : Item × List Finding) :
    (draft.add entry).Framed := by
  have reported (errors : Array Diagnostic) : Framed { draft with errors := errors } :=
    framed.keeps draft.keeps_refl rfl
  exact (reported _).addItem entry.1

theorem framed_foldl {draft : Draft} (framed : draft.Framed) (items : List (Item × List Finding)) :
    (items.foldl Draft.add draft).Framed := by
  induction items generalizing draft with
  | nil => exact framed
  | cons entry items more => exact more (framed.add entry)

theorem framed_ofItems (items : List (Item × List Finding)) : (Draft.ofItems items).Framed :=
  framed_foldl ⟨by simp, by simp, .nil⟩ items

end Draft

end RobotScript
