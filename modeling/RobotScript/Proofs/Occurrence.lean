import Mathlib.Data.List.Induction
import RobotScript.Proofs.Strays.Lines
import RobotScript.Proofs.Walk.Frames

/-!
# Where the statements of a script stand

A statement that opens a block, and a jump, can still be changed when a later item is laid out. All
others are plain. They are laid out once and for all, as `Draft.Retains` says.

`Occurs` is a place in a script, with the index that the next statement has there and the names that
were written before. So a plain statement of the text is found in the program (`Occurs.found`), and
those of the program are found in the text (`exists_occurs`).
-/

namespace RobotScript

namespace Statement

/-- The statement neither opens a block nor jumps. -/
def isPlain (statement : Statement) : Bool :=
  statement.opens?.isNone && !statement.isJump

/-- A change leaves the statement as it is, or makes something that is not plain of something that
is not. -/
def Spares (change : Statement → Statement) (statement : Statement) : Prop :=
  change statement = statement ∨ statement.isPlain = false ∧ (change statement).isPlain = false

theorem spares_withFinish (label : String) (statement : Statement) :
    Spares (withFinish label) statement := by
  cases statement with
  | si | tantque | pour => exact .inr ⟨rfl, rfl⟩
  | print | input | assign | goto | move | shoot | melee | reload => exact .inl rfl

theorem spares_withOtherwise (label : String) (statement : Statement) :
    Spares (withOtherwise label) statement := by
  cases statement with
  | si => exact .inr ⟨rfl, rfl⟩
  | tantque | pour | print | input | assign | goto | move | shoot | melee | reload => exact .inl rfl

end Statement

namespace Draft

/-! ## Plain statements stay -/

/-- Both drafts have as many statements, and the plain ones are the same. -/
structure SamePlain (old new : Draft) : Prop where
  size : new.size = old.size
  plain : ∀ {index : Nat} {statement : Statement}, statement.isPlain = true →
    (new.program.statements[index]? = some statement ↔
      old.program.statements[index]? = some statement)

variable {draft old middle new : Draft} {index : Nat} {statement : Statement} {item : Item}

namespace SamePlain

theorem refl (draft : Draft) : SamePlain draft draft :=
  ⟨rfl, fun _ => Iff.rfl⟩

theorem trans (first : SamePlain old middle) (second : SamePlain middle new) :
    SamePlain old new where
  size := second.size.trans first.size
  plain plain := (second.plain plain).trans (first.plain plain)

/-- Only the statements matter. -/
theorem congr (same : SamePlain old middle)
    (equal : new.program.statements = middle.program.statements) :
    SamePlain old new where
  size := (congrArg Array.size equal).trans same.size
  plain plain := by rw [equal, same.plain plain]

theorem amend {change : Statement → Statement}
    (spares : ∀ statement, draft.program.statements[index]? = some statement →
      statement.Spares change) :
    SamePlain draft (draft.amend index change) where
  size := size_amend ..
  plain {other given} plain := by
    rw [getElem?_amend]
    split
    · next same =>
      subst same
      cases found : draft.program.statements[index]? with
      | none => rfl
      | some statement =>
        rw [Option.map_some]
        rcases spares statement found with unchanged | ⟨before, after⟩
        · rw [unchanged]
        · have differs : ∀ {one : Statement}, one.isPlain = false →
              some one ≠ some given := by
            rintro _ special ⟨⟩
            cases special.symm.trans plain
          exact iff_of_false (differs after) (differs before)
    · rfl

end SamePlain

theorem getElem?_push_iff {added : Statement} :
    (draft.push added).program.statements[index]? = some statement ↔
      draft.program.statements[index]? = some statement ∨ index = draft.size ∧
        statement = added := by
  constructor
  · intro found
    rcases Nat.lt_or_ge index draft.size with inside | outside
    · rw [(draft.grows_push added).kept inside] at found
      exact .inl found
    · exact .inr (eq_of_push outside found)
  · rintro (found | ⟨rfl, rfl⟩)
    · exact (draft.grows_push added).statement found
    · exact draft.getElem?_push_size statement

/-- An item leaves the plain statements as they are, or one statement is added, which is plain only
if it is the item. -/
theorem Framed.samePlain_addItem (framed : draft.Framed) (item : Item) :
    SamePlain draft (draft.addItem item) ∨
      ∃ statement, SamePlain (draft.push statement) (draft.addItem item) ∧
        (statement.isPlain = true → item = .statement statement) := by
  have finished (joined : Draft) (index : Nat) :
      SamePlain joined (joined.amend index (.withFinish draft.nextLabel)) :=
    .amend fun statement _ => statement.spares_withFinish _
  have divided (index : Nat) : SamePlain (draft.push (.goto ""))
      ((draft.push (.goto "")).amend index (.withOtherwise draft.nextLabel)) :=
    .amend fun statement _ => statement.spares_withOtherwise _
  have change := draft.change_addItem item
  generalize draft.addItem item = new at change ⊢
  cases change with
  | label | reject | void => exact .inl ((SamePlain.refl draft).congr rfl)
  | statement statement => exact .inr ⟨statement, .refl _, fun _ => rfl⟩
  | opening header =>
    cases header <;> exact .inr ⟨_, (SamePlain.refl _).congr rfl, fun plain => by cases plain⟩
  | divide => exact .inr ⟨_, (divided _).congr rfl, fun plain => by cases plain⟩
  | @closeSi index jump _ _ inside =>
    cases jump with
    | none => exact .inl ((finished draft index).congr rfl)
    | some jump =>
      -- What is filled in is a jump, and was one before.
      obtain ⟨label, found⟩ := framed.jumps _ (inside ▸ List.mem_cons_self) jump rfl
      have jumped : SamePlain draft (draft.amend jump fun _ => .goto draft.nextLabel) := by
        refine .amend fun statement here => ?_
        obtain rfl : statement = .goto label := Option.some.inj (here.symm.trans found)
        exact .inr ⟨rfl, rfl⟩
      exact .inl ((jumped.trans (finished _ index)).congr rfl)
  | closeTantque | closePour =>
    exact .inr ⟨_, (finished _ _).congr rfl, fun plain => by cases plain⟩

/-- The plain statements after an item are those before it, and the item itself. -/
theorem Framed.addItem_iff (framed : draft.Framed) (item : Item)
    (plain : statement.isPlain = true) :
    (draft.addItem item).program.statements[index]? = some statement ↔
      draft.program.statements[index]? = some statement ∨ index = draft.size ∧
        item = .statement statement := by
  constructor
  · intro found
    rcases framed.samePlain_addItem item with same | ⟨added, same, known⟩
    · exact .inl ((same.plain plain).mp found)
    · rcases getElem?_push_iff.mp ((same.plain plain).mp found) with found | ⟨last, rfl⟩
      · exact .inl found
      · exact .inr ⟨last, known plain⟩
  · rintro (found | ⟨rfl, rfl⟩)
    · rcases framed.samePlain_addItem item with same | ⟨added, same, -⟩
      · exact (same.plain plain).mpr found
      · exact (same.plain plain).mpr (getElem?_push_iff.mpr (.inl found))
    · exact draft.getElem?_push_size statement

/-- Reading on leaves the plain statements where they are. -/
theorem Framed.readOn_plain (framed : draft.Framed) (plain : statement.isPlain = true)
    (found : draft.program.statements[index]? = some statement) (assigned : List String)
    (cursor : Cursor) :
    (draft.readOn assigned cursor).program.statements[index]? = some statement := by
  unfold readOn
  generalize Item.readFrom assigned cursor = items
  induction items generalizing draft with
  | nil => exact found
  | cons entry items ih =>
    have reported (errors : Array Diagnostic) : Framed { draft with errors := errors } :=
      framed.keeps draft.keeps_refl rfl
    exact ih (framed.add entry) (((reported _).addItem_iff entry.1 plain).mpr (.inl found))

theorem framed_row (items : List Item) : (items.foldl addItem {}).Framed := by
  refine List.foldlRecOn items addItem ⟨by simp, by simp, .nil⟩ fun draft framed item _ =>
    framed.addItem item

/-- The plain statements of a row of items are those items, each at the index that comes next when
it is laid out. -/
theorem getElem?_row_iff (plain : statement.isPlain = true) {items : List Item} :
    (items.foldl addItem {}).program.statements[index]? = some statement ↔
      ∃ before after, items = before ++ .statement statement :: after ∧
        index = (before.foldl addItem {}).size := by
  induction items using List.reverseRecOn with
  | nil => simp
  | append_singleton items item ih =>
    rw [List.foldl_append, List.foldl_cons, List.foldl_nil,
      (framed_row items).addItem_iff item plain, ih]
    -- The statement is the last item, or one of those before it.
    constructor
    · rintro (⟨before, after, rfl, place⟩ | ⟨place, rfl⟩)
      · exact ⟨before, after ++ [item], by simp, place⟩
      · exact ⟨items, [], rfl, place⟩
    · rintro ⟨before, after, same, place⟩
      rcases List.eq_nil_or_concat after with rfl | ⟨after, last, rfl⟩
      · obtain ⟨rfl, last⟩ := List.append_inj' same rfl
        exact .inr ⟨place, List.head_eq_of_cons_eq last⟩
      · rw [List.concat_eq_append, ← List.cons_append, ← List.append_assoc] at same
        exact .inl ⟨before, after, (List.append_inj' same rfl).1, place⟩

end Draft

/-! ## Places in a script -/

namespace Grammar

open Draft

/-- `Occurs source index assigned tokens`: the tokens are what is left of the script after some
items. The next statement gets the index, and `assigned` are the names that were written so far. -/
def Occurs (source : String) (index : Nat) (assigned : List String) (tokens : List Token) : Prop :=
  ∃ items, Lists [] (Token.tokenize (source ++ "\n\n")) items assigned tokens ∧
    index = (items.foldl addItem {}).size

variable {source : String} {index : Nat} {assigned written : List String} {tokens rest : List Token}
  {statement : Statement}

theorem Occurs.lineBreaks (occurs : Occurs source index assigned tokens)
    (breaks : Lists assigned tokens [] written rest) :
    Occurs source index written rest := by
  obtain ⟨items, lists, place⟩ := occurs
  exact ⟨items, (List.append_nil items) ▸ lists.append breaks, place⟩

/-- After a statement comes the place of the next one. -/
theorem Occurs.next (occurs : Occurs source index assigned tokens)
    (stands : Stands assigned tokens (.statement statement) rest) :
    Occurs source (index + 1) (Item.assigned (.statement statement) ++ assigned) rest := by
  obtain ⟨items, lists, rfl⟩ := occurs
  refine ⟨items ++ [.statement statement], lists.append (.item stands .nil), ?_⟩
  rw [List.foldl_append, List.foldl_cons, List.foldl_nil, addItem, push_eq_append, size_append]
  rfl

/-- A plain statement that stands at a place is the one of the program. -/
theorem Occurs.found (occurs : Occurs source index assigned tokens)
    (stands : Stands assigned tokens (.statement statement) rest)
    (plain : statement.isPlain = true) :
    (Parse.ofSource source).program.statements[index]? = some statement := by
  obtain ⟨items, lists, rfl⟩ := occurs
  obtain ⟨mark, scanned⟩ := Token.exists_scanned (source ++ "\n\n")
  rw [Parse.ofSource_eq, Parse.ofItems_itemsOf scanned, readOn_of_lists scanned.isEnd lists,
    readOn_of_stands scanned.isEnd stands]
  refine ((framed_row items).addItem _).readOn_plain plain ?_ _ _
  exact ((framed_row items).addItem_iff _ plain).mpr (.inr ⟨rfl, rfl⟩)

/-- A plain statement of the program stands at a place of the script. -/
theorem exists_occurs (clean : (Parse.ofSource source).errors = [])
    (plain : statement.isPlain = true)
    (found : (Parse.ofSource source).program.statements[index]? = some statement) :
    ∃ assigned tokens rest, Occurs source index assigned tokens ∧
      Stands assigned tokens (.statement statement) rest := by
  have only : ∀ error ∈ (Parse.ofSource source).errors, Parse.LoneStray source error := by
    simp [clean]
  obtain ⟨items, itemized⟩ := Parse.exists_itemized only
  rw [Parse.ofSource_of_itemized itemized, getElem?_row_iff plain] at found
  obtain ⟨before, after, rfl, place⟩ := found
  obtain ⟨written, last, lists, -⟩ := itemized
  obtain ⟨assigned, tokens, rest, earlier, stands, -⟩ := lists.split
  exact ⟨assigned, tokens, rest, ⟨before, earlier, place⟩, stands⟩

end Grammar

end RobotScript
