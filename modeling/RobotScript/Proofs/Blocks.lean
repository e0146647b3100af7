import RobotScript.Proofs.Grammar.Item
import RobotScript.Proofs.Layout

/-!
# Open blocks

Which blocks are open between two items of a script, said of the items alone. A `Joint` is a word
that divides or closes a block. It fits the blocks that are open if the innermost one is of its
kind, and a `sinon` fits a `si` that has none yet.

* `outline_addItem`: the frames of a draft follow the open blocks.
* `addItem_stray`: a joint that does not fit is reported, and nothing else changes.
* `addItem_fitting`: any other item is laid out without a report, in the same way whatever was
  reported before.
-/

namespace RobotScript

/-- An open block: its kind, and whether it is a `si` that has been divided. -/
structure OpenBlock where
  block : Block
  divided : Bool
deriving DecidableEq

/-- A word that divides or closes a block. -/
inductive Joint where
  | divider
  | closer (block : Block)
deriving DecidableEq

namespace Joint

/-- The keyword of a joint. -/
def keyword : Joint → Keyword
  | divider => .sinon
  | closer block => Grammar.closer block

/-- The item that a joint is, with its token. -/
def item (token : Token) : Joint → Item
  | divider => .divider token
  | closer block => .closing block token

/-- The joint belongs to the innermost open block. -/
def Fits (blocks : List OpenBlock) : Joint → Prop
  | divider => blocks.head? = some ⟨.si, false⟩
  | closer block => blocks.head?.map OpenBlock.block = some block

instance (blocks : List OpenBlock) : (joint : Joint) → Decidable (joint.Fits blocks)
  | divider => inferInstanceAs (Decidable (_ = _))
  | closer _ => inferInstanceAs (Decidable (_ = _))

end Joint

/-- The kind of block that a header opens. -/
def Header.block : Header → Block
  | si _ => .si
  | tantque _ => .tantque
  | pour .. => .pour

namespace Item

/-- The joint that an item is, with its token. -/
def joint? : Item → Option (Joint × Token)
  | divider token => some (.divider, token)
  | closing block token => some (.closer block, token)
  | _ => none

/-- The blocks that are open after an item. -/
def openAfter (blocks : List OpenBlock) : Item → List OpenBlock
  | opening header => ⟨header.block, false⟩ :: blocks
  | divider _ => if Joint.divider.Fits blocks then ⟨.si, true⟩ :: blocks.tail else blocks
  | closing block _ => if (Joint.closer block).Fits blocks then blocks.tail else blocks
  | _ => blocks

/-- The blocks that are open after some items, the innermost first. -/
def openBlocks (items : List Item) : List OpenBlock :=
  items.foldl openAfter []

theorem eq_item_of_joint? {item : Item} {joint : Joint} {token : Token}
    (isJoint : item.joint? = some (joint, token)) :
    item = joint.item token := by
  cases item with
  | divider | closing =>
    cases isJoint
    rfl
  | label | statement | opening | void => cases isJoint

@[simp] theorem joint?_item (joint : Joint) (token : Token) :
    (joint.item token).joint? = some (joint, token) := by
  cases joint <;> rfl

end Item

/-- The open block of a frame. -/
def Frame.outline : Frame → OpenBlock
  | si _ jump => ⟨.si, jump.isSome⟩
  | tantque _ => ⟨.tantque, false⟩
  | pour _ => ⟨.pour, false⟩

theorem Frame.block_outline (frame : Frame) : frame.outline.block = frame.block := by
  cases frame <;> rfl

namespace Draft

/-- The open blocks of a draft. -/
def outline (draft : Draft) : List OpenBlock :=
  draft.frames.map Frame.outline

theorem fits_divider_iff {draft : Draft} :
    Joint.divider.Fits draft.outline ↔
      ∃ index others, draft.frames = .si index none :: others := by
  unfold Joint.Fits outline
  cases draft.frames with
  | nil => simp
  | cons frame others =>
    cases frame with
    | si index jump => cases jump <;> simp [Frame.outline]
    | tantque | pour => simp [Frame.outline]

theorem fits_closer_iff {draft : Draft} {block : Block} :
    (Joint.closer block).Fits draft.outline ↔ ∃ frame others, draft.frames = frame :: others ∧
      frame.block = block := by
  unfold Joint.Fits outline
  cases draft.frames with
  | nil => simp
  | cons frame others => simp [Frame.block_outline]

theorem addItem_divider {draft : Draft} {index : Nat} {others : List Frame}
    (inside : draft.frames = .si index none :: others) (token : Token) :
    draft.addItem (.divider token) = draft.divide index := by
  simp only [addItem, inside]

/-- Closes the block of a frame. -/
def close (draft : Draft) : Frame → Draft
  | .si index jump => draft.closeSi index jump
  | .tantque index => draft.closeLoop index
  | .pour index => draft.closeLoop index

theorem addItem_closing {draft : Draft} {frame : Frame} {others : List Frame}
    (inside : draft.frames = frame :: others) (token : Token) :
    draft.addItem (.closing frame.block token) = draft.close frame := by
  cases frame <;> simp only [addItem, Frame.block, inside, close]

theorem frames_close (draft : Draft) (frame : Frame) :
    (draft.close frame).frames = draft.frames.tail := by
  cases frame with
  | si index jump => cases jump <;> rfl
  | tantque | pour => rfl

/-- A joint that does not fit is reported, and nothing else changes. -/
theorem addItem_stray {draft : Draft} {joint : Joint} (stray : ¬ joint.Fits draft.outline)
    (token : Token) :
    draft.addItem (joint.item token) = draft.reject token := by
  cases joint with
  | divider =>
    simp only [Joint.item, addItem]
    split
    · next inside => exact absurd (fits_divider_iff.mpr ⟨_, _, inside⟩) stray
    · rfl
  | closer block =>
    simp only [Joint.item, addItem]
    split
    · next inside => exact absurd (fits_closer_iff.mpr ⟨_, _, inside, rfl⟩) stray
    · next inside => exact absurd (fits_closer_iff.mpr ⟨_, _, inside, rfl⟩) stray
    · next inside => exact absurd (fits_closer_iff.mpr ⟨_, _, inside, rfl⟩) stray
    · rfl

/-- The frames of a draft follow the open blocks. -/
theorem outline_addItem (draft : Draft) (item : Item) :
    (draft.addItem item).outline = item.openAfter draft.outline := by
  cases item with
  | label | statement | void => rfl
  | opening header => cases header <;> rfl
  | divider token =>
    by_cases fits : Joint.divider.Fits draft.outline
    · obtain ⟨index, others, inside⟩ := fits_divider_iff.mp fits
      rw [addItem_divider inside, Item.openAfter, if_pos fits, outline, outline, ← List.map_tail]
      rfl
    · show (draft.addItem (Joint.divider.item token)).outline = _
      rw [addItem_stray fits, Item.openAfter, if_neg fits]
      rfl
  | closing block token =>
    by_cases fits : (Joint.closer block).Fits draft.outline
    · obtain ⟨frame, others, inside, rfl⟩ := fits_closer_iff.mp fits
      rw [addItem_closing inside, Item.openAfter, if_pos fits, outline, frames_close, outline,
        List.map_tail]
    · show (draft.addItem ((Joint.closer block).item token)).outline = _
      rw [addItem_stray fits, Item.openAfter, if_neg fits]
      rfl

theorem outline_add (draft : Draft) (entry : Item × List Finding) :
    (draft.add entry).outline = entry.1.openAfter draft.outline :=
  outline_addItem _ entry.1

theorem outline_ofItems (items : List (Item × List Finding)) :
    (ofItems items).outline = Item.openBlocks (items.map Prod.fst) := by
  have follows : ∀ draft : Draft, (items.foldl add draft).outline =
      (items.map Prod.fst).foldl Item.openAfter draft.outline := by
    induction items with
    | nil => exact fun _ => rfl
    | cons entry items ih =>
      intro draft
      rw [List.foldl_cons, ih, outline_add, List.map_cons, List.foldl_cons]
  exact follows {}

/-- The diagnostics for the blocks that are still open. -/
theorem unclosed_eq (draft : Draft) :
    draft.unclosed = draft.outline.map fun pending =>
      ⟨.unclosedBlock, pending.block.keyword, true, none⟩ := by
  rw [unclosed, outline, List.map_map]
  exact List.map_congr_left fun frame _ => by rw [Function.comp, Frame.block_outline]

/-- The draft with other diagnostics. -/
def withErrors (draft : Draft) (errors : Array Diagnostic) : Draft :=
  { draft with errors := errors }

/-- The item is no joint, or one that fits the open blocks. -/
def Suits (blocks : List OpenBlock) (item : Item) : Prop :=
  ∀ joint token, item.joint? = some (joint, token) → joint.Fits blocks

theorem suits_item {blocks : List OpenBlock} {joint : Joint} (fits : joint.Fits blocks)
    (token : Token) :
    Suits blocks (joint.item token) := by
  intro other word same
  cases (Item.joint?_item joint token).symm.trans same
  exact fits

/-- An item that is no stray joint is laid out without a report, in the same way whatever was
reported before. -/
theorem addItem_fitting {draft : Draft} {item : Item} (suits : Suits draft.outline item)
    (errors : Array Diagnostic) :
    (draft.withErrors errors).addItem item = (draft.addItem item).withErrors errors := by
  cases item with
  | label | statement | void => rfl
  | opening header => cases header <;> rfl
  | divider token =>
    obtain ⟨index, others, inside⟩ := fits_divider_iff.mp (suits _ _ rfl)
    rw [addItem_divider inside,
      addItem_divider (show (draft.withErrors errors).frames = _ from inside)]
    rfl
  | closing block token =>
    obtain ⟨frame, others, inside, rfl⟩ := fits_closer_iff.mp (suits _ _ rfl)
    rw [addItem_closing inside,
      addItem_closing (show (draft.withErrors errors).frames = _ from inside)]
    cases frame with
    | si index jump => cases jump <;> rfl
    | tantque | pour => rfl

theorem errors_addItem_fitting {draft : Draft} {item : Item} (suits : Suits draft.outline item) :
    (draft.addItem item).errors = draft.errors := by
  show ((draft.withErrors draft.errors).addItem item).errors = draft.errors
  rw [addItem_fitting suits]
  rfl

end Draft

end RobotScript
