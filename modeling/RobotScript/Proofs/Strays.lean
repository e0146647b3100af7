import RobotScript.Proofs.Diagnostics
import RobotScript.Proofs.Grammar.Lists

/-!
# Strays

A joint that does not fit the open blocks is a stray. Of items in a row only the strays and the
blocks that stay open are reported.

* `Draft.errors_foldl`: laying out a row reports its strays.
* `Draft.bare_stray`: apart from that a stray leaves no trace in the draft.
* `Draft.lists_of_jointReports`: if nothing is reported but joints at the start of their lines, the
  script is a row of items.
* `Parse.ofSource_of_itemized`: what a script comes to that is a row of items.
-/

namespace RobotScript

/-! ## Strays in a row of items -/

namespace Item

/-- The token of an item that is a joint and does not fit the open blocks. -/
def stray? (blocks : List OpenBlock) (item : Item) : Option Token :=
  match item.joint? with
  | some (joint, token) => if joint.Fits blocks then none else some token
  | none => none

/-- The tokens of the joints in a row of items that do not fit the blocks that are open there. -/
def strays (blocks : List OpenBlock) : List Item → List Token
  | [] => []
  | item :: items => (item.stray? blocks).toList ++ strays (item.openAfter blocks) items

theorem stray?_eq_none_iff {blocks : List OpenBlock} {item : Item} :
    item.stray? blocks = none ↔ Draft.Suits blocks item := by
  unfold stray? Draft.Suits
  split
  · next joint token isJoint =>
    simp [isJoint]
  · next noJoint => simp [noJoint]

theorem stray?_eq_some {blocks : List OpenBlock} {item : Item} {token : Token}
    (isStray : item.stray? blocks = some token) :
    ∃ joint : Joint, item = joint.item token ∧ ¬ joint.Fits blocks := by
  unfold stray? at isStray
  split at isStray
  · next joint _ isJoint =>
    split at isStray
    · cases isStray
    · next misfit =>
      cases isStray
      exact ⟨joint, eq_item_of_joint? isJoint, misfit⟩
  · cases isStray

theorem stray?_item {blocks : List OpenBlock} {joint : Joint} (misfit : ¬ joint.Fits blocks)
    (token : Token) :
    (joint.item token).stray? blocks = some token := by
  rw [stray?, joint?_item]
  exact if_neg misfit

theorem openAfter_stray {blocks : List OpenBlock} {joint : Joint} (misfit : ¬ joint.Fits blocks)
    (token : Token) :
    (joint.item token).openAfter blocks = blocks := by
  cases joint <;> exact if_neg misfit

theorem strays_append (blocks : List OpenBlock) (items more : List Item) :
    strays blocks (items ++ more) =
      strays blocks items ++ strays (items.foldl openAfter blocks) more := by
  induction items generalizing blocks with
  | nil => rfl
  | cons item items ih =>
    rw [List.cons_append, strays, ih, strays, List.append_assoc, List.foldl_cons]

/-- The last stray of a row. -/
theorem exists_last_stray {blocks : List OpenBlock} {items : List Item}
    (some : strays blocks items ≠ []) :
    ∃ earlier joint token later, items = earlier ++ Joint.item token joint :: later ∧
      ¬ joint.Fits (earlier.foldl openAfter blocks) ∧
      strays (earlier.foldl openAfter blocks) later = [] := by
  induction items generalizing blocks with
  | nil => exact absurd rfl some
  | cons item items ih =>
    by_cases more : strays (item.openAfter blocks) items = []
    · rw [strays, more, List.append_nil] at some
      cases isStray : item.stray? blocks with
      | none =>
        rw [isStray] at some
        exact absurd rfl some
      | some token =>
        obtain ⟨joint, rfl, misfit⟩ := stray?_eq_some isStray
        rw [openAfter_stray misfit] at more
        exact ⟨[], joint, token, items, rfl, misfit, more⟩
    · obtain ⟨earlier, joint, token, later, rfl, misfit, last⟩ := ih more
      exact ⟨item :: earlier, joint, token, later, rfl, misfit, last⟩

variable (put : Token → Place)

theorem openAfter_move (blocks : List OpenBlock) (item : Item) :
    (item.move put).openAfter blocks = item.openAfter blocks := by
  cases item <;> rfl

theorem stray?_move (blocks : List OpenBlock) (item : Item) :
    (item.move put).stray? blocks = (item.stray? blocks).map (Token.move put) := by
  cases item with
  | divider token =>
    show (if Joint.divider.Fits blocks then none else _) =
      Option.map _ (if Joint.divider.Fits blocks then none else _)
    split <;> rfl
  | closing block token =>
    show (if (Joint.closer block).Fits blocks then none else _) =
      Option.map _ (if (Joint.closer block).Fits blocks then none else _)
    split <;> rfl
  | label | statement | opening | void => rfl

theorem strays_move (blocks : List OpenBlock) (items : List Item) :
    strays blocks (items.map (move put)) = (strays blocks items).map (Token.move put) := by
  induction items generalizing blocks with
  | nil => rfl
  | cons item items ih =>
    rw [List.map_cons, strays, strays, ih, openAfter_move, stray?_move, List.map_append]
    cases item.stray? blocks <;> rfl

theorem foldl_openAfter_move (blocks : List OpenBlock) (items : List Item) :
    (items.map (move put)).foldl openAfter blocks = items.foldl openAfter blocks := by
  induction items generalizing blocks with
  | nil => rfl
  | cons item items ih => rw [List.map_cons, List.foldl_cons, List.foldl_cons, openAfter_move, ih]

section

variable {earlier later : List Item} {joint : Joint} {token : Token}

theorem strays_stray (misfit : ¬ joint.Fits (openBlocks earlier)) :
    strays [] (earlier ++ joint.item token :: later) =
      strays [] earlier ++ token :: strays (openBlocks earlier) later := by
  unfold openBlocks at misfit ⊢
  rw [strays_append, strays, stray?_item misfit, openAfter_stray misfit]
  rfl

theorem openBlocks_stray (misfit : ¬ joint.Fits (openBlocks earlier)) :
    openBlocks (earlier ++ joint.item token :: later) = openBlocks (earlier ++ later) := by
  unfold openBlocks at misfit ⊢
  rw [List.foldl_append, List.foldl_append, List.foldl_cons, openAfter_stray misfit]

theorem openBlocks_move :
    openBlocks (earlier ++ later.map (move put)) = openBlocks (earlier ++ later) := by
  rw [openBlocks, List.foldl_append, foldl_openAfter_move, ← List.foldl_append]
  rfl

end

end Item

namespace Grammar

variable {assigned written : List String} {tokens rest : List Token} {items : List Item}

theorem Stands.stray_sublist {item : Item} (stands : Stands assigned tokens item rest)
    (blocks : List OpenBlock) :
    ∃ used, tokens = used ++ rest ∧ (item.stray? blocks).toList.Sublist used := by
  cases isStray : item.stray? blocks with
  | none =>
    obtain ⟨used, same, -⟩ := stands.moves Token.place
    exact ⟨used, same, List.nil_sublist _⟩
  | some token =>
    obtain ⟨joint, rfl, -⟩ := Item.stray?_eq_some isStray
    exact ⟨[token], stands.eq_cons_of_joint, List.Sublist.refl _⟩

/-- The strays of items in a row are some of their tokens. -/
theorem Lists.strays_sublist (lists : Lists assigned tokens items written rest)
    (blocks : List OpenBlock) :
    ∃ used, tokens = used ++ rest ∧ (Item.strays blocks items).Sublist used := by
  induction lists generalizing blocks with
  | nil => exact ⟨[], rfl, .slnil⟩
  | @lineBreak _ _ token _ _ _ _ _ ih =>
    obtain ⟨used, rfl, sublist⟩ := ih blocks
    exact ⟨token :: used, rfl, sublist.cons token⟩
  | @item _ _ _ _ _ item _ stands _ ih =>
    obtain ⟨used, rfl, sublist⟩ := ih (item.openAfter blocks)
    obtain ⟨front, rfl, first⟩ := stands.stray_sublist blocks
    exact ⟨front ++ used, (List.append_assoc ..).symm, first.append sublist⟩

end Grammar

/-! ## Drafts up to their diagnostics -/

namespace Draft

/-- The report of a stray. -/
def strayReport (token : Token) : Diagnostic :=
  .ofToken .unexpectedInstruction token true

/-- The draft without its diagnostics. -/
def bare (draft : Draft) : Draft :=
  draft.withErrors #[]

theorem program_eq_of_bare_eq {one other : Draft} (same : one.bare = other.bare) :
    one.program = other.program := by
  show one.bare.program = other.bare.program
  rw [same]

theorem errors_addItem (draft : Draft) (item : Item) :
    (draft.addItem item).errors.toList =
      draft.errors.toList ++ (item.stray? draft.outline).toList.map strayReport := by
  cases isStray : item.stray? draft.outline with
  | none =>
    rw [errors_addItem_fitting (Item.stray?_eq_none_iff.mp isStray), Option.toList, List.map_nil,
      List.append_nil]
  | some token =>
    obtain ⟨joint, rfl, misfit⟩ := Item.stray?_eq_some isStray
    rw [addItem_stray misfit]
    exact Array.toList_push

/-- Laying out a row of items reports its strays. -/
theorem errors_foldl (items : List Item) (draft : Draft) :
    (items.foldl addItem draft).errors.toList =
      draft.errors.toList ++ (Item.strays draft.outline items).map strayReport := by
  induction items generalizing draft with
  | nil => exact (List.append_nil _).symm
  | cons item items ih =>
    rw [List.foldl_cons, ih, errors_addItem, outline_addItem, Item.strays, List.map_append,
      List.append_assoc]

theorem outline_foldl (items : List Item) (draft : Draft) :
    (items.foldl addItem draft).outline = items.foldl Item.openAfter draft.outline := by
  induction items generalizing draft with
  | nil => rfl
  | cons item items ih => rw [List.foldl_cons, ih, outline_addItem, List.foldl_cons]

/-- A stray changes nothing but the diagnostics. -/
theorem bare_addItem_stray {draft : Draft} {joint : Joint} (misfit : ¬ joint.Fits draft.outline)
    (token : Token) :
    (draft.addItem (joint.item token)).bare = draft.bare := by
  rw [addItem_stray misfit]
  rfl

/-- What was reported before makes no difference. -/
theorem bare_addItem (draft : Draft) (item : Item) :
    (draft.bare.addItem item).bare = (draft.addItem item).bare := by
  cases isStray : item.stray? draft.outline with
  | none =>
    show ((draft.withErrors #[]).addItem item).bare = _
    rw [addItem_fitting (Item.stray?_eq_none_iff.mp isStray)]
    rfl
  | some token =>
    obtain ⟨joint, rfl, misfit⟩ := Item.stray?_eq_some isStray
    rw [bare_addItem_stray misfit,
      bare_addItem_stray (show ¬ joint.Fits draft.bare.outline from misfit)]
    rfl

theorem bare_addItem_move (draft : Draft) (item : Item) (put : Token → Place) :
    (draft.addItem (item.move put)).bare = (draft.addItem item).bare := by
  cases item with
  | label | statement | opening | void => rfl
  | divider token =>
    simp only [Item.move, addItem]
    split <;> rfl
  | closing block token =>
    simp only [Item.move, addItem]
    split <;> rfl

/-- Drafts that differ in their diagnostics only are laid out further in the same way. -/
theorem bare_foldl {one other : Draft} (same : one.bare = other.bare) (items : List Item) :
    (items.foldl addItem one).bare = (items.foldl addItem other).bare := by
  induction items generalizing one other with
  | nil => exact same
  | cons item items ih =>
    apply ih
    rw [← bare_addItem one, same, bare_addItem]

/-- Where the tokens of the items stand makes no difference. -/
theorem bare_foldl_move (items : List Item) (put : Token → Place) (draft : Draft) :
    ((items.map (Item.move put)).foldl addItem draft).bare = (items.foldl addItem draft).bare := by
  induction items generalizing draft with
  | nil => rfl
  | cons item items ih =>
    rw [List.map_cons, List.foldl_cons, ih]
    exact bare_foldl (bare_addItem_move draft item put) items

variable {earlier later : List Item} {joint : Joint} {token : Token}

/-- A stray in a row comes to nothing but a report. -/
theorem bare_stray (misfit : ¬ joint.Fits (Item.openBlocks earlier)) :
    ((earlier ++ joint.item token :: later).foldl addItem {}).bare =
      ((earlier ++ later).foldl addItem {}).bare := by
  rw [List.foldl_append, List.foldl_append, List.foldl_cons]
  apply bare_foldl
  refine bare_addItem_stray ?_ token
  rw [outline_foldl]
  exact misfit

theorem bare_move (put : Token → Place) :
    ((earlier ++ later.map (Item.move put)).foldl addItem {}).bare =
      ((earlier ++ later).foldl addItem {}).bare := by
  rw [List.foldl_append, List.foldl_append, bare_foldl_move]

end Draft

/-! ## Scripts with no other errors -/

/-- A joint that is the first token of its line is reported there as unexpected. -/
def JointReport (all : List Token) (cause : Cause) (place : Option Place) : Prop :=
  cause = .unexpectedInstruction ∧
    ∃ (before after : List Token) (token : Token) (joint : Joint),
    all = before ++ token :: after ∧ (∀ last ∈ before.getLast?, last.kind = .lineBreak) ∧
      token.kind = .word ∧ token.text = joint.keyword.name ∧ place = some token.place

/-- If only joints are reported, nothing is noted when an item is read. -/
theorem Reader.Outcome.clean {all before tokens : List Token} {token mark : Token}
    {reading : Reading Item} (outcome : Outcome token ⟨tokens, mark⟩ reading)
    (scanned : Token.Scanned all mark) (whole : all = before ++ token :: tokens)
    (only : ∀ finding ∈ reading.findings, JointReport all finding.cause finding.place?) :
    reading.findings = [] := by
  cases outcome with
  | joint => rfl
  | plain noJoint tracks =>
    refine List.eq_nil_iff_forall_not_mem.mpr fun finding member => ?_
    exact tracks.expected finding member (only finding member).1
  | unexpected noJoint =>
    obtain ⟨-, front, back, word, joint, parts, -, isWord, named, here⟩ :=
      only _ List.mem_cons_self
    have same : token = word := by
      refine Token.eq_of_place_eq scanned.increasing ?_ ?_ (Option.some.inj here)
      · simp [whole]
      · simp [parts]
    exact absurd named (same ▸ noJoint (same ▸ isWord) joint)
  | attack isAttack named =>
    obtain ⟨-, front, back, word, joint, parts, starts, isWord, -, here⟩ :=
      only _ List.mem_cons_self
    have inside : word ∈ all := by simp [parts]
    cases tokens with
    | nil =>
      have same : mark = word :=
        Token.eq_of_place_eq scanned.increasing scanned.mem inside (Option.some.inj here)
      cases scanned.isEnd.symm.trans (same ▸ isWord)
    | cons next tokens =>
      have same : next = word :=
        Token.eq_of_place_eq scanned.increasing (by simp [whole]) inside (Option.some.inj here)
      -- the word for the attack would be the last token of the line before
      subst same
      have increasing := scanned.increasing
      rw [parts] at increasing
      have again : front ++ next :: back = (before ++ [token]) ++ next :: tokens := by
        rw [← parts, whole, List.append_assoc, List.singleton_append]
      rw [(Token.parts_unique increasing again).1] at starts
      cases isAttack.symm.trans (starts token (by simp))

namespace Draft

open Grammar

theorem mem_errors_add {draft : Draft} {entry : Item × List Finding} {finding : Finding}
    (member : finding ∈ entry.2) :
    finding.diagnose (draft.frames.head?.map Frame.block) ∈ (draft.add entry).errors.toList := by
  rw [add, errors_addItem]
  refine List.mem_append_left _ ?_
  rw [Array.toList_appendList]
  exact List.mem_append_right _ (List.mem_map_of_mem member)

/-- If only joints are reported, the tokens are items in a row. -/
theorem lists_of_jointReports {all before tokens : List Token} {mark : Token}
    (scanned : Token.Scanned all mark) (whole : all = before ++ tokens) (draft : Draft)
    (assigned : List String)
    (only : ∀ error ∈ (draft.readOn assigned ⟨tokens, mark⟩).errors.toList,
      JointReport all error.cause error.place) :
    ∃ items written rest, Lists assigned tokens items written rest ∧ Over rest := by
  match tokens with
  | [] => exact ⟨[], assigned, [], .nil, by simp [Over]⟩
  | token :: tokens =>
    by_cases atEnd : token.kind = .endOfFile
    · exact ⟨[], assigned, _, .nil, by simp [Over, atEnd]⟩
    by_cases isBreak : token.kind = .lineBreak
    · rw [readOn_lineBreak isBreak] at only
      have parts : all = before ++ [token] ++ tokens := by simp [whole]
      obtain ⟨items, written, rest, lists, ended⟩ :=
        lists_of_jointReports scanned parts draft assigned only
      exact ⟨items, written, rest, .lineBreak isBreak lists, ended⟩
    rw [readOn_item atEnd isBreak] at only
    have later : Cursor.SignsKnown ⟨tokens, mark⟩ := by
      intro other member
      refine scanned.known other ?_
      rw [whole]
      exact List.mem_append_right _ (List.mem_cons_of_mem _ member)
    have outcome := Reader.comesTo_item assigned token later
    have taken := @Reader.takes_of_clean _ (Reader.item assigned token) ⟨tokens, mark⟩
    generalize (Reader.item assigned token ⟨tokens, mark⟩).val = reading at only outcome taken
    obtain ⟨value, findings, ahead, _⟩ := reading
    obtain ⟨rfl, suffix⟩ := outcome.rest
    have clean : findings = [] := by
      refine outcome.clean scanned whole fun finding member => ?_
      obtain ⟨reported, _, same, -⟩ :=
        marks_readOn (fun other member => later other (suffix.mem member))
        (draft.add (value, findings)) (value.assigned ++ assigned)
      have report := only _ (same ▸ List.mem_append_left _ (mem_errors_add member))
      rwa [Finding.cause_diagnose, Finding.place_diagnose] at report
    obtain ⟨rest, same, stands⟩ := stands_of_item scanned.isEnd (taken clean)
    cases same
    have shorter : ahead.length ≤ tokens.length := suffix.length_le
    obtain ⟨used, parts, -⟩ := stands.moves Token.place
    have partsLater : all = before ++ used ++ ahead := by rw [whole, parts, List.append_assoc]
    obtain ⟨items, written, rest, lists, ended⟩ :=
      lists_of_jointReports scanned partsLater _ _ only
    exact ⟨value :: items, written, rest, .item stands lists, ended⟩
termination_by tokens.length

end Draft

/-! ## Scripts that are rows of items -/

namespace Parse

open Grammar Draft

/-- The script is the items in a row. -/
def Itemized (source : String) (items : List Item) : Prop :=
  ∃ written rest, Lists [] (Token.tokenize (source ++ "\n\n")) items written rest ∧ Over rest

/-- A script that is a row of items is laid out item by item. Its strays and the blocks that stay
open are reported. -/
theorem ofSource_of_itemized {source : String} {items : List Item}
    (itemized : Itemized source items) :
    Parse.ofSource source =
      ⟨(items.foldl addItem {}).program, (Item.strays [] items).map strayReport ++
      (Item.openBlocks items).map fun pending =>
        ⟨.unclosedBlock, pending.block.keyword, true, none⟩⟩ := by
  obtain ⟨written, rest, lists, ended⟩ := itemized
  obtain ⟨mark, scanned⟩ := Token.exists_scanned (source ++ "\n\n")
  have drafted : Draft.ofItems (itemsOf source) = items.foldl addItem {} := by
    rw [ofItems_itemsOf scanned, readOn_of_lists scanned.isEnd lists, readOn_over ended]
  rw [ofSource_eq, drafted, errors_foldl, unclosed_eq, outline_foldl]
  rfl

end Parse

end RobotScript
