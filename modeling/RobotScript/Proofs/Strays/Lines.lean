import RobotScript.Proofs.Strays

/-!
# Lines with strays

A stray that stands alone in its line is inert.

* `Itemized.without`: without the line of a joint, the script is the items in a row without it.
  `Itemized.withoutStrays` takes out the lines of all strays, the last one first.
* `StrayLine.itemized`: with the line of a joint between two items, the script is the items in a row
  with it.

`Parse.stray_joints_inert` says both of what the script comes to.
-/

namespace RobotScript.Parse

open Grammar Draft

variable {before line after : String} {token : Token} {earlier later : List Item} {joint : Joint}

/-! ## Deleting the lines of strays -/

/-- Without the line of a joint, the script is the items in a row without the joint. -/
theorem Itemized.without
    (itemized : Itemized (before ++ line ++ after) (earlier ++ joint.item token :: later))
    (alone : Token.Alone before line after token) :
    ∃ put, Itemized (Token.Alone.rest before after) (earlier ++ later.map (Item.move put)) := by
  obtain ⟨written, rest, lists, ended⟩ := itemized
  obtain ⟨inner, middle, next, first, stands, last⟩ := lists.split
  obtain rfl := stands.eq_cons_of_joint
  rw [assigned_joint, List.nil_append] at last
  obtain ⟨used, parts, -⟩ := first.moves Token.place
  have distinct := Token.nodup_tokenize (before ++ line ++ after ++ "\n\n")
  have increasing := Token.increasing_tokenize (before ++ line ++ after ++ "\n\n")
  rw [parts] at increasing distinct first
  obtain ⟨rfl, rfl⟩ := Token.parts_unique increasing (parts.symm.trans alone.tokenize_eq)
  have distinctLast := (List.nodup_cons.mp (List.nodup_append.mp distinct).2.1).2
  obtain ⟨put, rest, moved, endedMoved⟩ := last.of_contents ended distinctLast alone.contents_eq
  refine ⟨put, written, rest, ?_, endedMoved⟩
  rw [alone.tokenize_rest]
  exact (first.change_rest (moved.noSign endedMoved)).append moved

/-- Strays before a stray are earlier tokens. -/
theorem place_lt_of_stray {source : String}
    (itemized : Itemized source (earlier ++ joint.item token :: later)) :
    ∀ other ∈ Item.strays [] earlier, other.place < token.place := by
  obtain ⟨written, rest, lists, ended⟩ := itemized
  obtain ⟨inner, middle, next, first, stands, -⟩ := lists.split
  obtain rfl := stands.eq_cons_of_joint
  obtain ⟨used, parts, sublist⟩ := first.strays_sublist []
  have increasing := Token.increasing_tokenize (source ++ "\n\n")
  rw [parts] at increasing
  intro other member
  exact (List.pairwise_append.mp increasing).2.2 other (sublist.subset member) token
    List.mem_cons_self

/-- Without the lines of its strays, if they stand alone there, a script is a row of items without
strays that is laid out in the same way. The last line goes first, since that leaves the places of
the others as they are. -/
theorem Itemized.withoutStrays {source : String} {items : List Item}
    (itemized : Itemized source items)
    (alone : ∀ token ∈ Item.strays [] items, Token.StandsAlone source token) :
    ∃ others,
      Itemized (Text.withoutLines ((Item.strays [] items).map (·.place.line)) source) others ∧
      Item.strays [] others = [] ∧ Item.openBlocks others = Item.openBlocks items ∧
      (others.foldl addItem {}).bare = (items.foldl addItem {}).bare := by
  generalize count : (Item.strays [] items).length = strays
  induction strays generalizing source items with
  | zero =>
    have none := List.length_eq_zero_iff.mp count
    refine ⟨items, ?_, none, rfl, rfl⟩
    rw [none, List.map_nil, Text.withoutLines, Text.withoutLinesFrom_later (by simp),
      String.ofList_toList]
    exact itemized
  | succ strays ih =>
    have some : Item.strays [] items ≠ [] := by
      intro none
      rw [none] at count
      cases count
    obtain ⟨earlier, joint, token, later, rfl, misfit, noMore⟩ := Item.exists_last_stray some
    have last : Item.strays [] (earlier ++ joint.item token :: later) =
        Item.strays [] earlier ++ [token] := by
      rw [Item.strays_stray misfit]
      exact congrArg (fun more => Item.strays [] earlier ++ token :: more) noMore
    rw [last] at alone count ⊢
    obtain ⟨before, line, after, rfl, here⟩ := alone token (by simp)
    obtain ⟨put, without⟩ := itemized.without here
    have kept : ∀ other ∈ Item.strays [] earlier, other.place.line < token.place.line ∧
        Token.StandsAlone (Token.Alone.rest before after) other := fun other member =>
      here.keeps (alone other (List.mem_append_left _ member))
        (place_lt_of_stray itemized other member)
    have same : Item.strays [] (earlier ++ later.map (Item.move put)) = Item.strays [] earlier := by
      rw [Item.strays_append, Item.strays_move, noMore]
      exact List.append_nil _
    obtain ⟨others, row, none, blocks, bare⟩ :=
      ih without (by rw [same]; exact fun other member => (kept other member).2)
      (by rw [same]; simpa using count)
    rw [Item.openBlocks_move] at blocks
    rw [bare_move] at bare
    refine ⟨others, ?_, none, blocks.trans (Item.openBlocks_stray misfit).symm,
      bare.trans (bare_stray misfit).symm⟩
    rw [List.map_append, List.map_singleton, here.withoutLines_eq]
    · rwa [same] at row
    · intro line member
      obtain ⟨other, inside, rfl⟩ := List.mem_map.mp member
      exact (kept other inside).1

/-- The diagnostic reports a joint as unexpected that stands alone in its line. -/
def LoneStray (source : String) (error : Diagnostic) : Prop :=
  error.cause = .unexpectedInstruction ∧ ∃ (token : Token) (joint : Joint),
    error.place = some token.place ∧
    token.text = joint.keyword.name ∧ Token.StandsAlone source token

theorem mem_tokenize_of_standsAlone {source : String} (stands : Token.StandsAlone source token) :
    token ∈ Token.tokenize (source ++ "\n\n") := by
  obtain ⟨before, line, after, rfl, alone⟩ := stands
  rw [alone.tokenize_eq]
  exact List.mem_append_right _ List.mem_cons_self

theorem jointReport_of_loneStray {source : String} {error : Diagnostic}
    (lone : LoneStray source error) :
    JointReport (Token.tokenize (source ++ "\n\n")) error.cause error.place := by
  obtain ⟨isUnexpected, token, joint, here, named, before, line, after, rfl, alone⟩ := lone
  refine ⟨isUnexpected, _, _, token, joint, alone.tokenize_eq, ?_, alone.scan_eq.1, named, here⟩
  exact Token.lineBreak_of_column alone.starts alone.outside

/-- A script with no other errors is a row of items. -/
theorem exists_itemized {source : String}
    (only : ∀ error ∈ (Parse.ofSource source).errors, LoneStray source error) :
    ∃ items, Itemized source items := by
  obtain ⟨mark, scanned⟩ := Token.exists_scanned (source ++ "\n\n")
  rw [ofSource_eq, ofItems_itemsOf scanned] at only
  obtain ⟨items, written, rest, lists, ended⟩ :=
    lists_of_jointReports scanned (List.nil_append _).symm {} []
    fun error member => jointReport_of_loneStray (only error (List.mem_append_left _ member))
  exact ⟨items, written, rest, lists, ended⟩

/-- A script with no other errors has no open blocks, and its strays stand alone. -/
theorem Itemized.alone_of_reports {source : String} {items : List Item}
    (itemized : Itemized source items)
    (only : ∀ error ∈ (Parse.ofSource source).errors, LoneStray source error) :
    Item.openBlocks items = [] ∧ ∀ token ∈ Item.strays [] items,
      Token.StandsAlone source token := by
  rw [ofSource_of_itemized itemized] at only
  constructor
  · refine List.eq_nil_iff_forall_not_mem.mpr fun pending member => ?_
    cases (only _ (List.mem_append_right _ (List.mem_map_of_mem member))).1
  · intro token member
    obtain ⟨-, other, joint, here, -, stands⟩ :=
      only _ (List.mem_append_left _ (List.mem_map_of_mem member))
    have inside : token ∈ Token.tokenize (source ++ "\n\n") := by
      obtain ⟨written, rest, lists, -⟩ := itemized
      obtain ⟨used, same, sublist⟩ := lists.strays_sublist []
      rw [same]
      exact List.mem_append_left _ (sublist.subset member)
    have same :=
      Token.eq_of_place_eq (Token.increasing_tokenize _) inside (mem_tokenize_of_standsAlone stands)
      (Option.some.inj here)
    exact same ▸ stands

/-- Without the lines of the strays, a script with no other errors has none, and its program is the
same. -/
theorem ofSource_withoutLines {source : String}
    (only : ∀ error ∈ (Parse.ofSource source).errors, LoneStray source error) :
    Parse.ofSource (Text.withoutLines ((Parse.ofSource source).errors.filterMap fun error =>
      error.place.map Place.line) source) =
      ⟨(Parse.ofSource source).program, []⟩ := by
  obtain ⟨items, itemized⟩ := exists_itemized only
  obtain ⟨closed, alone⟩ := itemized.alone_of_reports only
  obtain ⟨others, row, none, blocks, bare⟩ := itemized.withoutStrays alone
  have lines : (Parse.ofSource source).errors.filterMap (fun error => error.place.map Place.line) =
      (Item.strays [] items).map (·.place.line) := by
    rw [ofSource_of_itemized itemized, closed, List.map_nil, List.append_nil, List.filterMap_map]
    show List.filterMap (some ∘ fun token : Token => token.place.line) _ = _
    rw [List.filterMap_eq_map]
  have program : (others.foldl addItem {}).program = (items.foldl addItem {}).program :=
    program_eq_of_bare_eq bare
  rw [lines, ofSource_of_itemized row, ofSource_of_itemized itemized, none, blocks, closed, program]
  rfl

/-! ## Inserting the line of a stray -/

/-- A line with a joint that is written between two items of a script, where it does not fit.

The script is in two parts, and the first holds the earlier items. The line comes between `before`
and `after`, which are the two parts, with a line break added where no line ends or starts. -/
structure StrayLine where
  first : String
  second : String
  earlier : List Item
  parted : Token.Parted first second
  reads : ∃ written, Lists [] (Token.tokenize (first ++ second ++ "\n\n")) earlier written
    (Token.scan .between (.behind first.toList) (second ++ "\n\n").toList)
  before : String
  before_eq : before = first ∨ before = first ++ "\n"
  starts : (Place.behind before.toList).column = 1
  after : String
  after_eq : after = second ∨ after = "\n" ++ second
  ends : after.toList.headD '\n' = '\n'
  joint : Joint
  misfit : ¬ joint.Fits (Item.openBlocks earlier)
  line : String
  lone : Token.LoneWord line joint.keyword.name

namespace StrayLine

/-- The script without the line. -/
def source (stray : StrayLine) : String :=
  stray.first ++ stray.second

/-- The script with the line. -/
def result (stray : StrayLine) : String :=
  stray.before ++ stray.line ++ stray.after

/-- What comes after the first part still comes after the line, up to line breaks. -/
theorem contents_eq (stray : StrayLine) (before : List Char) :
    Token.contents
      (Token.scan .between (.behind stray.first.toList) (stray.second ++ "\n\n").toList) =
      Token.contents (Token.scan .between (.behind before) (stray.after ++ "\n\n").toList) := by
  rcases stray.after_eq with same | same
  · rw [same]
    exact Token.contents_scan_eq _ _ _
  · have written :
        ("\n" ++ (stray.second ++ "\n\n")).toList = '\n' :: (stray.second ++ "\n\n").toList :=
      String.toList_append
    rw [same, String.append_assoc, written]
    exact (Token.contents_scan_lineBreak _ _ _).symm

/-- With the line, the script is the items in a row with the joint between them. -/
theorem itemized (stray : StrayLine) {inner written : List String} {later : List Item}
    {rest : List Token}
    (first : Lists [] (Token.tokenize (stray.first ++ stray.second ++ "\n\n")) stray.earlier inner
      (Token.scan .between (.behind stray.first.toList) (stray.second ++ "\n\n").toList))
    (last : Lists inner (Token.scan .between (.behind stray.first.toList)
      (stray.second ++ "\n\n").toList) later written rest)
    (ended : Over rest) :
    ∃ token put, token.text = stray.joint.keyword.name ∧
      Token.Alone stray.before stray.line stray.after token ∧
      Itemized stray.result
        (stray.earlier ++ stray.joint.item token :: later.map (Item.move put)) := by
  obtain ⟨outside, breaks, areBreaks, tokens⟩ :=
    stray.parted.starts_line stray.before_eq stray.starts
  obtain ⟨token, named, alone⟩ := stray.lone.exists_alone stray.starts stray.ends outside
  obtain ⟨chars, endsLine⟩ := Token.exists_lineBreak stray.ends
  rw [stray.parted.tokenize_eq] at first
  have distinct :
      (Token.scan .between (.behind stray.first.toList) (stray.second ++ "\n\n").toList).Nodup := by
    have whole := Token.nodup_tokenize (stray.first ++ stray.second ++ "\n\n")
    rw [stray.parted.tokenize_eq] at whole
    exact (List.nodup_append.mp whole).2.1
  obtain ⟨put, rest, moved, endedMoved⟩ :=
    last.of_contents ended distinct (stray.contents_eq (stray.before ++ stray.line).toList)
  have noEquals : NoEquals
      (Token.scan .between (.behind (stray.before ++ stray.line).toList)
        (stray.after ++ "\n\n").toList) := by
    rw [endsLine, Token.scan_lineBreak]
    intro other next
    cases next
    exact TokenKind.noConfusion
  have inserted := Lists.joint alone.scan_eq.1 named noEquals moved
  refine ⟨token, put, named, alone, written, rest, ?_, endedMoved⟩
  rw [result, alone.tokenize_eq, tokens, List.append_assoc]
  have row := (lists_lineBreaks_iff areBreaks endedMoved).mpr inserted
  exact (first.change_rest (row.noSign endedMoved)).append row

/-- Without the line, the script is the items in a row, if it has no errors. -/
theorem exists_later (stray : StrayLine) (clean : (Parse.ofSource stray.source).errors = [])
    {inner : List String}
    (first : Lists [] (Token.tokenize (stray.first ++ stray.second ++ "\n\n")) stray.earlier inner
      (Token.scan .between (.behind stray.first.toList) (stray.second ++ "\n\n").toList)) :
    ∃ later written rest,
      Lists inner (Token.scan .between (.behind stray.first.toList) (stray.second ++ "\n\n").toList)
        later written rest ∧ Over rest := by
  obtain ⟨mark, scanned⟩ := Token.exists_scanned (stray.source ++ "\n\n")
  rw [ofSource_eq, ofItems_itemsOf scanned] at clean
  have noErrors := (List.append_eq_nil_iff.mp clean).1
  rw [source, readOn_of_lists scanned.isEnd first] at noErrors
  refine lists_of_jointReports scanned stray.parted.tokenize_eq
    (stray.earlier.foldl addItem {}) inner ?_
  rw [noErrors]
  exact fun error member => absurd member List.not_mem_nil

/-- With the line, a script without errors has one, for the joint, and its program is the same. -/
theorem ofSource_result (stray : StrayLine) (clean : (Parse.ofSource stray.source).errors = []) :
    ∃ token, token.text = stray.joint.keyword.name ∧
      Token.Alone stray.before stray.line stray.after token ∧
      Parse.ofSource stray.result = ⟨(Parse.ofSource stray.source).program,
        [.ofToken .unexpectedInstruction token true]⟩ := by
  obtain ⟨inner, first⟩ := stray.reads
  obtain ⟨later, written, rest, row, ended⟩ := stray.exists_later clean first
  have itemizedBefore : Itemized stray.source (stray.earlier ++ later) :=
    ⟨written, rest, first.append row, ended⟩
  obtain ⟨token, put, named, alone, itemizedAfter⟩ := stray.itemized first row ended
  refine ⟨token, named, alone, ?_⟩
  rw [ofSource_of_itemized itemizedBefore] at clean ⊢
  obtain ⟨noStrays, closed⟩ := List.append_eq_nil_iff.mp clean
  rw [List.map_eq_nil_iff, Item.strays_append] at noStrays
  obtain ⟨noneEarlier, noneLater⟩ := List.append_eq_nil_iff.mp noStrays
  have strays : Item.strays []
      (stray.earlier ++ stray.joint.item token :: later.map (Item.move put)) = [token] := by
    rw [Item.strays_stray stray.misfit, noneEarlier, Item.strays_move]
    exact congrArg (fun more => [] ++ token :: List.map _ more) noneLater
  rw [ofSource_of_itemized itemizedAfter, strays, Item.openBlocks_stray stray.misfit,
    Item.openBlocks_move, closed,
    program_eq_of_bare_eq ((bare_stray stray.misfit).trans (bare_move put))]
  rfl

end StrayLine

/-- A joint that fits no open block is inert.

* If nothing is wrong with a script but joints that stand alone in their lines, then without these
  lines nothing is wrong with it, and its program is the same.
* If nothing is wrong with a script and a joint that does not fit is written in a line of its own
  between two items, then the joint is reported and nothing else, and the program is the same. -/
theorem stray_joints_inert :
    (∀ source, (∀ error ∈ (Parse.ofSource source).errors, LoneStray source error) →
      Parse.ofSource (Text.withoutLines ((Parse.ofSource source).errors.filterMap fun error =>
        error.place.map Place.line) source) = ⟨(Parse.ofSource source).program, []⟩) ∧
    ∀ stray : StrayLine, (Parse.ofSource stray.source).errors = [] →
      ∃ token, token.text = stray.joint.keyword.name ∧
        Token.Alone stray.before stray.line stray.after token ∧
        Parse.ofSource stray.result =
          ⟨(Parse.ofSource stray.source).program,
            [.ofToken .unexpectedInstruction token true]⟩ := by
  constructor
  · intro source only
    exact ofSource_withoutLines only
  · intro stray clean
    exact stray.ofSource_result clean

/-- A `finsi` in a loop, with a remark in its line. -/
def strayFinsi : StrayLine where
  first := "tantque x"
  second := "\nfintantque"
  earlier := [.opening (.tantque (.var "x"))]
  parted := by decide +kernel
  reads := by
    have tokens : Token.completed "tantque x" =
        [⟨"tantque", .word, ⟨1, 1⟩⟩, ⟨"x", .word, ⟨1, 9⟩⟩] := by decide +kernel
    refine ⟨[], ?_⟩
    rw [Token.Parted.tokenize_eq (by decide +kernel), tokens]
    refine .item (.opening (.tantque (.here rfl rfl ?_)
      (.expression (.var rfl rfl (by decide) (by decide)) (.noMore ?_)))) .nil
    · intro token next
      cases next
      exact TokenKind.noConfusion
    · intro token next
      cases next
      rfl
  before := "tantque x\n"
  before_eq := .inr rfl
  starts := by decide
  after := "\nfintantque"
  after_eq := .inl rfl
  ends := by decide
  joint := .closer .si
  misfit := by decide
  line := "  finsi # no"
  lone := by decide +kernel

/-- The `finsi` is reported, and without its line nothing is. -/
theorem stray_joints_inert_loop :
    Parse.ofSource (Text.withoutLines [2] "tantque x\n  finsi # no\nfintantque") =
      ⟨(Parse.ofSource "tantque x\n  finsi # no\nfintantque").program, []⟩ ∧
    ∃ token : Token, token.text = "finsi" ∧
      Token.Alone "tantque x\n" "  finsi # no" "\nfintantque" token ∧
      Parse.ofSource "tantque x\n  finsi # no\nfintantque" =
        ⟨(Parse.ofSource "tantque x\nfintantque").program,
          [.ofToken .unexpectedInstruction token true]⟩ := by
  obtain ⟨deleted, inserted⟩ := stray_joints_inert
  constructor
  · have errors : (Parse.ofSource "tantque x\n  finsi # no\nfintantque").errors =
        [⟨.unexpectedInstruction, "finsi", true, some ⟨2, 3⟩⟩] := by decide +kernel
    have without := deleted "tantque x\n  finsi # no\nfintantque" (by
      rw [errors]
      refine List.forall_mem_singleton.mpr ⟨rfl, ⟨"finsi", .word, ⟨2, 3⟩⟩, .closer .si,
        rfl, rfl, ?_⟩
      refine ⟨"tantque x\n", "  finsi # no", "\nfintantque", by decide, ?_⟩
      exact ⟨by decide, by decide, by decide +kernel, by decide +kernel, by decide +kernel⟩)
    rw [errors] at without
    exact without
  · exact inserted strayFinsi (by decide +kernel)

end RobotScript.Parse
