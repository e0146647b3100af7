import RobotScript.Proofs.Findings
import RobotScript.Proofs.Token.Segments
import RobotScript.Proofs.Wiring

/-!
# The order of diagnostics

What is wrong with a script is reported in the order of the script.

1. `Marks.ordered`: what is noted on a way through tokens that stand one after the other is noted in
   that order.
2. `marks_add`: laying out one item reports what was noted on the way past it. The word of a stray
   joint is the first one of its item, and nothing is noted with it.
3. `marks_readOn`: laying out all items reports what is noted on one way through the tokens.

`Parse.errors_in_order` puts these together. After what is noted in the script comes one diagnostic
for each open block.
-/

namespace RobotScript

/-! ## Places in order -/

namespace Place

/-- A place is not behind another: it is in an earlier line, or in the same line and not in a later
column. -/
instance : LE Place :=
  ⟨fun one other => one.line < other.line ∨ one.line = other.line ∧
    one.column ≤ other.column⟩

theorem le_refl (place : Place) : place ≤ place :=
  .inr ⟨rfl, Nat.le_refl _⟩

theorem le_of_lt {one other : Place} (less : one < other) : one ≤ other :=
  less.imp_right fun ⟨same, before⟩ => ⟨same, Nat.le_of_lt before⟩

end Place

/-- What is noted on the way through tokens that stand one after the other is noted in that order,
at their places. -/
theorem Marks.ordered {beyond : Token} {tokens rest : List Token} {noted : List (Option Place)}
    (marks : Marks beyond tokens noted rest)
    (sorted : (tokens ++ [beyond]).Pairwise (·.place ≤ ·.place)) :
    ∃ places : List Place, noted = places.map some ∧ places.Pairwise (· ≤ ·) ∧
      ∀ place ∈ places, ∃ token ∈ tokens ++ [beyond], token.place = place := by
  induction marks with
  | stop => exact ⟨[], rfl, .nil, by simp⟩
  | @note tokens rest noted later ih =>
    obtain ⟨places, rfl, ordered, found⟩ := ih sorted
    have next : ∃ others, tokens ++ [beyond] = tokens.headD beyond :: others := by
      cases tokens with
      | nil => exact ⟨[], rfl⟩
      | cons token tokens => exact ⟨tokens ++ [beyond], rfl⟩
    obtain ⟨others, same⟩ := next
    rw [same] at sorted found ⊢
    have least : ∀ token ∈ tokens.headD beyond :: others,
        (tokens.headD beyond).place ≤ token.place :=
      List.forall_mem_cons.mpr ⟨Place.le_refl _, (List.pairwise_cons.mp sorted).1⟩
    refine ⟨(tokens.headD beyond).place :: places, rfl,
      List.pairwise_cons.mpr ⟨?_, ordered⟩, ?_⟩
    · intro place member
      obtain ⟨token, there, rfl⟩ := found place member
      exact least token there
    · exact List.forall_mem_cons.mpr ⟨⟨_, List.mem_cons_self, rfl⟩, found⟩
  | @pass token tokens rest noted later ih =>
    obtain ⟨places, same, ordered, found⟩ := ih (List.pairwise_cons.mp sorted).2
    refine ⟨places, same, ordered, ?_⟩
    intro place member
    obtain ⟨other, there, rfl⟩ := found place member
    exact ⟨other, List.mem_cons_of_mem _ there, rfl⟩

/-! ## Reports -/

namespace Draft

/-- What is wrong with an item that is no stray joint is reported, and nothing else. -/
theorem errors_add {draft : Draft} {entry : Item × List Finding}
    (suits : Suits draft.outline entry.1) :
    (draft.add entry).errors.toList =
      draft.errors.toList ++
      entry.2.map (Finding.diagnose (draft.frames.head?.map Frame.block)) := by
  rw [add, errors_addItem_fitting (by exact suits)]
  exact Array.toList_appendList

/-- What is wrong with an item that is no joint is reported where it was noted. -/
theorem marks_noJoint {beyond : Token} {tokens rest : List Token} {item : Item}
    {findings : List Finding} (draft : Draft) (noJoint : item.joint? = none)
    (marks : Marks beyond tokens (findings.map Finding.place?) rest) :
    ∃ reported, (draft.add (item, findings)).errors.toList = draft.errors.toList ++ reported ∧
      Marks beyond tokens (reported.map Diagnostic.place) rest := by
  have suits : Suits draft.outline item := by
    intro joint token same
    cases noJoint.symm.trans same
  refine ⟨_, errors_add suits, ?_⟩
  simpa [Function.comp_def] using marks

/-- Laying out an item reports what was noted on the way past it. -/
theorem marks_add {token : Token} {cursor : Cursor} {reading : Reading Item}
    (outcome : Reader.Outcome token cursor reading) (draft : Draft) :
    ∃ reported, (draft.add (reading.value, reading.findings)).errors.toList =
      draft.errors.toList ++ reported ∧
      Marks cursor.beyond (token :: cursor.ahead) (reported.map Diagnostic.place)
        reading.rest.ahead := by
  have skipped : Marks cursor.beyond cursor.ahead [] (Cursor.afterLine cursor.ahead) :=
    .of_suffix (Reader.afterLine_suffix cursor.ahead)
  cases outcome with
  | joint joint =>
    dsimp only
    rw [add_clean]
    by_cases fits : joint.Fits draft.outline
    · rw [errors_addItem_fitting (suits_item fits token)]
      exact ⟨[], (List.append_nil _).symm, .pass .stop⟩
    · rw [addItem_stray fits]
      exact ⟨[.ofToken .unexpectedInstruction token true], Array.toList_push,
        .note (.pass .stop)⟩
  | plain noJoint tracks => exact draft.marks_noJoint noJoint tracks.marks.pass
  | unexpected => exact draft.marks_noJoint rfl (.note (.pass skipped))
  | attack => exact draft.marks_noJoint rfl (.pass (.note skipped))

/-- Laying out the items at a cursor reports what is noted on one way through the tokens. -/
theorem marks_readOn {tokens : List Token} {beyond : Token}
    (known : Cursor.SignsKnown ⟨tokens, beyond⟩) (draft : Draft) (assigned : List String) :
    ∃ reported rest, (draft.readOn assigned ⟨tokens, beyond⟩).errors.toList =
      draft.errors.toList ++ reported ∧
      Marks beyond tokens (reported.map Diagnostic.place) rest := by
  match tokens with
  | [] =>
    rw [readOn_nil]
    exact ⟨[], [], (List.append_nil _).symm, .stop⟩
  | token :: tokens =>
    have later : Cursor.SignsKnown ⟨tokens, beyond⟩ :=
      fun other member => known other (List.mem_cons_of_mem _ member)
    by_cases isEnd : token.kind = .endOfFile
    · rw [readOn_end isEnd]
      exact ⟨[], _, (List.append_nil _).symm, .stop⟩
    by_cases isBreak : token.kind = .lineBreak
    · rw [readOn_lineBreak isBreak]
      obtain ⟨reported, rest, same, marks⟩ := marks_readOn later draft assigned
      exact ⟨reported, rest, same, .pass marks⟩
    rw [readOn_item isEnd isBreak]
    have outcome := Reader.comesTo_item assigned token later
    generalize (Reader.item assigned token ⟨tokens, beyond⟩).val = reading at outcome ⊢
    obtain ⟨value, findings, ahead, _⟩ := reading
    obtain ⟨rfl, suffix⟩ := outcome.rest
    have shorter : ahead.length ≤ tokens.length := suffix.length_le
    obtain ⟨here, reported, marks⟩ := marks_add outcome draft
    obtain ⟨others, rest, reportedLater, marksLater⟩ :=
      marks_readOn (fun other member => later other (suffix.mem member))
        (draft.add (value, findings)) (value.assigned ++ assigned)
    refine ⟨here ++ others, rest, ?_, ?_⟩
    · rw [reportedLater, reported, List.append_assoc]
    · rw [List.map_append]
      exact marks.trans marksLater
termination_by tokens.length

end Draft

/-! ## Scripts -/

namespace Token

/-- The signs of a script are those of operators. -/
theorem signsKnown_tokenize (source : String) (beyond : Token) :
    Cursor.SignsKnown ⟨tokenize source, beyond⟩ := by
  intro token member isSign
  have kind := of_decide_eq_true isSign
  have real : token.kind ≠ .endOfFile := by
    rcases kind with isOperator | isEquals
    · simp [isOperator]
    · simp [isEquals]
  obtain ⟨place, after, fits⟩ := fits_of_mem_tokenize member real
  cases fits with
  | @sign c kind _ _ known =>
    unfold TokenKind.ofChar? at known
    split at known <;> cases known <;> first | exact ⟨_, rfl⟩ | simp at kind
  | word | label | number | text => simp at kind

/-- The tokens of a script, with the end mark that comes last. -/
structure Scanned (all : List Token) (mark : Token) : Prop where
  ends : ∃ lexemes, all = lexemes ++ [mark]
  isEnd : mark.kind = .endOfFile
  increasing : all.Pairwise (·.place < ·.place)
  known : Cursor.SignsKnown ⟨all, mark⟩

theorem exists_scanned (source : String) : ∃ mark, Scanned (tokenize source) mark := by
  obtain ⟨lexemes, mark, same, isEnd, -⟩ := tokenize_eq source
  exact ⟨mark, ⟨lexemes, same⟩, isEnd, increasing_tokenize source,
    signsKnown_tokenize source mark⟩

theorem Scanned.mem {all : List Token} {mark : Token} (scanned : Scanned all mark) :
    mark ∈ all := by
  obtain ⟨lexemes, rfl⟩ := scanned.ends
  exact List.mem_append_right _ (List.mem_singleton.mpr rfl)

/-- The tokens also stand one after the other with the end mark once more behind them. -/
theorem Scanned.ordered {all : List Token} {mark : Token} (scanned : Scanned all mark) :
    (all ++ [mark]).Pairwise (·.place ≤ ·.place) := by
  refine List.pairwise_append.mpr ⟨scanned.increasing.imp Place.le_of_lt,
    List.pairwise_singleton _ _, ?_⟩
  intro token member last isLast
  rw [List.mem_singleton.mp isLast]
  obtain ⟨lexemes, rfl⟩ := scanned.ends
  rcases List.mem_append.mp member with inside | atEnd
  · exact Place.le_of_lt ((List.pairwise_append.mp scanned.increasing).2.2 token inside mark
      (List.mem_singleton.mpr rfl))
  · rw [List.mem_singleton.mp atEnd]
    exact Place.le_refl _

end Token

namespace Parse

theorem ofItems_itemsOf {source : String} {mark : Token}
    (scanned : Token.Scanned (Token.tokenize (source ++ "\n\n")) mark) :
    Draft.ofItems (itemsOf source) =
      ({} : Draft).readOn [] ⟨Token.tokenize (source ++ "\n\n"), mark⟩ := by
  obtain ⟨lexemes, same⟩ := scanned.ends
  rw [itemsOf, Item.readAll, same, Cursor.ofTokens_snoc scanned.isEnd]
  rfl

theorem ofSource_eq (source : String) :
    Parse.ofSource source = ⟨(Draft.ofItems (itemsOf source)).program,
      (Draft.ofItems (itemsOf source)).errors.toList ++
      (Draft.ofItems (itemsOf source)).unclosed⟩ :=
  rfl

/-- What is wrong with a script comes in this order. First comes what is noted in the script, each
at the place of a token, with the places never going back. Then comes one diagnostic without a place
for each block that is open at the end, the innermost first. -/
theorem errors_in_order (source : String) :
    ∃ (noted : List Diagnostic) (places : List Place),
      (Parse.ofSource source).errors =
        noted ++ (Item.openBlocks ((itemsOf source).map Prod.fst)).map
          (fun pending => ⟨.unclosedBlock, pending.block.keyword, true, none⟩) ∧
      noted.map Diagnostic.place = places.map some ∧ places.Pairwise (· ≤ ·) ∧
      ∀ place ∈ places, ∃ token ∈ Token.tokenize (source ++ "\n\n"),
        token.place = place := by
  obtain ⟨mark, scanned⟩ := Token.exists_scanned (source ++ "\n\n")
  obtain ⟨noted, rest, reported, marks⟩ := Draft.marks_readOn scanned.known {} []
  obtain ⟨places, placed, ordered, found⟩ := marks.ordered scanned.ordered
  refine ⟨noted, places, ?_, placed, ordered, ?_⟩
  · rw [ofSource_eq, Draft.unclosed_eq, Draft.outline_ofItems, ofItems_itemsOf scanned, reported]
    rfl
  · intro place member
    obtain ⟨token, there, rfl⟩ := found place member
    rcases List.mem_append.mp there with inside | last
    · exact ⟨token, inside, rfl⟩
    · rw [List.mem_singleton.mp last]
      exact ⟨mark, scanned.mem, rfl⟩

end Parse

end RobotScript
