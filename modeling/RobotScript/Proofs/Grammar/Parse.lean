import RobotScript.Proofs.Grammar.Item
import RobotScript.Proofs.Layout
import RobotScript.Proofs.Token

/-!
# Parsing by the grammar

A script is parsed without an error exactly when its tokens derive from the grammar, and its program
is then the layout of the derivation.

* `readOn_of_derives`: reading past a script that the grammar derives extends the draft by it.
* `derives_of_clean`: tokens that leave no error and no open block derive from the grammar, up to
  the end or to a word that belongs to a block around them. The induction is on the number of
  tokens, and the frames of the draft say which closing words can stand there.
-/

namespace RobotScript

/-! ## Reading on -/

/-- An end mark at the end of the tokens stands beyond them too. -/
theorem Cursor.ofTokens_snoc {lexemes : List Token} {mark : Token}
    (isEnd : mark.kind = .endOfFile) :
    Cursor.ofTokens (lexemes ++ [mark]) = ⟨lexemes ++ [mark], mark⟩ := by
  simp [Cursor.ofTokens, Option.filter, isEnd]

namespace Item

theorem readFrom_nil (assigned : List String) (beyond : Token) :
    readFrom assigned ⟨[], beyond⟩ = [] := by
  rw [readFrom]

theorem readFrom_cons (assigned : List String) (token : Token) (tokens : List Token)
    (beyond : Token) :
    readFrom assigned ⟨token :: tokens, beyond⟩ =
      match token.kind with
      | .endOfFile => []
      | .lineBreak => readFrom assigned ⟨tokens, beyond⟩
      | _ =>
        let reading := (Reader.item assigned token ⟨tokens, beyond⟩).val
        (reading.value, reading.findings) :: readFrom (reading.value.assigned ++ assigned)
            reading.rest := by
  rw [readFrom]
  split
  · next noTokens => cases noTokens
  · next first others same =>
    cases same
    rfl

end Item

namespace Draft

/-- The draft after the items at a cursor. -/
def readOn (draft : Draft) (assigned : List String) (cursor : Cursor) : Draft :=
  (Item.readFrom assigned cursor).foldl add draft

variable {draft : Draft} {assigned : List String} {token beyond : Token} {tokens rest : List Token}

theorem readOn_nil : draft.readOn assigned ⟨[], beyond⟩ = draft := by
  rw [readOn, Item.readFrom_nil]
  rfl

theorem readOn_end (isEnd : token.kind = .endOfFile) :
    draft.readOn assigned ⟨token :: tokens, beyond⟩ = draft := by
  rw [readOn, Item.readFrom_cons]
  simp only [isEnd]
  rfl

theorem readOn_lineBreak (isBreak : token.kind = .lineBreak) :
    draft.readOn assigned ⟨token :: tokens, beyond⟩ =
      draft.readOn assigned ⟨tokens, beyond⟩ := by
  rw [readOn, Item.readFrom_cons]
  simp only [isBreak]
  rfl

theorem readOn_item (real : token.kind ≠ .endOfFile) (noBreak : token.kind ≠ .lineBreak) :
    draft.readOn assigned ⟨token :: tokens, beyond⟩ =
      let reading := (Reader.item assigned token ⟨tokens, beyond⟩).val
      (draft.add (reading.value, reading.findings)).readOn (reading.value.assigned ++ assigned)
        reading.rest := by
  rw [readOn, Item.readFrom_cons]
  split
  · next isEnd => exact absurd isEnd real
  · next isBreak => exact absurd isBreak noBreak
  · rfl

theorem add_clean (draft : Draft) (item : Item) : draft.add (item, []) = draft.addItem item := by
  simp [add]

/-- An item of the grammar is laid out without a finding. -/
theorem readOn_of_stands {item : Item} (marked : beyond.kind = .endOfFile)
    (stands : Grammar.Stands assigned tokens item rest) (draft : Draft) :
    draft.readOn assigned ⟨tokens, beyond⟩ =
      (draft.addItem item).readOn (item.assigned ++ assigned) ⟨rest, beyond⟩ := by
  obtain ⟨token, after, rfl, shape, taken⟩ := Grammar.item_of_stands marked stands
  have real : token.kind ≠ .endOfFile := by
    rcases shape with isLabel | isWord
    · rw [isLabel]
      decide
    · rw [isWord]
      decide
  have noBreak : token.kind ≠ .lineBreak := by
    rcases shape with isLabel | isWord
    · rw [isLabel]
      decide
    · rw [isWord]
      decide
  rw [readOn_item real noBreak]
  dsimp only
  rw [taken, add_clean]

/-- The word that closes a block is laid out. -/
theorem readOn_closer {block : Block} (marked : beyond.kind = .endOfFile)
    (ends : Grammar.Starts (Grammar.closer block) tokens rest) :
    ∃ word, ∀ draft : Draft, draft.readOn assigned ⟨tokens, beyond⟩ =
      (draft.addItem (.closing block word)).readOn assigned ⟨rest, beyond⟩ := by
  cases ends with
  | @here word _ isWord named noTarget =>
    exact ⟨word, readOn_of_stands marked (.closing (.here isWord named noTarget))⟩

/-- The word that divides a `si` is laid out. -/
theorem readOn_sinon (marked : beyond.kind = .endOfFile)
    (divides : Grammar.Starts .sinon tokens rest) :
    ∃ word, ∀ draft : Draft, draft.readOn assigned ⟨tokens, beyond⟩ =
      (draft.addItem (.divider word)).readOn assigned ⟨rest, beyond⟩ := by
  cases divides with
  | @here word _ isWord named noTarget =>
    exact ⟨word, readOn_of_stands marked (.divider (.here isWord named noTarget))⟩

/-! ## From the grammar to the layout -/

theorem assigned_statement (item : Simple) :
    Item.assigned (.statement item.statement) = item.assigned := by
  cases item <;> rfl

theorem size_openBlock (draft : Draft) (header : Header) :
    (draft.openBlock header).size = draft.size + 1 := by
  cases header <;> simp [openBlock, push_eq_append, mint_eq_append]

theorem size_extend_openBlock (draft : Draft) (header : Header) (body : Script) :
    ((draft.openBlock header).extend body).size = draft.size + body.size + 1 := by
  rw [extend, size_append, size_openBlock, Script.length_statements]
  omega

/-- Reading past a script that the grammar derives extends the draft by it. -/
theorem readOn_of_derives {written : List String} {script : Script}
    (marked : beyond.kind = .endOfFile)
    (derives : Grammar.Derives assigned tokens script written rest) (draft : Draft) :
    draft.readOn assigned ⟨tokens, beyond⟩ =
      (draft.extend script).readOn written ⟨rest, beyond⟩ := by
  induction derives generalizing draft with
  | empty => rw [extend_empty]
  | lineBreak isBreak later ih => rw [readOn_lineBreak isBreak, ih]
  | label isLabel later ih =>
    rw [readOn_of_stands marked (.label isLabel), extend_label]
    exact ih _
  | simple forms later ih =>
    rw [readOn_of_stands marked (.simple forms), extend_simple, assigned_statement]
    exact ih _
  | si opens inside ends later ihInside ihLater =>
    obtain ⟨word, closes⟩ :=
      readOn_closer marked (show Grammar.Starts (Grammar.closer .si) _ _ from ends)
    rw [readOn_of_stands marked (.opening opens), extend_si, ← ihLater]
    exact (ihInside _).trans (closes _)
  | siSinon opens inside divides other ends later ihInside ihOther ihLater =>
    obtain ⟨_, divided⟩ := readOn_sinon marked divides
    obtain ⟨_, closes⟩ :=
      readOn_closer marked (show Grammar.Starts (Grammar.closer .si) _ _ from ends)
    rw [readOn_of_stands marked (.opening opens), extend_siSinon, ← ihLater,
      ← size_extend_openBlock]
    exact (ihInside _).trans ((divided _).trans ((ihOther _).trans (closes _)))
  | tantque opens inside ends later ihInside ihLater =>
    obtain ⟨word, closes⟩ :=
      readOn_closer marked (show Grammar.Starts (Grammar.closer .tantque) _ _ from ends)
    rw [readOn_of_stands marked (.opening opens), extend_tantque, ← ihLater]
    exact (ihInside _).trans (closes _)
  | pour opens inside ends later ihInside ihLater =>
    obtain ⟨word, closes⟩ :=
      readOn_closer marked (show Grammar.Starts (Grammar.closer .pour) _ _ from ends)
    rw [readOn_of_stands marked (.opening opens), extend_pour, ← ihLater]
    exact (ihInside _).trans (closes _)

/-! ## Drafts without an error -/

/-- The frame of a block that was opened at an index. -/
def openFrame (index : Nat) : Header → Frame
  | .si _ => .si index none
  | .tantque _ => .tantque index
  | .pour .. => .pour index

theorem frames_openBlock (draft : Draft) (header : Header) :
    (draft.openBlock header).frames = openFrame draft.size header :: draft.frames := by
  cases header <;> rfl

/-- A word that is rejected is an error. -/
theorem not_clean_reject : (draft.reject token).errors ≠ #[] := by
  simp [reject, report]

/-- Errors stay. -/
theorem clean_of_addItem {item : Item} (clean : (draft.addItem item).errors = #[]) :
    draft.errors = #[] := by
  have change := draft.change_addItem item
  generalize draft.addItem item = after at change clean
  cases change with
  | label | statement | divide | void => exact clean
  | opening header => cases header <;> exact clean
  | @closeSi _ jump => cases jump <;> exact clean
  | closeTantque | closePour => exact clean
  | reject => exact absurd clean not_clean_reject

theorem clean_of_add {entry : Item × List Finding} (clean : (draft.add entry).errors = #[]) :
    draft.errors = #[] ∧ entry.2 = [] := by
  have reported := clean_of_addItem clean
  rw [← Array.toList_eq_nil_iff, Array.toList_appendList, List.append_eq_nil_iff,
    List.map_eq_nil_iff] at reported
  exact ⟨Array.toList_eq_nil_iff.mp reported.1, reported.2⟩

theorem clean_of_readOn {cursor : Cursor} (clean : (draft.readOn assigned cursor).errors = #[]) :
    draft.errors = #[] := by
  unfold readOn at clean
  generalize Item.readFrom assigned cursor = items at clean
  induction items generalizing draft with
  | nil => exact clean
  | cons entry items ih => exact (clean_of_add (ih clean)).1

/-- Only a `si` that has not been divided can be divided. -/
theorem frames_of_divider (clean : (draft.addItem (.divider token)).errors = #[]) :
    ∃ index others, draft.frames = .si index none :: others := by
  have change := draft.change_addItem (.divider token)
  generalize draft.addItem (.divider token) = after at change clean
  cases change with
  | divide inside => exact ⟨_, _, inside⟩
  | reject => exact absurd clean not_clean_reject

/-- Only the innermost open block can be closed. -/
theorem frames_of_closing {block : Block}
    (clean : (draft.addItem (.closing block token)).errors = #[]) :
    ∃ frame others, draft.frames = frame :: others ∧ frame.block = block := by
  have change := draft.change_addItem (.closing block token)
  generalize draft.addItem (.closing block token) = after at change clean
  cases change with
  | closeSi inside => exact ⟨_, _, inside, rfl⟩
  | closeTantque inside => exact ⟨_, _, inside, rfl⟩
  | closePour inside => exact ⟨_, _, inside, rfl⟩
  | reject => exact absurd clean not_clean_reject

end Draft

/-! ## From the layout to the grammar -/

namespace Grammar

open Draft

/-- Where a script ends: at the end of the tokens, or at a word that belongs to a block around
it. -/
inductive Stops : List Token → Prop
  | nothing : Stops []
  | ended {token : Token} {rest : List Token} (isEnd : token.kind = .endOfFile) :
      Stops (token :: rest)
  | divided {tokens rest : List Token} (divides : Starts .sinon tokens rest) : Stops tokens
  | closed {tokens rest : List Token} {block : Block} (ends : Starts (closer block) tokens rest) :
      Stops tokens

/-- Where reading leaves no error, an item that is not blank stands there by the grammar. -/
theorem stands_of_clean {draft : Draft} {assigned : List String} {token beyond : Token}
    {tokens : List Token} (marked : beyond.kind = .endOfFile) (real : token.kind ≠ .endOfFile)
    (noBreak : token.kind ≠ .lineBreak)
    (clean : (draft.readOn assigned ⟨token :: tokens, beyond⟩).errors = #[]) :
    ∃ item rest, rest.length ≤ tokens.length ∧
      Stands assigned (token :: tokens) item rest := by
  rw [readOn_item real noBreak] at clean
  have taken := Reader.takes_of_clean (clean_of_add (clean_of_readOn clean)).2
  obtain ⟨rest, same, stands⟩ := stands_of_item marked taken
  have fits := taken.size_le
  rw [same] at fits
  exact ⟨_, rest, fits, stands⟩

/-- Inside a block no script ends but at the words that divide or close it. -/
theorem word_of_stops {draft : Draft} {assigned : List String} {beyond : Token}
    {tokens : List Token} {frame : Frame} {others : List Frame} (marked : beyond.kind = .endOfFile)
    (frames : draft.frames = frame :: others) (stops : Stops tokens)
    (clean : (draft.readOn assigned ⟨tokens, beyond⟩).errors = #[])
    (closed : (draft.readOn assigned ⟨tokens, beyond⟩).frames = []) :
    (∃ index word rest, frame = .si index none ∧ Starts .sinon tokens rest ∧
      draft.readOn assigned ⟨tokens, beyond⟩ =
        (draft.addItem (.divider word)).readOn assigned ⟨rest, beyond⟩) ∨
    (∃ word rest, Starts (closer frame.block) tokens rest ∧
      draft.readOn assigned ⟨tokens, beyond⟩ =
      (draft.addItem (.closing frame.block word)).readOn assigned ⟨rest, beyond⟩) := by
  cases stops with
  | nothing =>
    rw [readOn_nil] at closed
    exact nomatch frames.symm.trans closed
  | ended isEnd =>
    rw [readOn_end isEnd] at closed
    exact nomatch frames.symm.trans closed
  | @divided _ rest divides =>
    obtain ⟨word, divided⟩ := readOn_sinon marked divides
    rw [divided] at clean
    obtain ⟨index, _, same⟩ := frames_of_divider (clean_of_readOn clean)
    exact .inl ⟨index, word, rest, (List.cons.inj (frames.symm.trans same)).1, divides,
      divided draft⟩
  | @closed _ rest block ends =>
    obtain ⟨word, closes⟩ := readOn_closer marked ends
    rw [closes] at clean
    obtain ⟨_, _, same, rfl⟩ := frames_of_closing (clean_of_readOn clean)
    cases (List.cons.inj (frames.symm.trans same)).1
    exact .inr ⟨word, rest, ends, closes draft⟩

/-- Tokens that leave no error and no open block derive from the grammar, up to where the script
stops. -/
theorem derives_of_clean {beyond : Token} (marked : beyond.kind = .endOfFile) (draft : Draft)
    (assigned : List String) (tokens : List Token)
    (clean : (draft.readOn assigned ⟨tokens, beyond⟩).errors = #[])
    (closed : (draft.readOn assigned ⟨tokens, beyond⟩).frames = []) :
    ∃ script written rest, Derives assigned tokens script written rest ∧ Stops rest := by
  match tokens with
  | [] => exact ⟨.empty, assigned, [], .empty, .nothing⟩
  | token :: tokens =>
    by_cases isEnd : token.kind = .endOfFile
    · exact ⟨.empty, assigned, _, .empty, .ended isEnd⟩
    by_cases isBreak : token.kind = .lineBreak
    · rw [readOn_lineBreak isBreak] at clean closed
      obtain ⟨script, written, rest, derives, stops⟩ :=
        derives_of_clean marked draft assigned tokens clean closed
      exact ⟨script, written, rest, .lineBreak isBreak derives, stops⟩
    obtain ⟨item, middle, shorter, stands⟩ := stands_of_clean marked isEnd isBreak clean
    rw [readOn_of_stands marked stands] at clean closed
    cases stands with
    | label isLabel =>
      obtain ⟨script, written, rest, derives, stops⟩ :=
        derives_of_clean marked _ _ _ clean closed
      exact ⟨_, written, rest, .label isLabel derives, stops⟩
    | simple forms =>
      rw [assigned_statement] at clean closed
      obtain ⟨script, written, rest, derives, stops⟩ :=
        derives_of_clean marked _ _ _ clean closed
      exact ⟨_, written, rest, .simple forms derives, stops⟩
    | divider divides => exact ⟨.empty, assigned, _, .empty, .divided divides⟩
    | closing ends => exact ⟨.empty, assigned, _, .empty, .closed ends⟩
    | @opening _ _ header opens =>
      obtain ⟨body, inner, second, inside, stops⟩ := derives_of_clean marked _ _ _ clean closed
      have fits := inside.spends.length_le
      rw [readOn_of_derives marked inside] at clean closed
      have frames : ((draft.addItem (.opening header)).extend body).frames =
          openFrame draft.size header :: draft.frames :=
        draft.frames_openBlock header
      rcases word_of_stops marked frames stops clean closed with
        ⟨index, word, third, isSi, divides, divided⟩ | ⟨word, third, ends, closes⟩
      · have shorter := divides.length_lt
        rw [divided] at clean closed
        cases header with
        | tantque condition => exact nomatch isSi
        | pour init condition step => exact nomatch isSi
        | si condition =>
          obtain ⟨alternative, last, fourth, other, stops⟩ :=
            derives_of_clean marked _ _ _ clean closed
          have fits := other.spends.length_le
          rw [readOn_of_derives marked other] at clean closed
          -- A `si` that has been divided is not divided again.
          rcases word_of_stops marked rfl stops clean closed with
            ⟨_, _, _, isSi, _⟩ | ⟨word, fifth, ends, closes⟩
          · exact nomatch isSi
          · have shorter := ends.length_lt
            rw [closes] at clean closed
            obtain ⟨script, written, rest, later, stops⟩ :=
              derives_of_clean marked _ _ _ clean closed
            exact ⟨_, written, rest, .siSinon opens inside divides other ends later, stops⟩
      · have shorter := ends.length_lt
        rw [closes] at clean closed
        obtain ⟨script, written, rest, later, stops⟩ :=
          derives_of_clean marked _ _ _ clean closed
        cases header with
        | si condition => exact ⟨_, written, rest, .si opens inside ends later, stops⟩
        | tantque condition => exact ⟨_, written, rest, .tantque opens inside ends later, stops⟩
        | pour init condition step =>
          exact ⟨_, written, rest, .pour opens inside ends later, stops⟩
termination_by tokens.length

/-- Outside of every block a script that leaves no error stops at the end only. -/
theorem ends_of_stops {draft : Draft} {assigned : List String} {beyond : Token}
    {tokens : List Token} (marked : beyond.kind = .endOfFile) (outside : draft.frames = [])
    (stops : Stops tokens) (clean : (draft.readOn assigned ⟨tokens, beyond⟩).errors = #[]) :
    tokens = [] ∨ ∃ token rest, tokens = token :: rest ∧ token.kind = .endOfFile := by
  cases stops with
  | nothing => exact .inl rfl
  | ended isEnd => exact .inr ⟨_, _, rfl, isEnd⟩
  | divided divides =>
    obtain ⟨word, divided⟩ := readOn_sinon marked divides
    rw [divided] at clean
    obtain ⟨_, _, same⟩ := frames_of_divider (clean_of_readOn clean)
    exact nomatch outside.symm.trans same
  | closed ends =>
    obtain ⟨word, closes⟩ := readOn_closer marked ends
    rw [closes] at clean
    obtain ⟨_, _, same, _⟩ := frames_of_closing (clean_of_readOn clean)
    exact nomatch outside.symm.trans same

/-- Of lexemes and a mark after them, a derivation that uses up no end mark leaves the mark, if it
stops at the end. -/
theorem rest_eq_mark {lexemes rest : List Token} {mark : Token} (isEnd : mark.kind = .endOfFile)
    (real : ∀ token ∈ lexemes, token.kind ≠ .endOfFile)
    (spends : Spends (lexemes ++ [mark]) rest)
    (ended : rest = [] ∨ ∃ token more, rest = token :: more ∧ token.kind = .endOfFile) :
    rest = [mark] := by
  obtain ⟨used, same, used_real⟩ := spends
  rcases ended with rfl | ⟨token, more, rfl, isToken⟩
  · have member : mark ∈ used := by
      rw [List.append_nil] at same
      rw [← same]
      exact List.mem_append_right _ (List.mem_singleton.mpr rfl)
    exact absurd isEnd (used_real mark member)
  · rcases List.eq_nil_or_concat more with rfl | ⟨front, last, rfl⟩
    · obtain ⟨-, ends⟩ := List.append_inj' same rfl
      exact ends.symm
    · rw [List.concat_eq_append, ← List.cons_append, ← List.append_assoc] at same
      obtain ⟨inside, -⟩ := List.append_inj' same rfl
      have member : token ∈ lexemes := by
        rw [inside]
        exact List.mem_append_right _ List.mem_cons_self
      exact absurd isToken (real token member)

end Grammar

namespace Parse

theorem program_extend (script : Script) :
    (({} : Draft).extend script).program = script.program := by
  simp [Draft.extend, Draft.append, Script.program, Draft.size]

theorem ofTokens_eq {lexemes : List Token} {mark : Token} (isEnd : mark.kind = .endOfFile) :
    Parse.ofTokens (lexemes ++ [mark]) =
      let draft := ({} : Draft).readOn [] ⟨lexemes ++ [mark], mark⟩
      ⟨draft.program, draft.errors.toList ++ draft.unclosed⟩ := by
  rw [ofTokens, Draft.ofItems, Item.readAll, Cursor.ofTokens_snoc isEnd]
  rfl

/-- Tokens that derive from the grammar are laid out as the derivation. -/
theorem readOn_of_accepts {tokens : List Token} {beyond : Token} {script : Script}
    (marked : beyond.kind = .endOfFile) (accepts : Grammar.Accepts tokens script) :
    ({} : Draft).readOn [] ⟨tokens, beyond⟩ = ({} : Draft).extend script := by
  obtain ⟨written, mark, isEnd, derives⟩ := accepts
  rw [Draft.readOn_of_derives marked derives, Draft.readOn_end isEnd]

/-- Tokens that a text is scanned as derive from the grammar, if nothing is wrong with them. -/
theorem accepts_of_tokenize {text : String}
    (clean : (Parse.ofTokens (Token.tokenize text)).errors = []) :
    ∃ script, Grammar.Accepts (Token.tokenize text) script := by
  obtain ⟨lexemes, mark, same, isEnd, lexical⟩ := Token.tokenize_eq text
  rw [same, ofTokens_eq isEnd] at clean
  obtain ⟨noError, noFrame⟩ := List.append_eq_nil_iff.mp clean
  have closed := List.map_eq_nil_iff.mp noFrame
  have clean := Array.toList_eq_nil_iff.mp noError
  obtain ⟨script, written, rest, derives, stops⟩ :=
    Grammar.derives_of_clean isEnd _ _ _ clean closed
  rw [Draft.readOn_of_derives isEnd derives] at clean
  have ended := Grammar.ends_of_stops isEnd rfl stops clean
  have last := Grammar.rest_eq_mark isEnd (fun token member => (lexical token member).real)
    derives.spends ended
  rw [same]
  exact ⟨script, written, mark, isEnd, last ▸ derives⟩

theorem accepts_of_clean {source : String} (clean : (Parse.ofSource source).errors = []) :
    ∃ script, Grammar.Accepts (Token.tokenize (source ++ "\n\n")) script :=
  accepts_of_tokenize clean

theorem ofTokens_of_accepts {lexemes : List Token} {mark : Token} {script : Script}
    (isEnd : mark.kind = .endOfFile) (accepts : Grammar.Accepts (lexemes ++ [mark]) script) :
    Parse.ofTokens (lexemes ++ [mark]) = ⟨script.program, []⟩ := by
  rw [ofTokens_eq isEnd]
  dsimp only
  rw [readOn_of_accepts isEnd accepts, program_extend]
  rfl

theorem ofSource_of_accepts {source : String} {script : Script}
    (accepts : Grammar.Accepts (Token.tokenize (source ++ "\n\n")) script) :
    Parse.ofSource source = ⟨script.program, []⟩ := by
  obtain ⟨lexemes, mark, same, isEnd, -⟩ := Token.tokenize_eq (source ++ "\n\n")
  rw [same] at accepts
  rw [Parse.ofSource, same]
  exact ofTokens_of_accepts isEnd accepts

/-- A script is read without an error exactly when its tokens derive from the grammar, and its
program is then the layout of the derivation. -/
theorem clean_iff_accepts (source : String) :
    ((Parse.ofSource source).errors = [] ↔
      ∃ script, Grammar.Accepts (Token.tokenize (source ++ "\n\n")) script) ∧
    ∀ script, Grammar.Accepts (Token.tokenize (source ++ "\n\n")) script →
      (Parse.ofSource source).program = script.program := by
  refine ⟨⟨accepts_of_clean, ?_⟩, ?_⟩
  · rintro ⟨script, accepts⟩
    rw [ofSource_of_accepts accepts]
  · intro script accepts
    rw [ofSource_of_accepts accepts]

end Parse

end RobotScript
