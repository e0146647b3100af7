import RobotScript.Proofs.Session.Aim
import RobotScript.Proofs.Walk.Reading

/-!
# Names as directions

Where a direction is due, a script can name a variable. The name has to be one that an assignment
statement wrote further up in the text. An assignment in the header of a counted loop does not
count.

* `Stage.at?` follows the reading of a script, right or wrong, item by item. `Stage.Reached` is what
  holds at every stage.
* `mem_assigned_iff`: which names are known at a stage.
* `Points` is a move or a shot in the text, with the token for its direction.

`assigned_names_aim` says when such a token is accepted. That the variable of a counted loop is not
is `loop_variable_refused`.
-/

namespace RobotScript

/-! ## What an item assigns -/

namespace Reader

theorem assigned_statementItem {α : Type} {make : α → Statement}
    (plain : ∀ value, Item.assigned (.statement (make value)) = []) (value? : Option α) :
    (statementItem (value?.map make)).assigned = [] := by
  cases value? with
  | none => rfl
  | some value => exact plain value

theorem assigned_attack (assigned : List String) (cursor : Cursor) :
    (attack assigned cursor).val.value.assigned = [] := by
  show Item.assigned ((if cursor.peek.kind = TokenKind.word ∧
    cursor.peek.text = Keyword.tirer.name then _ else _ : Reader Item) cursor).val.value = []
  split
  · exact assigned_statementItem (fun _ => rfl) _
  · split
    · exact assigned_statementItem (fun _ => rfl) _
    · rfl

theorem assigned_instruction (assigned : List String) (token : Token) (cursor : Cursor) :
    (instruction assigned token cursor).val.value.assigned = [] := by
  unfold instruction
  cases Keyword.ofName? token.text with
  | none => rfl
  | some keyword =>
    cases keyword with
    | deplacer => exact assigned_statementItem (fun _ => rfl) _
    | attaquer => exact assigned_attack assigned cursor
    | _ => rfl

/-- Only an item that starts with a word and `=` assigns a name. -/
theorem assigned_item (assigned : List String) (token : Token) (cursor : Cursor) :
    (item assigned token cursor).val.value.assigned =
      if token.kind = .word ∧ cursor.peek.kind = .equals then [token.text] else [] := by
  unfold item
  cases token.kind with
  | word =>
    show Item.assigned
      ((if cursor.peek.kind = .equals then _ else _ : Reader Item) cursor).val.value = _
    by_cases isEquals : cursor.peek.kind = .equals
    · rw [if_pos isEquals, if_pos ⟨rfl, isEquals⟩]
      rfl
    · rw [if_neg isEquals, if_neg fun both => isEquals both.2]
      exact assigned_instruction assigned token cursor
  | _ =>
    rw [if_neg fun both => by cases both.1]
    rfl

end Reader

/-! ## Stages of reading -/

namespace Stage

/-- The stage before the first item of a script. -/
def start (source : String) : Stage where
  cursor := .ofTokens (Token.tokenize (source ++ "\n\n"))
  assigned := []
  draft := {}

/-- The stage after the next item or line break. At the end there is none. -/
def next? (stage : Stage) : Option Stage :=
  match stage.cursor.ahead with
  | [] => none
  | token :: _ =>
    match token.kind with
    | .endOfFile => none
    | .lineBreak => some { stage with cursor := stage.cursor.next }
    | _ =>
      let reading := (Reader.item stage.assigned token stage.cursor.next).val
      some ⟨reading.rest, reading.value.assigned ++ stage.assigned,
        stage.draft.add (reading.value, reading.findings)⟩

/-- The stage of a script after a number of items and line breaks. -/
def at? (source : String) : Nat → Option Stage
  | 0 => some (start source)
  | step + 1 => (at? source step).bind next?

/-- An assignment statement to the name is next. -/
def Assigns (stage : Stage) (name : String) : Prop :=
  ∃ target sign tokens, stage.cursor.ahead = target :: sign :: tokens ∧ target.kind = .word ∧
    sign.kind = .equals ∧ target.text = name

variable {source name : String} {mark : Token} {stage later : Stage} {step : Nat}

/-- What a step can be: past a line break, or past an item. -/
theorem next?_cases (next : stage.next? = some later) :
    ∃ token tokens, stage.cursor.ahead = token :: tokens ∧
      (token.kind = .lineBreak ∧ later = ⟨stage.cursor.next, stage.assigned, stage.draft⟩ ∨
        token.kind ≠ .endOfFile ∧ token.kind ≠ .lineBreak ∧ ∃ reading,
          (Reader.item stage.assigned token stage.cursor.next).val = reading ∧
          later = ⟨reading.rest, reading.value.assigned ++ stage.assigned,
            stage.draft.add (reading.value, reading.findings)⟩) := by
  unfold next? at next
  split at next
  · cases next
  · next token tokens ahead =>
    refine ⟨token, tokens, ahead, ?_⟩
    split at next
    · cases next
    · next isBreak => exact .inl ⟨isBreak, (Option.some.inj next).symm⟩
    · next noEnd noBreak => exact .inr ⟨noEnd, noBreak, _, rfl, (Option.some.inj next).symm⟩

/-- What holds at every stage of a script: what is still to be read completes its draft, and what is
wrong so far was noted on the way. -/
structure Reached (source : String) (mark : Token) (stage : Stage) : Prop where
  beyond : stage.cursor.beyond = mark
  whole : stage.draft.readOn stage.assigned stage.cursor = Draft.ofItems (Parse.itemsOf source)
  framed : stage.draft.Framed
  marks : Marks mark (Token.tokenize (source ++ "\n\n"))
    (stage.draft.errors.toList.map Diagnostic.place) stage.cursor.ahead

theorem reached_start (scanned : Token.Scanned (Token.tokenize (source ++ "\n\n")) mark) :
    Reached source mark (start source) := by
  have cursor : (start source).cursor = ⟨Token.tokenize (source ++ "\n\n"), mark⟩ := by
    obtain ⟨lexemes, same⟩ := scanned.ends
    show Cursor.ofTokens _ = _
    rw [same, Cursor.ofTokens_snoc scanned.isEnd]
  refine ⟨by rw [cursor], ?_, Draft.framed_ofItems [], ?_⟩
  · rw [cursor, Parse.ofItems_itemsOf scanned]
    rfl
  · rw [cursor]
    exact .stop

theorem Reached.next (scanned : Token.Scanned (Token.tokenize (source ++ "\n\n")) mark)
    (reached : Reached source mark stage) (next : stage.next? = some later) :
    Reached source mark later := by
  obtain ⟨⟨ahead, beyond⟩, assigned, draft⟩ := stage
  obtain ⟨rfl, whole, framed, marks⟩ := reached
  obtain ⟨token, tokens, rfl, ⟨isBreak, rfl⟩ | ⟨noEnd, noBreak, reading, read, rfl⟩⟩ :=
    next?_cases next
  · refine ⟨rfl, ?_, framed, ?_⟩
    · rw [← whole, Draft.readOn_lineBreak isBreak]
      rfl
    · have passed : Marks beyond _ _ tokens := marks.trans (.pass .stop)
      rwa [List.append_nil] at passed
  · have known : Cursor.SignsKnown ⟨tokens, beyond⟩ :=
      fun other member => scanned.known other (marks.suffix.mem (List.mem_cons_of_mem _ member))
    have outcome := Reader.comesTo_item assigned token known
    have same : (Reader.item assigned token ⟨tokens, beyond⟩).val = reading := read
    rw [same] at outcome
    obtain ⟨reported, errors, passed⟩ := Draft.marks_add outcome draft
    refine ⟨outcome.rest.1, ?_, framed.add _, ?_⟩
    · rw [← whole, Draft.readOn_item noEnd noBreak, same]
    · rw [errors, List.map_append]
      exact marks.trans passed

theorem reached_at? (scanned : Token.Scanned (Token.tokenize (source ++ "\n\n")) mark)
    (found : at? source step = some stage) :
    Reached source mark stage := by
  induction step generalizing stage with
  | zero =>
    cases found
    exact reached_start scanned
  | succ step ih =>
    obtain ⟨before, foundBefore, next⟩ := Option.bind_eq_some_iff.mp found
    exact (ih foundBefore).next scanned next

/-! ## Names that are known -/

theorem mem_assigned_next (marked : stage.cursor.beyond.kind = .endOfFile)
    (next : stage.next? = some later) :
    name ∈ later.assigned ↔ stage.Assigns name ∨ name ∈ stage.assigned := by
  obtain ⟨⟨ahead, beyond⟩, assigned, draft⟩ := stage
  obtain ⟨token, tokens, rfl, ⟨isBreak, rfl⟩ | ⟨noEnd, noBreak, reading, read, rfl⟩⟩ :=
    next?_cases next
  · refine (or_iff_right ?_).symm
    rintro ⟨target, sign, tokens, same, isWord, -⟩
    cases same
    cases isBreak.symm.trans isWord
  · have same : (Reader.item assigned token ⟨tokens, beyond⟩).val = reading := read
    rw [← same, List.mem_append, Reader.assigned_item]
    refine or_congr_left ?_
    split
    · next both =>
      rw [List.mem_singleton]
      cases tokens with
      | nil => cases marked.symm.trans both.2
      | cons sign tokens =>
        constructor
        · rintro rfl
          exact ⟨token, sign, tokens, rfl, both.1, both.2, rfl⟩
        · rintro ⟨target, sign, tokens, same, -, -, rfl⟩
          cases same
          rfl
    · next notBoth =>
      refine iff_of_false List.not_mem_nil ?_
      rintro ⟨target, sign, tokens, same, isWord, isEquals, -⟩
      cases same
      exact notBoth ⟨isWord, isEquals⟩

/-- The names that are known at a stage are those that an assignment statement wrote before. -/
theorem mem_assigned_iff (scanned : Token.Scanned (Token.tokenize (source ++ "\n\n")) mark)
    (found : at? source step = some stage) :
    name ∈ stage.assigned ↔ ∃ earlier < step, ∃ place, at? source earlier = some place ∧
      place.Assigns name := by
  induction step generalizing stage with
  | zero =>
    cases found
    simp [start]
  | succ step ih =>
    obtain ⟨before, foundBefore, next⟩ := Option.bind_eq_some_iff.mp found
    have marked : before.cursor.beyond.kind = .endOfFile := by
      rw [(reached_at? scanned foundBefore).beyond]
      exact scanned.isEnd
    rw [mem_assigned_next marked next, ih foundBefore]
    constructor
    · rintro (assigns | ⟨earlier, less, place⟩)
      · exact ⟨step, Nat.lt_succ_self _, before, foundBefore, assigns⟩
      · exact ⟨earlier, Nat.lt_succ_of_lt less, place⟩
    · rintro ⟨earlier, less, place, foundPlace, assigns⟩
      rcases Nat.lt_succ_iff_lt_or_eq.mp less with less | rfl
      · exact .inr ⟨earlier, less, place, foundPlace, assigns⟩
      · cases foundPlace.symm.trans foundBefore
        exact .inl assigns

end Stage

/-! ## Words that are refused -/

namespace Reader

variable {α β : Type} {assigned : List String} {name beyond : Token} {tokens rest : List Token}

theorem val_bind {reader : Reader α} {following : α → Reader β} {cursor middle last : Cursor}
    {value : α} {result : β} {findings more : List Finding}
    (first : (reader cursor).val = ⟨value, findings, middle⟩)
    (second : (following value middle).val = ⟨result, more, last⟩) :
    ((reader >>= following) cursor).val = ⟨result, findings ++ more, last⟩ :=
  (val_andThen first).trans (by rw [second])

/-- A word that is neither known nor a keyword is noted, and taken. -/
theorem bearing_unknown (isWord : name.kind = .word) (unknown : name.text ∉ assigned)
    (noKeyword : Direction.ofKeyword? name.text = none) :
    (bearing assigned ⟨name :: tokens, beyond⟩).val =
      ⟨none, [.plain (.ofToken .invalidDirection name true)], ⟨tokens, beyond⟩⟩ := by
  have refused : (bearingAt assigned name ⟨name :: tokens, beyond⟩).val =
      ⟨none, [.plain (.ofToken .invalidDirection name true)],
        ⟨name :: tokens, beyond⟩⟩ := by
    unfold bearingAt
    rw [if_neg unknown, noKeyword]
    rfl
  have taken : (expectWord name.text).Takes ⟨name :: tokens, beyond⟩ () ⟨tokens, beyond⟩ :=
    takes_expectWord.mpr ⟨isWord, rfl, rfl⟩
  exact val_bind (takes_peek.mpr ⟨rfl, rfl⟩) (val_bind refused (val_bind taken rfl))

theorem inParentheses_val {inner : Reader α} {opening closing : Token} {value : α}
    {findings : List Finding} (opens : opening.kind = .leftParen)
    (read : (inner ⟨tokens, beyond⟩).val = ⟨value, findings, ⟨closing :: rest, beyond⟩⟩)
    (closes : closing.kind = .rightParen) :
    (inParentheses inner ⟨opening :: tokens, beyond⟩).val =
      ⟨value, findings, ⟨rest, beyond⟩⟩ := by
  have opened :
      (expect .leftParen).Takes ⟨opening :: tokens, beyond⟩ opening ⟨tokens, beyond⟩ :=
    takes_expect.mpr ⟨rfl, opens, rfl⟩
  have closed :
      (expect .rightParen).Takes ⟨closing :: rest, beyond⟩ closing ⟨rest, beyond⟩ :=
    takes_expect.mpr ⟨rfl, closes, rfl⟩
  have whole : (inParentheses inner ⟨opening :: tokens, beyond⟩).val =
      ⟨value, [] ++ (findings ++ ([] ++ [])), ⟨rest, beyond⟩⟩ :=
    val_bind opened (val_bind read (val_bind closed rfl))
  rwa [List.nil_append, List.append_nil, List.append_nil] at whole

/-- An action in the direction of such a word is left out. -/
theorem val_action_unknown {make : Bearing → Statement} {opening closing : Token}
    (opens : opening.kind = .leftParen) (isWord : name.kind = .word)
    (unknown : name.text ∉ assigned) (noKeyword : Direction.ofKeyword? name.text = none)
    (closes : closing.kind = .rightParen) :
    ((inParentheses (bearing assigned) >>= fun value? =>
      pure (statementItem (value?.map make)) : Reader Item)
      ⟨opening :: name :: closing :: rest, beyond⟩).val =
      ⟨.void, [.plain (.ofToken .invalidDirection name true)], ⟨rest, beyond⟩⟩ :=
  val_bind (inParentheses_val opens (bearing_unknown isWord unknown noKeyword) closes) rfl

/-- A word without `=` after it is read as an instruction. -/
theorem val_item_of_word {first : Token} {cursor : Cursor} (isWord : first.kind = .word)
    (noTarget : cursor.peek.kind ≠ .equals) :
    (item assigned first cursor).val = (instruction assigned first cursor).val := by
  unfold item
  simp only [isWord]
  show ((if cursor.peek.kind = .equals then _ else _ : Reader Item) cursor).val = _
  rw [if_neg noTarget]

/-- A shot goes on with its direction. -/
theorem val_attack_of_shot {fire : Token} (isWord : fire.kind = .word)
    (named : fire.text = Keyword.tirer.name) :
    (attack assigned ⟨fire :: tokens, beyond⟩).val =
      ((inParentheses (bearing assigned) >>= fun value? =>
        pure (statementItem (value?.map .shoot)) : Reader Item) ⟨tokens, beyond⟩).val := by
  show ((if fire.kind = .word ∧ fire.text = Keyword.tirer.name then _ else _ : Reader Item)
    _).val = _
  rw [if_pos ⟨isWord, named⟩]
  rfl

end Reader

namespace Grammar

variable {name : Token} {aimed : Aimed} {assigned : List String} {tokens rest : List Token}

/-- `Points name aimed tokens rest`: the action is written at the start of the tokens, with the
token for its direction. -/
structure Points (name : Token) (aimed : Aimed) (tokens rest : List Token) : Prop where
  directs : Directs name.text aimed tokens rest
  placed : ∃ before closing, tokens = before ++ name :: closing :: rest

/-- The token for the direction stands behind the first word of the action. If it is neither known
nor a keyword, it is reported and the action is left out. -/
theorem Points.shape (points : Points name aimed tokens rest) :
    ∃ first inside, tokens = first :: (inside ++ rest) ∧ first.kind = .word ∧
      name ∈ inside ∧ name.kind = .word ∧
      ∀ assigned beyond, name.text ∉ assigned → Direction.ofKeyword? name.text = none →
        (Reader.item assigned first ⟨inside ++ rest, beyond⟩).val =
          ⟨.void, [.plain (.ofToken .invalidDirection name true)], ⟨rest, beyond⟩⟩ := by
  obtain ⟨directs, before, last, placed⟩ := points
  cases directs with
  | @move _ _ opening other closing starts opens isWord named closes =>
    cases starts with
    | @here first _ isFirst isMove =>
      have split : [first, opening] ++ other :: closing :: rest = before ++ name :: last :: rest :=
        placed
      obtain ⟨-, tail⟩ := List.append_inj' split rfl
      cases tail
      refine ⟨first, [opening, name, last], rfl, isFirst, by simp, isWord,
        fun assigned beyond unknown noKeyword => ?_⟩
      rw [Reader.val_item_of_word isFirst (by simp [Cursor.peek, opens])]
      unfold Reader.instruction
      rw [isMove, Keyword.ofName?_name]
      exact Reader.val_action_unknown opens isWord unknown noKeyword closes
  | @shoot _ _ attack opening other closing starts attacks fires opens isWord named closes =>
    cases starts with
    | @here first _ isFirst isAttack =>
      have split : [first, attack, opening] ++ other :: closing :: rest =
          before ++ name :: last :: rest := placed
      obtain ⟨-, tail⟩ := List.append_inj' split rfl
      cases tail
      refine ⟨first, [attack, opening, name, last], rfl, isFirst, by simp, isWord,
        fun assigned beyond unknown noKeyword => ?_⟩
      rw [Reader.val_item_of_word isFirst (by simp [Cursor.peek, attacks])]
      unfold Reader.instruction
      rw [isAttack, Keyword.ofName?_name]
      exact (Reader.val_attack_of_shot attacks fires).trans
        (Reader.val_action_unknown opens isWord unknown noKeyword closes)

end Grammar

/-! ## Words and the errors at them -/

theorem Place.ne_of_lt {one other : Place} (less : one < other) : one ≠ other := by
  rintro rfl
  exact lt_irrefl _ less

/-- The end mark comes after all other tokens. -/
theorem Token.Scanned.lt_mark {all : List Token} {mark token : Token} (scanned : Scanned all mark)
    (member : token ∈ all) (real : token.kind ≠ .endOfFile) : token.place < mark.place := by
  have increasing := scanned.increasing
  obtain ⟨lexemes, rfl⟩ := scanned.ends
  rcases List.mem_append.mp member with inside | last
  · exact (List.pairwise_append.mp increasing).2.2 token inside mark (List.mem_singleton_self _)
  · rw [List.mem_singleton.mp last] at real
    exact absurd scanned.isEnd real

namespace Marks

variable {beyond : Token} {tokens rest : List Token} {noted : List (Option Place)}

/-- What is noted on the way is noted at tokens that are passed, or at the one that is next. -/
theorem placed (marks : Marks beyond tokens noted rest) :
    ∃ used, tokens = used ++ rest ∧ ∀ place ∈ noted,
      ∃ token ∈ used ++ [rest.headD beyond], place = some token.place := by
  induction marks with
  | stop => exact ⟨[], rfl, List.forall_mem_nil _⟩
  | note _ ih =>
    obtain ⟨used, rfl, placed⟩ := ih
    refine ⟨used, rfl, List.forall_mem_cons.mpr ⟨⟨_, ?_, rfl⟩, placed⟩⟩
    cases used with
    | nil => exact List.mem_singleton_self _
    | cons token used => exact List.mem_cons_self
  | @pass token _ _ _ _ ih =>
    obtain ⟨used, rfl, placed⟩ := ih
    refine ⟨token :: used, rfl, fun place member => ?_⟩
    obtain ⟨other, passed, same⟩ := placed place member
    exact ⟨other, List.mem_cons_of_mem _ passed, same⟩

theorem mem (marks : Marks beyond tokens noted rest) {place : Place}
    (member : some place ∈ noted) :
    ∃ token ∈ tokens ++ [beyond], place = token.place := by
  obtain ⟨used, rfl, placed⟩ := marks.placed
  obtain ⟨token, present, same⟩ := placed _ member
  refine ⟨token, ?_, Option.some.inj same⟩
  rw [List.append_assoc]
  refine List.mem_append.mpr ((List.mem_append.mp present).imp_right fun next => ?_)
  rw [List.mem_singleton.mp next]
  cases rest with
  | nil => exact List.mem_singleton_self _
  | cons head rest => exact List.mem_cons_self

end Marks

namespace Stage

open Grammar

variable {source : String} {mark name first : Token} {stage later : Stage} {step : Nat}
  {aimed : Aimed} {inside rest : List Token}

/-- What is wrong with a script: what was reported so far, what is noted on the way from there on,
and the blocks that are not closed. -/
theorem Reached.errors (scanned : Token.Scanned (Token.tokenize (source ++ "\n\n")) mark)
    (reached : Reached source mark stage) :
    ∃ reported last, (Parse.ofSource source).errors =
        stage.draft.errors.toList ++
        (reported ++ (Draft.ofItems (Parse.itemsOf source)).unclosed) ∧
      Marks mark stage.cursor.ahead (reported.map Diagnostic.place) last := by
  obtain ⟨⟨ahead, beyond⟩, assigned, draft⟩ := stage
  obtain rfl : beyond = mark := reached.beyond
  have known : Cursor.SignsKnown ⟨ahead, beyond⟩ :=
    fun other present => scanned.known other (reached.marks.suffix.mem present)
  obtain ⟨reported, last, errors, marks⟩ := Draft.marks_readOn known draft assigned
  have whole : draft.readOn assigned ⟨ahead, beyond⟩ = Draft.ofItems (Parse.itemsOf source) :=
    reached.whole
  refine ⟨reported, last, ?_, marks⟩
  rw [Parse.ofSource_eq, ← List.append_assoc, ← errors, whole]

/-- What is reported at a token inside an item is reported when the item is read. -/
theorem Reached.errors_inside (scanned : Token.Scanned (Token.tokenize (source ++ "\n\n")) mark)
    (here : Reached source mark stage) (there : Reached source mark later)
    (passed : stage.cursor.ahead = first :: (inside ++ later.cursor.ahead))
    (member : name ∈ inside) (real : name.kind ≠ .endOfFile) {error : Diagnostic}
    (found : error ∈ (Parse.ofSource source).errors) (placed : error.place = some name.place) :
    error ∈ later.draft.errors.toList ∧ error ∉ stage.draft.errors.toList := by
  have increasing := scanned.increasing
  obtain ⟨used, split, noted⟩ := here.marks.placed
  rw [split, passed, List.append_cons, List.pairwise_append] at increasing
  obtain ⟨-, behind, before⟩ := increasing
  have at' {errors : List Diagnostic} (reported : error ∈ errors) :
      some name.place ∈ errors.map Diagnostic.place :=
    placed ▸ List.mem_map_of_mem reported
  refine ⟨?_, fun reported => ?_⟩
  · obtain ⟨reported, last, errors, marks⟩ := there.errors scanned
    rw [errors] at found
    refine (List.mem_append.mp found).resolve_right fun after => ?_
    rcases List.mem_append.mp after with after | unclosed
    · -- What is reported later is at a later token or at the end mark.
      obtain ⟨token, present, same⟩ := marks.mem (at' after)
      have less : name.place < token.place := by
        rcases List.mem_append.mp present with present | last
        · exact (List.pairwise_append.mp behind).2.2 name member token present
        · rw [List.mem_singleton.mp last]
          refine scanned.lt_mark ?_ real
          rw [split, passed]
          exact List.mem_append_right _ (List.mem_cons_of_mem _ (List.mem_append_left _ member))
      exact Place.ne_of_lt less same
    · obtain ⟨frame, -, rfl⟩ := List.mem_map.mp unclosed
      cases placed
  · obtain ⟨token, present, same⟩ := noted _ (at' reported)
    rw [passed] at present
    exact Place.ne_of_lt (before token present name (List.mem_append_left _ member))
      (Option.some.inj same).symm

/-! ## Which names are accepted -/

theorem next?_of_word {assigned : List String} {after : List Token} {beyond : Token}
    {reading : Reading Item} (draft : Draft) (isWord : first.kind = .word)
    (read : (Reader.item assigned first ⟨after, beyond⟩).val = reading) :
    next? ⟨⟨first :: after, beyond⟩, assigned, draft⟩ =
      some ⟨reading.rest, reading.value.assigned ++ assigned,
        draft.add (reading.value, reading.findings)⟩ := by
  subst read
  simp only [next?, isWord]
  rfl

/-- An assignment statement that stands before the stage in the text writes the name. -/
def WrittenBefore (source : String) (step : Nat) (name : String) : Prop :=
  ∃ earlier < step, ∃ place, at? source earlier = some place ∧ place.Assigns name

/-- The action that is next is accepted: it is laid out as the next statement, and nothing is wrong
with the token for its direction. -/
structure Accepts (source : String) (stage : Stage) (aimed : Aimed) (name : Token)
    (bearing : Bearing) : Prop where
  laidOut : (Parse.ofSource source).program.statements[stage.draft.size]? =
    some (aimed.statement bearing)
  silent : ∀ error ∈ (Parse.ofSource source).errors, error.place ≠ some name.place

/-- The action that is next is refused: the token for its direction is reported, and reading goes on
without a statement. -/
structure Refuses (source : String) (stage : Stage) (name : Token) (rest : List Token) : Prop where
  reported :
    ⟨.invalidDirection, name.text, true, some name.place⟩ ∈ (Parse.ofSource source).errors
  leftOut : ∃ later, stage.next? = some later ∧ later.cursor.ahead = rest ∧
    later.draft.program = stage.draft.program

theorem Reached.accepts (scanned : Token.Scanned (Token.tokenize (source ++ "\n\n")) mark)
    (here : Reached source mark stage) (points : Points name aimed stage.cursor.ahead rest)
    {bearing : Bearing} (aims : Aims stage.assigned name.text bearing) :
    Accepts source stage aimed name bearing := by
  obtain ⟨⟨ahead, beyond⟩, assigned, draft⟩ := stage
  obtain rfl : beyond = mark := here.beyond
  obtain ⟨first, inside, rfl, isWord, member, isName, -⟩ := points.shape
  obtain ⟨_, _, same, -, taken⟩ := item_of_stands scanned.isEnd (points.directs.stands aims)
  cases same
  have next := next?_of_word draft isWord taken
  have there := here.next scanned next
  rw [Draft.add_clean] at there
  refine ⟨?_, fun error found placed => ?_⟩
  · rw [Parse.ofSource_eq, ← there.whole]
    refine there.framed.readOn_plain Aimed.isPlain_statement ?_ _ _
    exact (here.framed.addItem_iff _ Aimed.isPlain_statement).mpr (.inr ⟨rfl, rfl⟩)
  · obtain ⟨after, notBefore⟩ :=
      here.errors_inside scanned there rfl member (by simp [isName]) found placed
    exact notBefore after

theorem Reached.refuses (scanned : Token.Scanned (Token.tokenize (source ++ "\n\n")) mark)
    (here : Reached source mark stage) (points : Points name aimed stage.cursor.ahead rest)
    (unknown : name.text ∉ stage.assigned) (noKeyword : Direction.ofKeyword? name.text = none) :
    Refuses source stage name rest := by
  obtain ⟨⟨ahead, beyond⟩, assigned, draft⟩ := stage
  obtain ⟨first, inside, rfl, isWord, -, -, refused⟩ := points.shape
  have next := next?_of_word draft isWord (refused assigned beyond unknown noKeyword)
  have there := here.next scanned next
  refine ⟨?_, _, next, rfl, rfl⟩
  obtain ⟨reported, last, errors, -⟩ := there.errors scanned
  rw [errors]
  refine List.mem_append_left _ ?_
  show _ ∈ (draft.errors ++ [Diagnostic.ofToken .invalidDirection name true]).toList
  rw [Array.toList_appendList]
  exact List.mem_append_right _ (List.mem_singleton_self _)

/-- A move or a shot, written with a word for its direction, in any script, with errors or without:
* If an assignment statement before it in the text writes a variable of this name, it is accepted,
  with that variable.
* If none does, and the word is the keyword of a direction, it is accepted, with this direction.
* Otherwise it is refused. So it is for a name that only the header of a counted loop writes. -/
theorem assigned_names_aim (found : at? source step = some stage)
    (points : Points name aimed stage.cursor.ahead rest) :
    (WrittenBefore source step name.text → Accepts source stage aimed name (.held name.text)) ∧
    (¬WrittenBefore source step name.text →
      (∀ direction, Direction.ofKeyword? name.text = some direction →
        Accepts source stage aimed name (.toward direction)) ∧
      (Direction.ofKeyword? name.text = none → Refuses source stage name rest)) := by
  obtain ⟨mark, scanned⟩ := Token.exists_scanned (source ++ "\n\n")
  have here := reached_at? scanned found
  have known : name.text ∈ stage.assigned ↔ WrittenBefore source step name.text :=
    mem_assigned_iff scanned found
  rw [← known]
  refine ⟨fun written => ?_,
    fun unknown => ⟨fun direction named => ?_, fun noKeyword => ?_⟩⟩
  · exact here.accepts scanned points (.held written)
  · exact here.accepts scanned points (.toward unknown named)
  · exact here.refuses scanned points unknown noKeyword

/-! ## The variable of a counted loop -/

/-- An assignment to the name is next, as a statement or in the header of a counted loop. -/
def Writes (stage : Stage) (name : String) : Prop :=
  stage.Assigns name ∨ ∃ init condition step rest,
    Opens stage.cursor.ahead (.pour init condition step) rest ∧
    (init.target = name ∨ step.target = name)

/-- A script that moves by the variable of a counted loop, and shoots by it after an assignment
statement. -/
def loopDriven : String :=
  "pour (d = HAUTDROIT ; estVivant() ; d = BASGAUCHE)\ndeplacer(d)\nd = BASDROIT\nattaquer.tirer(d)\nfinpour"

/-- The tokens of its header. -/
def headerLine : List Token :=
  [⟨"pour", .word, ⟨1, 1⟩⟩, ⟨"(", .leftParen, ⟨1, 6⟩⟩, ⟨"d", .word, ⟨1, 7⟩⟩,
    ⟨"=", .equals, ⟨1, 9⟩⟩, ⟨"HAUTDROIT", .word, ⟨1, 11⟩⟩,
    ⟨"estVivant", .word, ⟨1, 23⟩⟩, ⟨"(", .leftParen, ⟨1, 32⟩⟩,
    ⟨")", .rightParen, ⟨1, 33⟩⟩, ⟨"d", .word, ⟨1, 37⟩⟩,
    ⟨"=", .equals, ⟨1, 39⟩⟩, ⟨"BASGAUCHE", .word, ⟨1, 41⟩⟩,
    ⟨")", .rightParen, ⟨1, 50⟩⟩]

/-- The tokens of its move. -/
def moveLine : List Token :=
  [⟨"deplacer", .word, ⟨2, 1⟩⟩, ⟨"(", .leftParen, ⟨2, 9⟩⟩,
    ⟨"d", .word, ⟨2, 10⟩⟩, ⟨")", .rightParen, ⟨2, 11⟩⟩]

/-- The tokens between the move and the shot. -/
def middleLine : List Token :=
  [⟨"\n", .lineBreak, ⟨2, 12⟩⟩, ⟨"d", .word, ⟨3, 1⟩⟩,
    ⟨"=", .equals, ⟨3, 3⟩⟩, ⟨"BASDROIT", .word, ⟨3, 5⟩⟩,
    ⟨"\n", .lineBreak, ⟨3, 13⟩⟩]

/-- The tokens of its shot. -/
def shotLine : List Token :=
  [⟨"attaquer", .word, ⟨4, 1⟩⟩, ⟨"tirer", .word, ⟨4, 10⟩⟩,
    ⟨"(", .leftParen, ⟨4, 15⟩⟩, ⟨"d", .word, ⟨4, 16⟩⟩,
    ⟨")", .rightParen, ⟨4, 17⟩⟩]

/-- The tokens after the shot. -/
def lastLine : List Token :=
  [⟨"\n", .lineBreak, ⟨4, 18⟩⟩, ⟨"finpour", .word, ⟨5, 1⟩⟩,
    ⟨"\n", .lineBreak, ⟨5, 8⟩⟩, ⟨"\n", .lineBreak, ⟨6, 1⟩⟩,
    ⟨"", .endOfFile, ⟨7, 1⟩⟩]

theorem loopDriven_stages :
    (at? loopDriven 0).map (·.cursor.ahead) =
      some (headerLine ++ ⟨"\n", .lineBreak, ⟨1, 51⟩⟩ ::
        (moveLine ++ (middleLine ++ (shotLine ++ lastLine)))) ∧
    (at? loopDriven 2).map (fun stage => (stage.cursor.ahead, stage.assigned)) =
      some (moveLine ++ (middleLine ++ (shotLine ++ lastLine)), []) ∧
    (at? loopDriven 6).map (fun stage => (stage.cursor.ahead, stage.assigned)) =
      some (shotLine ++ lastLine, ["d"]) ∧
    ⟨.invalidDirection, "d", true, some ⟨2, 10⟩⟩ ∈
      (Parse.ofSource loopDriven).errors := by
  decide +kernel

theorem points_move (rest : List Token) :
    Points ⟨"d", .word, ⟨2, 10⟩⟩ .move (moveLine ++ rest) rest where
  directs := .move (.here rfl rfl (by simp [NoEquals])) rfl rfl rfl rfl
  placed := ⟨moveLine.take 2, _, rfl⟩

theorem points_shot (rest : List Token) :
    Points ⟨"d", .word, ⟨4, 16⟩⟩ .shoot (shotLine ++ rest) rest where
  directs := .shoot (.here rfl rfl (by simp [NoEquals])) rfl rfl rfl rfl rfl rfl
  placed := ⟨shotLine.take 3, _, rfl⟩

/-- The move by the variable of the loop is refused, and the shot after the assignment statement is
accepted. -/
theorem assigned_names_aim_loopDriven :
    (∃ stage, at? loopDriven 2 = some stage ∧
      Refuses loopDriven stage ⟨"d", .word, ⟨2, 10⟩⟩
        (middleLine ++ (shotLine ++ lastLine))) ∧
    ∃ stage, at? loopDriven 6 = some stage ∧
      Accepts loopDriven stage .shoot ⟨"d", .word, ⟨4, 16⟩⟩ (.held "d") := by
  obtain ⟨mark, scanned⟩ := Token.exists_scanned (loopDriven ++ "\n\n")
  obtain ⟨-, atMove, atShot, -⟩ := loopDriven_stages
  obtain ⟨moving, foundMove, move⟩ := Option.map_eq_some_iff.mp atMove
  obtain ⟨shooting, foundShot, shot⟩ := Option.map_eq_some_iff.mp atShot
  obtain ⟨aheadMove, unassigned⟩ := Prod.mk.inj move
  obtain ⟨aheadShot, assigned⟩ := Prod.mk.inj shot
  refine ⟨⟨moving, foundMove, ?_⟩, shooting, foundShot, ?_⟩
  · have unwritten : ¬WrittenBefore loopDriven 2 "d" := by
      rw [WrittenBefore, ← mem_assigned_iff scanned foundMove, unassigned]
      exact List.not_mem_nil
    exact ((assigned_names_aim foundMove (aheadMove ▸ points_move _)).2 unwritten).2 (by decide)
  · have written : WrittenBefore loopDriven 6 "d" := by
      rw [WrittenBefore, ← mem_assigned_iff scanned foundShot, assigned]
      exact List.mem_singleton_self _
    exact (assigned_names_aim foundShot (aheadShot ▸ points_shot _)).1 written

/-- A name that was assigned further up in the text is not always accepted as a direction: not if
only the header of a counted loop assigns it. -/
theorem loop_variable_refused :
    ¬∀ (source : String) (earlier later : Nat) (place stage : Stage) (name : Token)
      (aimed : Aimed) (rest : List Token),
      at? source earlier = some place → place.Writes name.text → earlier < later →
        at? source later = some stage →
      Points name aimed stage.cursor.ahead rest →
      ∃ bearing, Accepts source stage aimed name bearing := by
  intro always
  obtain ⟨atHeader, atMove, -, reported⟩ := loopDriven_stages
  obtain ⟨place, foundHeader, header⟩ := Option.map_eq_some_iff.mp atHeader
  obtain ⟨moving, foundMove, move⟩ := Option.map_eq_some_iff.mp atMove
  obtain ⟨aheadMove, -⟩ := Prod.mk.inj move
  have writes : place.Writes "d" := by
    refine .inr ⟨⟨"d", .literal (.direction .upRight)⟩, .ask .alive,
      ⟨"d", .literal (.direction .downLeft)⟩,
      ⟨"\n", .lineBreak, ⟨1, 51⟩⟩ :: (moveLine ++ (middleLine ++ (shotLine ++ lastLine))),
      ?_, .inl rfl⟩
    rw [header]
    have noSign {token : Token} {tokens : List Token} (none : Reader.isSign token = false) :
        ∀ next ∈ (token :: tokens).head?, Reader.isSign next = false := by simp [none]
    exact .pour (.here rfl rfl (by simp [NoEquals])) rfl
      (.here rfl rfl (.expression (.direction rfl rfl) (.noMore (noSign rfl))))
      (.expression (.question rfl rfl rfl rfl) (.noMore (noSign rfl)))
      (.here rfl rfl (.expression (.direction rfl rfl) (.noMore (noSign rfl)))) rfl
  obtain ⟨bearing, -, silent⟩ :=
    always loopDriven 0 2 place moving _ .move _ foundHeader writes (by decide) foundMove
      (aheadMove ▸ points_move _)
  exact silent _ reported rfl

end Stage

end RobotScript
