import RobotScript.Proofs.Grammar.Parse

/-!
# What reading gives, right or wrong

`Reader.Yields reader property` says that whatever stands at the cursor, the value that a reader
gives has the property and the reader leaves an end piece of the tokens. It holds with findings as
well as without.

`sound_readFrom` is the main result: of the tokens of a script, the labels that are read start with
a letter, and the statements that are read open no block.
-/

namespace RobotScript

namespace Statement

/-- The label after the block that a statement opens. -/
def finish? : Statement → Option String
  | si _ _ finish => some finish
  | tantque _ _ finish => some finish
  | pour _ _ _ _ finish => some finish
  | _ => none

end Statement

/-- Labels start with a letter, and statements open no block. -/
def Item.Sound : Item → Prop
  | .label name => Text.StartsWithLetter name
  | .statement given => given.finish? = none
  | _ => True

namespace Reader

variable {α β : Type}

/-- Every value that the reader gives has the property, and the reader leaves an end piece of the
tokens. -/
def Yields (reader : Reader α) (property : α → Prop) : Prop :=
  ∀ cursor, property (reader cursor).val.value ∧ (reader cursor).val.rest.ahead <:+ cursor.ahead

/-- The reader leaves an end piece of the tokens. -/
abbrev Keeps (reader : Reader α) : Prop :=
  reader.Yields fun _ => True

/-! ## Basic readers -/

theorem yields_done {property : α → Prop} {value : α} (holds : property value) :
    (done value).Yields property :=
  fun _ => ⟨holds, List.suffix_refl _⟩

theorem yields_andThen {property : β → Prop} {reader : Reader α} {following : α → Reader β}
    (keeps : reader.Keeps) (later : ∀ value, (following value).Yields property) :
    (reader.andThen following).Yields property := by
  intro cursor
  obtain ⟨holds, suffix⟩ := later (reader cursor).val.value (reader cursor).val.rest
  exact ⟨holds, suffix.trans (keeps cursor).2⟩

theorem yields_bind {property : β → Prop} {reader : Reader α} {following : α → Reader β}
    (keeps : reader.Keeps) (later : ∀ value, (following value).Yields property) :
    (reader >>= following).Yields property :=
  yields_andThen keeps later

theorem yields_pure {property : α → Prop} {value : α} (holds : property value) :
    Yields (pure value : Reader α) property :=
  yields_done holds

theorem keeps_note (finding : Finding) : (note finding).Keeps :=
  fun _ => ⟨trivial, List.suffix_refl _⟩

theorem keeps_report {cause : Cause} {token : Token} {highlighted : Bool} :
    (report cause token highlighted).Keeps :=
  keeps_note _

theorem keeps_peek : peek.Keeps :=
  fun _ => ⟨trivial, List.suffix_refl _⟩

theorem keeps_peekSecond : peekSecond.Keeps :=
  fun _ => ⟨trivial, List.suffix_refl _⟩

theorem keeps_skip : skip.Keeps :=
  fun cursor => ⟨trivial, List.tail_suffix cursor.ahead⟩

theorem afterLine_suffix (tokens : List Token) : Cursor.afterLine tokens <:+ tokens := by
  fun_induction Cursor.afterLine tokens with
  | case1 => exact List.suffix_refl _
  | case2 => exact List.suffix_refl _
  | case3 token rest => exact List.suffix_cons token rest
  | case4 token rest _ _ ih => exact ih.trans (List.suffix_cons token rest)

theorem keeps_skipLine : skipLine.Keeps :=
  fun cursor => ⟨trivial, afterLine_suffix cursor.ahead⟩

theorem keeps_expect (kind : TokenKind) : (expect kind).Keeps := by
  refine yields_bind keeps_peek fun token => ?_
  split
  · exact yields_bind keeps_report fun _ => yields_bind keeps_skip fun _ => yields_pure trivial
  · exact yields_bind keeps_skip fun _ => yields_pure trivial

theorem keeps_expectWord (name : String) : (expectWord name).Keeps := by
  refine yields_bind keeps_peek fun token => ?_
  split
  · exact keeps_skip
  · exact keeps_report

/-! ## Expressions -/

theorem keeps_parentheses : parentheses.Keeps :=
  yields_bind (keeps_expect _) fun _ => yields_bind (keeps_expect _) fun _ => yields_pure trivial

theorem keeps_noAtom (token : Token) : (noAtom token).Keeps :=
  yields_bind (keeps_note _) fun _ => yields_bind keeps_skipLine fun _ => yields_pure trivial

theorem keeps_wordAtom (word : String) : (wordAtom word).Keeps := by
  have asks : ∀ query, (question query).Keeps :=
    fun _ => yields_bind keeps_parentheses fun _ => yields_pure trivial
  unfold wordAtom
  split
  · exact yields_done trivial
  · split
    · exact asks .enemy
    · split
      · exact asks .alive
      · exact yields_done trivial

theorem keeps_applySign (left : Expr) (sign : Token) (right : Expr) :
    (applySign left sign right).Keeps := by
  unfold applySign
  split
  · exact yields_done trivial
  · exact yields_bind keeps_report fun _ => yields_pure trivial

mutual

theorem atom_suffix (cursor : Cursor) : (atom cursor).val.rest.ahead <:+ cursor.ahead := by
  match cursor with
  | ⟨[], beyond⟩ =>
    rw [atom_nil]
    exact (keeps_noAtom beyond _).2
  | ⟨token :: tokens, beyond⟩ =>
    rw [atom_cons]
    have shorter : tokens <:+ token :: tokens := List.suffix_cons token tokens
    have decreases : Cursor.size ⟨tokens, beyond⟩ < Cursor.size ⟨token :: tokens, beyond⟩ :=
      Nat.lt_succ_self _
    split
    · exact (keeps_wordAtom token.text _).2.trans shorter
    · exact shorter
    · exact shorter
    · have inner := expression_suffix ⟨tokens, beyond⟩
      exact ((keeps_expect .rightParen _).2.trans inner).trans shorter
    · exact (keeps_noAtom token _).2
termination_by 3 * cursor.size + 1

theorem expression_suffix (cursor : Cursor) :
    (expression cursor).val.rest.ahead <:+ cursor.ahead := by
  rw [expression_eq]
  have first := atom_suffix cursor
  have fits := (atom cursor).property
  show (afterAtom (atom cursor).val.value (atom cursor).val.rest).val.rest.ahead <:+ cursor.ahead
  cases (atom cursor).val.value with
  | none => exact first
  | some left => exact (chain_suffix left _).trans first
termination_by 3 * cursor.size + 2

theorem chain_suffix (left : Expr) (cursor : Cursor) :
    (chain left cursor).val.rest.ahead <:+ cursor.ahead := by
  match cursor with
  | ⟨[], beyond⟩ =>
    have nothing : (chain left ⟨[], beyond⟩).val.rest.ahead = [] :=
      congrArg (·.rest.ahead) (chain_nil left beyond)
    exact nothing.symm ▸ List.nil_suffix
  | ⟨sign :: tokens, beyond⟩ =>
    rw [chain_cons]
    have decreases : Cursor.size ⟨tokens, beyond⟩ < Cursor.size ⟨sign :: tokens, beyond⟩ :=
      Nat.lt_succ_self _
    split
    · have later : ∀ joined : Reading Expr,
          joined.rest.size ≤ Cursor.size ⟨tokens, beyond⟩ →
          joined.rest.ahead <:+ tokens →
          (chain joined.value joined.rest).val.rest.ahead <:+ sign :: tokens := by
        intro joined fits second
        exact ((chain_suffix joined.value joined.rest).trans second).trans
          (List.suffix_cons sign tokens)
      have second := atom_suffix ⟨tokens, beyond⟩
      refine later _ ?_ ?_
      · exact Nat.le_trans (applySign left sign _ _).property (atom ⟨tokens, beyond⟩).property
      · exact (keeps_applySign left sign _ _).2.trans second
    · exact List.suffix_refl _
termination_by 3 * cursor.size

end

theorem keeps_expression : Keeps expression :=
  fun cursor => ⟨trivial, expression_suffix cursor⟩

/-! ## Items -/

theorem keeps_bearing (assigned : List String) : (bearing assigned).Keeps := by
  refine yields_bind keeps_peek fun token => yields_bind ?_ fun _ => ?_
  · unfold bearingAt
    split
    · exact yields_done trivial
    · split
      · exact yields_done trivial
      · exact yields_bind keeps_report fun _ => yields_pure trivial
  · exact yields_bind (keeps_expectWord _) fun _ => yields_pure trivial

theorem keeps_directionWord : directionWord.Keeps := by
  refine yields_bind keeps_peek fun token => ?_
  dsimp only
  split
  · exact yields_bind keeps_report fun _ => yields_bind (keeps_expectWord _) fun _ =>
      yields_pure trivial
  · exact yields_bind (keeps_expectWord _) fun _ => yields_pure trivial

theorem keeps_inParentheses {inner : Reader α} (keeps : inner.Keeps) :
    (inParentheses inner).Keeps :=
  yields_bind (keeps_expect _) fun _ => yields_bind keeps fun _ =>
      yields_bind (keeps_expect _) fun _ =>
    yields_pure trivial

theorem keeps_headerAssignment : headerAssignment.Keeps := by
  refine yields_bind keeps_peek fun target => yields_bind keeps_peekSecond fun sign => ?_
  split
  · exact yields_bind keeps_skip fun _ => yields_bind keeps_skip fun _ =>
        yields_bind keeps_expression fun _ =>
      yields_pure trivial
  · exact yields_bind keeps_report fun _ => yields_pure trivial

theorem keeps_countedHeader : countedHeader.Keeps :=
  yields_bind (keeps_expect _) fun _ => yields_bind keeps_headerAssignment fun _ =>
    yields_bind keeps_expression fun _ => yields_bind keeps_headerAssignment fun _ =>
    yields_bind (keeps_expect _) fun _ => yields_pure trivial

theorem yields_unexpected (token : Token) : (unexpected token).Yields Item.Sound :=
  yields_bind keeps_report fun _ => yields_bind keeps_skipLine fun _ => yields_pure trivial

/-- A statement that opens no block is sound, whether it could be read or not. -/
theorem sound_statementItem {make : β → Statement}
    (plain : ∀ value, (make value).finish? = none) (value? : Option β) :
    (statementItem (value?.map make)).Sound := by
  cases value? with
  | none => trivial
  | some value => exact plain value

theorem yields_attack (assigned : List String) : (attack assigned).Yields Item.Sound := by
  refine yields_bind keeps_peek fun token => ?_
  split
  · exact yields_bind keeps_skip fun _ =>
        yields_bind (keeps_inParentheses (keeps_bearing assigned)) fun value? =>
      yields_pure (sound_statementItem (fun _ => rfl) value?)
  · split
    · exact yields_bind keeps_skip fun _ =>
          yields_bind (keeps_inParentheses keeps_directionWord) fun value? =>
        yields_pure (sound_statementItem (fun _ => rfl) value?)
    · exact yields_unexpected token

theorem yields_instruction (assigned : List String) (token : Token) :
    (instruction assigned token).Yields Item.Sound := by
  unfold instruction
  split
  · exact yields_bind keeps_expression fun _ => yields_pure rfl
  · exact yields_bind (keeps_expect _) fun _ => yields_pure rfl
  · exact yields_bind (keeps_expect _) fun _ => yields_pure rfl
  · exact yields_bind (keeps_inParentheses (keeps_bearing assigned)) fun value? =>
      yields_pure (sound_statementItem (fun _ => rfl) value?)
  · exact yields_attack assigned
  · exact yields_bind keeps_parentheses fun _ => yields_pure rfl
  · exact yields_bind keeps_expression fun _ => yields_pure trivial
  · exact yields_bind keeps_expression fun _ => yields_pure trivial
  · exact yields_bind keeps_countedHeader fun _ => yields_pure trivial
  · exact yields_pure trivial
  · exact yields_pure trivial
  · exact yields_pure trivial
  · exact yields_pure trivial
  · exact yields_unexpected token

theorem yields_item (assigned : List String) {token : Token}
    (lettered : token.kind = .label → Text.StartsWithLetter token.text) :
    (Reader.item assigned token).Yields Item.Sound := by
  unfold Reader.item
  split
  · next isLabel => exact yields_pure (lettered isLabel)
  · refine yields_bind keeps_peek fun follower => ?_
    split
    · exact yields_bind keeps_skip fun _ => yields_bind keeps_expression fun _ => yields_pure rfl
    · exact yields_instruction assigned token
  · exact yields_unexpected token

end Reader

/-- The items that are read from tokens whose labels start with a letter are sound. -/
theorem Item.sound_readFrom {assigned : List String} {tokens : List Token} {beyond : Token}
    (lettered : ∀ token ∈ tokens, token.kind = .label → Text.StartsWithLetter token.text) :
    ∀ entry ∈ Item.readFrom assigned ⟨tokens, beyond⟩, entry.1.Sound := by
  match tokens with
  | [] =>
    rw [readFrom_nil]
    exact nofun
  | token :: tokens =>
    have later : ∀ token ∈ tokens, token.kind = .label → Text.StartsWithLetter token.text :=
      fun token member => lettered token (List.mem_cons_of_mem _ member)
    rw [readFrom_cons]
    split
    · exact nofun
    · exact sound_readFrom later
    · obtain ⟨sound, suffix⟩ :=
        Reader.yields_item assigned (lettered token List.mem_cons_self) ⟨tokens, beyond⟩
      intro entry member
      rcases List.mem_cons.mp member with rfl | member
      · exact sound
      · have fits : (Reader.item assigned token ⟨tokens, beyond⟩).val.rest.ahead.length ≤
            tokens.length :=
          suffix.length_le
        exact sound_readFrom (fun token member => later token (suffix.mem member)) entry member
termination_by tokens.length

end RobotScript
