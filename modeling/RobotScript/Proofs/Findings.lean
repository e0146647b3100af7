import RobotScript.Proofs.Blocks
import RobotScript.Proofs.Reading

/-!
# Where readers note what is wrong

A reader goes through the tokens from the first to the last and notes what is wrong at the token
that is next. `Marks` is such a way through the tokens, with the places at which something is noted.
`Reader.Tracks` says that a reader keeps to one.

An operator that is not known is noted after its right operand, and so out of order. The signs of a
script are all known, and `Cursor.SignsKnown` says so of the tokens that are still to be read.

`comesTo_item` is the main result: what reading an item can come to.
-/

namespace RobotScript

namespace Finding

/-- The place of a finding. -/
def place? : Finding → Option Place
  | plain diagnostic => diagnostic.place
  | malformed token => some token.place

/-- The cause of a finding. -/
def cause : Finding → Cause
  | plain diagnostic => diagnostic.cause
  | malformed _ => .malformedExpression

@[simp] theorem place_diagnose (innermost : Option Block) (finding : Finding) :
    (finding.diagnose innermost).place = finding.place? := by
  cases finding <;> rfl

@[simp] theorem cause_diagnose (innermost : Option Block) (finding : Finding) :
    (finding.diagnose innermost).cause = finding.cause := by
  cases finding <;> rfl

end Finding

/-! ## Ways through the tokens -/

/-- `Marks beyond tokens places rest`: from the tokens on to the rest, something is noted at the
places, each time at the token that is next. Behind the last token that is the mark beyond it. -/
inductive Marks (beyond : Token) : List Token → List (Option Place) → List Token → Prop
  | stop {tokens : List Token} : Marks beyond tokens [] tokens
  | note {tokens rest : List Token} {places : List (Option Place)}
      (later : Marks beyond tokens places rest) :
      Marks beyond tokens (some (tokens.headD beyond).place :: places) rest
  | pass {token : Token} {tokens rest : List Token} {places : List (Option Place)}
      (later : Marks beyond tokens places rest) : Marks beyond (token :: tokens) places rest

namespace Marks

variable {beyond : Token} {tokens middle rest : List Token} {places more : List (Option Place)}

theorem trans (first : Marks beyond tokens places middle) (second : Marks beyond middle more rest) :
    Marks beyond tokens (places ++ more) rest := by
  induction first with
  | stop => exact second
  | note _ ih => exact .note (ih second)
  | pass _ ih => exact .pass (ih second)

theorem suffix (marks : Marks beyond tokens places rest) : rest <:+ tokens := by
  induction marks with
  | stop => exact List.suffix_refl _
  | note _ ih => exact ih
  | pass _ ih => exact ih.trans (List.suffix_cons _ _)

theorem of_suffix (suffix : rest <:+ tokens) : Marks beyond tokens [] rest := by
  obtain ⟨before, rfl⟩ := suffix
  induction before with
  | nil => exact .stop
  | cons token before ih => exact .pass ih

end Marks

/-- Every sign that is still to be read is one of an operator. -/
def Cursor.SignsKnown (cursor : Cursor) : Prop :=
  ∀ token ∈ cursor.ahead, Reader.isSign token = true →
    ∃ op, Operator.ofSymbol? token.text = some op

/-- What was wrong was noted on the way from the cursor to the rest, and none of it is a line that
starts no item. -/
structure Reading.Tracks {α : Type} (cursor : Cursor) (reading : Reading α) : Prop where
  beyond : reading.rest.beyond = cursor.beyond
  marks : Marks cursor.beyond cursor.ahead (reading.findings.map Finding.place?) reading.rest.ahead
  expected : ∀ finding ∈ reading.findings, finding.cause ≠ .unexpectedInstruction

/-- A token is passed before the rest is read. -/
theorem Reading.Tracks.pass {α : Type} {token beyond : Token} {tokens : List Token}
    {reading : Reading α} (tracks : reading.Tracks ⟨tokens, beyond⟩) :
    reading.Tracks ⟨token :: tokens, beyond⟩ :=
  ⟨tracks.beyond, tracks.marks.pass, tracks.expected⟩

namespace Reader

variable {α β : Type} {cursor : Cursor}

/-- Where all signs are known, the reader notes what is wrong on its way. -/
def Tracks (reader : Reader α) (cursor : Cursor) : Prop :=
  cursor.SignsKnown → (reader cursor).val.Tracks cursor

/-! ## Basic readers -/

theorem tracks_andThen {reader : Reader α} {following : α → Reader β}
    (first : reader.Tracks cursor)
    (later : (following (reader cursor).val.value).Tracks (reader cursor).val.rest) :
    (reader.andThen following).Tracks cursor := by
  intro known
  obtain ⟨sameBeyond, marks, expected⟩ := first known
  have knownLater : (reader cursor).val.rest.SignsKnown :=
    fun token member => known token (marks.suffix.mem member)
  obtain ⟨beyondLater, marksLater, expectedLater⟩ := later knownLater
  rw [sameBeyond] at beyondLater marksLater
  refine ⟨beyondLater, ?_, ?_⟩
  · show Marks cursor.beyond cursor.ahead (List.map Finding.place? (_ ++ _)) _
    rw [List.map_append]
    exact marks.trans marksLater
  · exact List.forall_mem_append.mpr ⟨expected, expectedLater⟩

theorem tracks_bind {reader : Reader α} {following : α → Reader β}
    (first : reader.Tracks cursor)
    (later : (following (reader cursor).val.value).Tracks (reader cursor).val.rest) :
    (reader >>= following).Tracks cursor :=
  tracks_andThen first later

theorem tracks_done (value : α) : (done value).Tracks cursor :=
  fun _ => ⟨rfl, .stop, by simp [done]⟩

theorem tracks_pure (value : α) : Tracks (pure value : Reader α) cursor :=
  tracks_done value

theorem tracks_peek : peek.Tracks cursor :=
  fun _ => ⟨rfl, .stop, by simp [peek]⟩

theorem tracks_peekSecond : peekSecond.Tracks cursor :=
  fun _ => ⟨rfl, .stop, by simp [peekSecond]⟩

theorem tracks_skip : skip.Tracks cursor :=
  fun _ => ⟨rfl, .of_suffix (List.tail_suffix cursor.ahead), by simp [skip]⟩

theorem tracks_skipLine : skipLine.Tracks cursor :=
  fun _ => ⟨rfl, .of_suffix (afterLine_suffix cursor.ahead), by simp [skipLine]⟩

/-- What is noted at the next token is in order. -/
theorem tracks_note {finding : Finding} (here : finding.place? = some cursor.peek.place)
    (expected : finding.cause ≠ .unexpectedInstruction) : (note finding).Tracks cursor := by
  refine fun _ => ⟨rfl, ?_, List.forall_mem_singleton.mpr expected⟩
  show Marks cursor.beyond cursor.ahead [finding.place?] cursor.ahead
  rw [here]
  exact .note .stop

theorem tracks_report {cause : Cause} {highlighted : Bool}
    (expected : cause ≠ .unexpectedInstruction) :
    (report cause cursor.peek highlighted).Tracks cursor :=
  tracks_note rfl expected

theorem tracks_expect (kind : TokenKind) : (expect kind).Tracks cursor := by
  refine tracks_bind tracks_peek ?_
  show Tracks (if cursor.peek.kind ≠ kind then _ else _) cursor
  split
  · exact tracks_bind (tracks_report Cause.noConfusion) (tracks_bind tracks_skip (tracks_pure _))
  · exact tracks_bind tracks_skip (tracks_pure _)

theorem tracks_expectWord (name : String) : (expectWord name).Tracks cursor := by
  refine tracks_bind tracks_peek ?_
  show Tracks (if cursor.peek.kind = .word ∧ cursor.peek.text = name then _ else _) cursor
  split
  · exact tracks_skip
  · exact tracks_report Cause.noConfusion

/-! ## Expressions -/

theorem tracks_parentheses : parentheses.Tracks cursor :=
  tracks_bind (tracks_expect _) (tracks_bind (tracks_expect _) (tracks_pure _))

theorem tracks_noAtom : (noAtom cursor.peek).Tracks cursor :=
  tracks_bind (tracks_note rfl Cause.noConfusion) (tracks_bind tracks_skipLine (tracks_pure _))

theorem tracks_wordAtom (word : String) : (wordAtom word).Tracks cursor := by
  have asks : ∀ query, (question query).Tracks cursor :=
    fun _ => tracks_bind tracks_parentheses (tracks_pure _)
  unfold wordAtom
  split
  · exact tracks_done _
  · split
    · exact asks .enemy
    · split
      · exact asks .alive
      · exact tracks_done _

/-- The sign of an operator is noted nowhere. -/
theorem tracks_applySign {sign : Token} {op : Operator}
    (named : Operator.ofSymbol? sign.text = some op) (left right : Expr) :
    (applySign left sign right).Tracks cursor := by
  unfold applySign
  rw [named]
  exact tracks_done _

mutual

theorem tracks_atom (cursor : Cursor) : Tracks atom cursor := by
  intro known
  match cursor with
  | ⟨[], beyond⟩ =>
    rw [atom_nil]
    exact tracks_noAtom known
  | ⟨token :: tokens, beyond⟩ =>
    rw [atom_cons]
    have decreases : Cursor.size ⟨tokens, beyond⟩ < Cursor.size ⟨token :: tokens, beyond⟩ :=
      Nat.lt_succ_self _
    have later : Cursor.SignsKnown ⟨tokens, beyond⟩ :=
      fun other member => known other (List.mem_cons_of_mem _ member)
    split
    · exact (tracks_wordAtom token.text later).pass
    · exact (tracks_done _ later).pass
    · exact (tracks_done _ later).pass
    · refine (tracks_andThen (tracks_expression ⟨tokens, beyond⟩) ?_ later).pass
      exact tracks_andThen (tracks_expect .rightParen) (tracks_done (some _))
    · exact tracks_noAtom known
termination_by 3 * cursor.size + 1

theorem tracks_expression (cursor : Cursor) : Tracks expression cursor := by
  intro known
  rw [expression_eq]
  have fits := (atom cursor).property
  refine tracks_andThen (tracks_atom cursor) ?_ known
  generalize (atom cursor).val.value = first
  cases first with
  | none => exact tracks_done _
  | some left => exact tracks_chain left (atom cursor).val.rest
termination_by 3 * cursor.size + 2

theorem tracks_chain (left : Expr) (cursor : Cursor) : Tracks (chain left) cursor := by
  intro known
  match cursor with
  | ⟨[], beyond⟩ =>
    rw [chain_nil]
    exact tracks_done left known
  | ⟨sign :: tokens, beyond⟩ =>
    rw [chain_cons]
    have decreases : Cursor.size ⟨tokens, beyond⟩ < Cursor.size ⟨sign :: tokens, beyond⟩ :=
      Nat.lt_succ_self _
    have later : Cursor.SignsKnown ⟨tokens, beyond⟩ :=
      fun other member => known other (List.mem_cons_of_mem _ member)
    split
    · next isSign =>
      obtain ⟨op, named⟩ := known sign List.mem_cons_self isSign
      have goesOn : ∀ joined : Reading Expr,
          joined.rest.size ≤ Cursor.size ⟨tokens, beyond⟩ →
          Tracks (chain joined.value) joined.rest :=
        fun joined fits => tracks_chain joined.value joined.rest
      refine (tracks_andThen (tracks_atom ⟨tokens, beyond⟩)
        (tracks_andThen (tracks_applySign named _ _) ?_) later).pass
      exact goesOn _
        (Nat.le_trans (applySign left sign _ _).property (atom ⟨tokens, beyond⟩).property)
    · exact tracks_done left known
termination_by 3 * cursor.size

end

/-! ## Items -/

theorem tracks_bearing (assigned : List String) : (bearing assigned).Tracks cursor := by
  refine tracks_bind tracks_peek
    (tracks_bind ?_ (tracks_bind (tracks_expectWord _) (tracks_pure _)))
  show (bearingAt assigned cursor.peek).Tracks cursor
  unfold bearingAt
  split
  · exact tracks_done _
  · split
    · exact tracks_done _
    · exact tracks_bind (tracks_report Cause.noConfusion) (tracks_pure _)

theorem tracks_directionWord : directionWord.Tracks cursor := by
  refine tracks_bind tracks_peek ?_
  show Tracks (if (Direction.ofKeyword? cursor.peek.text).isNone = true then _ else _) cursor
  split
  · exact tracks_bind (tracks_report Cause.noConfusion)
      (tracks_bind (tracks_expectWord _) (tracks_pure _))
  · exact tracks_bind (tracks_expectWord _) (tracks_pure _)

theorem tracks_inParentheses {inner : Reader α} (tracks : ∀ cursor, inner.Tracks cursor) :
    (inParentheses inner).Tracks cursor :=
  tracks_bind (tracks_expect _)
    (tracks_bind (tracks _) (tracks_bind (tracks_expect _) (tracks_pure _)))

theorem tracks_headerAssignment : headerAssignment.Tracks cursor := by
  refine tracks_bind tracks_peek (tracks_bind tracks_peekSecond ?_)
  show Tracks (if cursor.peek.kind = .word ∧ cursor.next.peek.kind = .equals then _ else _) cursor
  split
  · exact tracks_bind tracks_skip
      (tracks_bind tracks_skip (tracks_bind (tracks_expression _) (tracks_pure _)))
  · exact tracks_bind (tracks_report Cause.noConfusion) (tracks_pure _)

theorem tracks_countedHeader : countedHeader.Tracks cursor :=
  tracks_bind (tracks_expect _)
    (tracks_bind tracks_headerAssignment (tracks_bind (tracks_expression _)
    (tracks_bind tracks_headerAssignment (tracks_bind (tracks_expect _) (tracks_pure _)))))

/-- What reading an item after its first token can come to.

* The token is a joint, and it is read as that.
* The item is none, and what is wrong with it is noted on the way.
* The token, which is no joint, starts no item, or an attack goes on with no word for one. The line
  is skipped. -/
inductive Outcome (token : Token) (cursor : Cursor) : Reading Item → Prop
  | joint (joint : Joint) : Outcome token cursor ⟨joint.item token, [], cursor⟩
  | plain {reading : Reading Item} (noJoint : reading.value.joint? = none)
      (tracks : reading.Tracks cursor) :
      Outcome token cursor reading
  | unexpected
      (noJoint : token.kind = .word → ∀ joint : Joint, token.text ≠ joint.keyword.name) :
      Outcome token cursor (unexpected token cursor).val
  | attack (isWord : token.kind = .word) (named : token.text = Keyword.attaquer.name) :
      Outcome token cursor (unexpected cursor.peek cursor).val

theorem Outcome.rest {token : Token} {reading : Reading Item}
    (outcome : Outcome token cursor reading) :
    reading.rest.beyond = cursor.beyond ∧ reading.rest.ahead <:+ cursor.ahead := by
  cases outcome with
  | joint => exact ⟨rfl, List.suffix_refl _⟩
  | plain _ tracks => exact ⟨tracks.beyond, tracks.marks.suffix⟩
  | unexpected | attack => exact ⟨rfl, afterLine_suffix cursor.ahead⟩

/-- Where all signs are known, reading an item comes to one of these. -/
def ComesTo (reader : Reader Item) (token : Token) (cursor : Cursor) : Prop :=
  cursor.SignsKnown → Outcome token cursor (reader cursor).val

theorem comesTo_plain {reader : Reader Item} {token : Token}
    (noJoint : (reader cursor).val.value.joint? = none) (tracks : reader.Tracks cursor) :
    reader.ComesTo token cursor :=
  fun known => .plain noJoint (tracks known)

theorem joint?_statementItem (statement? : Option Statement) :
    (statementItem statement?).joint? = none := by
  cases statement? <;> rfl

theorem comesTo_attack (assigned : List String) {token : Token} (isWord : token.kind = .word)
    (named : token.text = Keyword.attaquer.name) : (attack assigned).ComesTo token cursor := by
  show ComesTo (if cursor.peek.kind = TokenKind.word ∧ cursor.peek.text = Keyword.tirer.name then
    _ else _) token cursor
  split
  · refine comesTo_plain (joint?_statementItem _)
      (tracks_bind tracks_skip (tracks_bind ?_ (tracks_pure _)))
    exact tracks_inParentheses fun _ => tracks_bearing assigned
  · split
    · refine comesTo_plain (joint?_statementItem _)
        (tracks_bind tracks_skip (tracks_bind ?_ (tracks_pure _)))
      exact tracks_inParentheses fun _ => tracks_directionWord
    · exact fun _ => .attack isWord named

/-- A joint that is no target of an assignment is read as such. -/
theorem instruction_joint (assigned : List String) {token : Token} {joint : Joint}
    (named : token.text = joint.keyword.name) :
    instruction assigned token = pure (joint.item token) := by
  unfold instruction
  rw [named, Keyword.ofName?_name]
  cases joint with
  | divider => rfl
  | closer block => cases block <;> rfl

theorem comesTo_instruction (assigned : List String) {token : Token} (isWord : token.kind = .word) :
    (instruction assigned token).ComesTo token cursor := by
  by_cases isJoint : ∃ joint : Joint, token.text = joint.keyword.name
  · obtain ⟨joint, named⟩ := isJoint
    rw [instruction_joint assigned named]
    exact fun _ => .joint joint
  · have noJoint : ∀ joint : Joint, Keyword.ofName? token.text ≠ some joint.keyword :=
      fun joint found => isJoint ⟨joint, Keyword.name_of_ofName? found⟩
    unfold instruction
    split
    · exact comesTo_plain rfl (tracks_bind (tracks_expression _) (tracks_pure _))
    · exact comesTo_plain rfl (tracks_bind (tracks_expect _) (tracks_pure _))
    · exact comesTo_plain rfl (tracks_bind (tracks_expect _) (tracks_pure _))
    · refine comesTo_plain (joint?_statementItem _) (tracks_bind ?_ (tracks_pure _))
      exact tracks_inParentheses fun _ => tracks_bearing assigned
    · next found => exact comesTo_attack assigned isWord (Keyword.name_of_ofName? found)
    · exact comesTo_plain rfl (tracks_bind tracks_parentheses (tracks_pure _))
    · exact comesTo_plain rfl (tracks_bind (tracks_expression _) (tracks_pure _))
    · exact comesTo_plain rfl (tracks_bind (tracks_expression _) (tracks_pure _))
    · exact comesTo_plain rfl (tracks_bind tracks_countedHeader (tracks_pure _))
    · next found => exact absurd found (noJoint .divider)
    · next found => exact absurd found (noJoint (.closer .si))
    · next found => exact absurd found (noJoint (.closer .tantque))
    · next found => exact absurd found (noJoint (.closer .pour))
    · exact fun _ => .unexpected fun _ joint named => isJoint ⟨joint, named⟩

theorem comesTo_item (assigned : List String) (token : Token) :
    (Reader.item assigned token).ComesTo token cursor := by
  unfold Reader.item
  split
  · exact comesTo_plain rfl (tracks_pure _)
  · next isWord =>
    show ComesTo (if cursor.peek.kind = .equals then _ else _) token cursor
    split
    · exact comesTo_plain rfl
        (tracks_bind tracks_skip (tracks_bind (tracks_expression _) (tracks_pure _)))
    · exact comesTo_instruction assigned isWord
  · next noWord => exact fun _ => .unexpected fun isWord => absurd isWord noWord

end Reader

end RobotScript
