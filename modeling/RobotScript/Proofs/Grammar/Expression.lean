import RobotScript.Proofs.Grammar

/-!
# Readers that find nothing wrong

`Reader.Takes reader cursor value rest` says that a reader finds nothing wrong, gives the value, and
leaves the cursor `rest`. For each reader one equivalence says when that is so.
`takes_expression_iff` is the main result: the reader of expressions takes exactly what the grammar
reads.

From the reader to the grammar the induction is on the number of tokens, as in the recursion of the
readers. From the grammar to the reader it is on the derivation.
-/

namespace RobotScript

namespace Reader

variable {α β : Type}

/-- The reader finds nothing wrong, gives the value, and leaves the cursor `rest`. -/
def Takes (reader : Reader α) (cursor : Cursor) (value : α) (rest : Cursor) : Prop :=
  (reader cursor).val = ⟨value, [], rest⟩

/-! ## Basic readers -/

theorem takes_of_clean {reader : Reader α} {cursor : Cursor}
    (clean : (reader cursor).val.findings = []) :
    reader.Takes cursor (reader cursor).val.value (reader cursor).val.rest := by
  unfold Takes
  rw [← clean]

theorem takes_done {value given : α} {cursor rest : Cursor} :
    (done value).Takes cursor given rest ↔ given = value ∧ rest = cursor := by
  unfold Takes done
  constructor
  · intro same
    cases same
    exact ⟨rfl, rfl⟩
  · rintro ⟨rfl, rfl⟩
    rfl

/-- What a reader gives, followed by what another gives after it. -/
theorem val_andThen {reader : Reader α} {following : α → Reader β}
    {cursor rest : Cursor} {value : α} {findings : List Finding}
    (read : (reader cursor).val = ⟨value, findings, rest⟩) :
    (reader.andThen following cursor).val = ⟨(following value rest).val.value,
      findings ++ (following value rest).val.findings, (following value rest).val.rest⟩ := by
  have joined : ∀ reading : Reading α, reading = ⟨value, findings, rest⟩ →
      Reading.mk (following reading.value reading.rest).val.value
        (reading.findings ++ (following reading.value reading.rest).val.findings)
        (following reading.value reading.rest).val.rest = ⟨(following value rest).val.value,
          findings ++ (following value rest).val.findings, (following value rest).val.rest⟩ := by
    rintro reading rfl
    rfl
  exact joined _ read

theorem takes_andThen {reader : Reader α} {following : α → Reader β} {cursor rest : Cursor}
    {value : β} :
    (reader.andThen following).Takes cursor value rest ↔
      ∃ first middle, reader.Takes cursor first middle ∧
        (following first).Takes middle value rest := by
  constructor
  · intro same
    unfold Takes andThen at same
    simp only [Reading.mk.injEq, List.append_eq_nil_iff] at same
    obtain ⟨rfl, ⟨first, second⟩, rfl⟩ := same
    exact ⟨_, _, takes_of_clean first, takes_of_clean second⟩
  · rintro ⟨first, middle, taken, later⟩
    unfold Takes
    rw [val_andThen taken, later]
    rfl

theorem takes_bind {reader : Reader α} {following : α → Reader β} {cursor rest : Cursor}
    {value : β} :
    (reader >>= following).Takes cursor value rest ↔
      ∃ first middle, reader.Takes cursor first middle ∧
        (following first).Takes middle value rest :=
  takes_andThen

theorem takes_pure {value given : α} {cursor rest : Cursor} :
    Takes (pure value : Reader α) cursor given rest ↔ given = value ∧ rest = cursor :=
  takes_done

/-- A reader that notes something takes nothing. -/
theorem not_takes_note {finding : Finding} {cursor rest : Cursor} {value : Unit} :
    ¬ (note finding).Takes cursor value rest := by
  intro same
  unfold Takes note at same
  exact nomatch congrArg Reading.findings same

theorem not_takes_report {cause : Cause} {token : Token} {highlighted : Bool} {cursor rest : Cursor}
    {value : Unit} :
    ¬ (report cause token highlighted).Takes cursor value rest :=
  not_takes_note

theorem takes_peek {cursor rest : Cursor} {token : Token} :
    peek.Takes cursor token rest ↔ token = cursor.peek ∧ rest = cursor := by
  unfold Takes peek
  constructor
  · intro same
    cases same
    exact ⟨rfl, rfl⟩
  · rintro ⟨rfl, rfl⟩
    rfl

theorem takes_peekSecond {cursor rest : Cursor} {token : Token} :
    peekSecond.Takes cursor token rest ↔ token = cursor.next.peek ∧ rest = cursor := by
  unfold Takes peekSecond
  constructor
  · intro same
    cases same
    exact ⟨rfl, rfl⟩
  · rintro ⟨rfl, rfl⟩
    rfl

theorem takes_skip {cursor rest : Cursor} {value : Unit} :
    skip.Takes cursor value rest ↔ rest = cursor.next := by
  unfold Takes skip
  constructor
  · intro same
    cases same
    rfl
  · rintro rfl
    rfl

theorem takes_expect {kind : TokenKind} {cursor rest : Cursor} {token : Token} :
    (expect kind).Takes cursor token rest ↔ token = cursor.peek ∧ cursor.peek.kind = kind ∧
      rest = cursor.next := by
  unfold expect
  rw [takes_bind]
  constructor
  · rintro ⟨first, middle, peeked, checked⟩
    obtain ⟨rfl, rfl⟩ := takes_peek.mp peeked
    split at checked
    · obtain ⟨_, _, reported, _⟩ := takes_bind.mp checked
      exact absurd reported not_takes_report
    · next same =>
      obtain ⟨_, _, skipped, given⟩ := takes_bind.mp checked
      obtain rfl := takes_skip.mp skipped
      obtain ⟨rfl, rfl⟩ := takes_pure.mp given
      exact ⟨rfl, Decidable.not_not.mp same, rfl⟩
  · rintro ⟨rfl, same, rfl⟩
    refine ⟨cursor.peek, cursor, takes_peek.mpr ⟨rfl, rfl⟩, ?_⟩
    rw [if_neg (Decidable.not_not.mpr same)]
    exact takes_bind.mpr ⟨(), cursor.next, takes_skip.mpr rfl, takes_pure.mpr ⟨rfl, rfl⟩⟩

theorem takes_expectWord {name : String} {cursor rest : Cursor} {value : Unit} :
    (expectWord name).Takes cursor value rest ↔
      cursor.peek.kind = .word ∧ cursor.peek.text = name ∧ rest = cursor.next := by
  unfold expectWord
  rw [takes_bind]
  constructor
  · rintro ⟨first, middle, peeked, checked⟩
    obtain ⟨rfl, rfl⟩ := takes_peek.mp peeked
    split at checked
    · next same => exact ⟨same.1, same.2, takes_skip.mp checked⟩
    · exact absurd checked not_takes_report
  · rintro ⟨isWord, named, rfl⟩
    refine ⟨cursor.peek, cursor, takes_peek.mpr ⟨rfl, rfl⟩, ?_⟩
    rw [if_pos ⟨isWord, named⟩]
    exact takes_skip.mpr rfl

/-! ## Atoms, chains and expressions -/

theorem not_takes_noAtom {token : Token} {cursor rest : Cursor} {value : Option Expr} :
    ¬ (noAtom token).Takes cursor value rest := by
  intro taken
  obtain ⟨_, _, noted, _⟩ := takes_bind.mp taken
  exact not_takes_note noted

/-- An atom in parentheses, after the opening one. -/
def enclosed : Reader (Option Expr) :=
  andThen expression fun inner => (expect .rightParen).andThen fun _ => done (some inner)

/-- An expression whose first atom has been read. -/
def afterAtom : Option Expr → Reader Expr
  | none => done missing
  | some left => chain left

/-- A chain, after its first sign. -/
def afterSign (left : Expr) (sign : Token) : Reader Expr :=
  andThen atom fun right => (applySign left sign (right.getD missing)).andThen chain

theorem atom_nil (beyond : Token) :
    (atom ⟨[], beyond⟩).val = (noAtom beyond ⟨[], beyond⟩).val := by
  rw [atom]

theorem atom_cons (token : Token) (tokens : List Token) (beyond : Token) :
    (atom ⟨token :: tokens, beyond⟩).val =
      match token.kind with
      | .word => (wordAtom token.text ⟨tokens, beyond⟩).val
      | .number => (done (some (.num (tokenNumber token))) ⟨tokens, beyond⟩).val
      | .text => (done (some (.literal (.text token.text))) ⟨tokens, beyond⟩).val
      | .leftParen => (enclosed ⟨tokens, beyond⟩).val
      | _ => (noAtom token ⟨token :: tokens, beyond⟩).val := by
  rw [atom]
  split
  · next noTokens => cases noTokens
  · next first others same =>
    cases same
    cases token.kind with
    | leftParen =>
      simp only [enclosed, andThen, done, List.append_nil]
      rfl
    | _ => rfl

theorem expression_eq (cursor : Cursor) :
    (expression cursor).val = (andThen atom afterAtom cursor).val := by
  rw [expression]
  split
  · next findings rest fits read =>
    rw [val_andThen (congrArg Subtype.val read)]
    simp only [afterAtom, done, List.append_nil]
  · next left findings rest fits read =>
    rw [val_andThen (congrArg Subtype.val read)]
    rfl

theorem chain_nil (left : Expr) (beyond : Token) :
    (chain left ⟨[], beyond⟩).val = ⟨left, [], ⟨[], beyond⟩⟩ := by
  rw [chain]
  rfl

theorem chain_cons (left : Expr) (sign : Token) (tokens : List Token) (beyond : Token) :
    (chain left ⟨sign :: tokens, beyond⟩).val =
      if isSign sign then (afterSign left sign ⟨tokens, beyond⟩).val
      else (done left ⟨sign :: tokens, beyond⟩).val := by
  rw [chain]
  split
  · next noTokens => cases noTokens
  · next first others same =>
    cases same
    split
    · simp only [afterSign, andThen, List.append_assoc]
      rfl
    · rfl

/-! ## Readers at a marked end -/

/-- Where the mark beyond the end is an end mark, a token of another kind is one that is still to be
read. -/
theorem takes_expect_iff {kind : TokenKind} {tokens : List Token} {beyond token : Token}
    {rest : Cursor} (marked : beyond.kind = .endOfFile) (real : kind ≠ .endOfFile) :
    (expect kind).Takes ⟨tokens, beyond⟩ token rest ↔
      ∃ after, tokens = token :: after ∧ token.kind = kind ∧ rest = ⟨after, beyond⟩ := by
  rw [takes_expect]
  cases tokens with
  | nil =>
    constructor
    · rintro ⟨-, found, -⟩
      exact absurd (found.symm.trans marked) real
    · rintro ⟨_, same, _⟩
      exact nomatch same
  | cons first after =>
    constructor
    · rintro ⟨rfl, found, rfl⟩
      exact ⟨after, rfl, found, rfl⟩
    · rintro ⟨_, same, found, rfl⟩
      cases same
      exact ⟨rfl, found, rfl⟩

theorem takes_expectWord_iff {name : String} {tokens : List Token} {beyond : Token} {rest : Cursor}
    {value : Unit} (marked : beyond.kind = .endOfFile) :
    (expectWord name).Takes ⟨tokens, beyond⟩ value rest ↔
      ∃ word after, tokens = word :: after ∧ word.kind = .word ∧ word.text = name ∧
        rest = ⟨after, beyond⟩ := by
  rw [takes_expectWord]
  cases tokens with
  | nil =>
    constructor
    · rintro ⟨found, -, -⟩
      exact nomatch found.symm.trans marked
    · rintro ⟨_, _, same, _⟩
      exact nomatch same
  | cons first after =>
    constructor
    · rintro ⟨isWord, named, rfl⟩
      exact ⟨first, after, rfl, isWord, named, rfl⟩
    · rintro ⟨_, _, same, isWord, named, rfl⟩
      cases same
      exact ⟨isWord, named, rfl⟩

theorem takes_parentheses {tokens : List Token} {beyond : Token} {rest : Cursor} {value : Unit}
    (marked : beyond.kind = .endOfFile) :
    parentheses.Takes ⟨tokens, beyond⟩ value rest ↔
      ∃ opening closing after, tokens = opening :: closing :: after ∧
        opening.kind = .leftParen ∧
        closing.kind = .rightParen ∧ rest = ⟨after, beyond⟩ := by
  unfold parentheses
  rw [takes_bind]
  constructor
  · rintro ⟨opening, middle, opened, closed⟩
    obtain ⟨_, rfl, opens, rfl⟩ := (takes_expect_iff marked (by decide)).mp opened
    obtain ⟨closing, last, closed, given⟩ := takes_bind.mp closed
    obtain ⟨after, rfl, closes, rfl⟩ := (takes_expect_iff marked (by decide)).mp closed
    obtain ⟨-, rfl⟩ := takes_pure.mp given
    exact ⟨opening, closing, after, rfl, opens, closes, rfl⟩
  · rintro ⟨opening, closing, after, rfl, opens, closes, rfl⟩
    refine ⟨opening, ⟨closing :: after, beyond⟩,
      (takes_expect_iff marked (by decide)).mpr ⟨_, rfl, opens, rfl⟩, ?_⟩
    refine takes_bind.mpr
      ⟨closing, ⟨after, beyond⟩,
        (takes_expect_iff marked (by decide)).mpr ⟨_, rfl, closes, rfl⟩, ?_⟩
    exact takes_pure.mpr ⟨rfl, rfl⟩

theorem takes_question {query : Query} {tokens : List Token} {beyond : Token} {rest : Cursor}
    {value : Option Expr} (marked : beyond.kind = .endOfFile) :
    (question query).Takes ⟨tokens, beyond⟩ value rest ↔
      value = some (.ask query) ∧ ∃ opening closing after,
        tokens = opening :: closing :: after ∧
        opening.kind = .leftParen ∧ closing.kind = .rightParen ∧
          rest = ⟨after, beyond⟩ := by
  unfold question
  rw [takes_bind]
  constructor
  · rintro ⟨_, middle, enclosed, given⟩
    obtain ⟨rfl, rfl⟩ := takes_pure.mp given
    exact ⟨rfl, (takes_parentheses marked).mp enclosed⟩
  · rintro ⟨rfl, enclosed⟩
    exact ⟨(), rest, (takes_parentheses marked).mpr enclosed, takes_pure.mpr ⟨rfl, rfl⟩⟩

theorem takes_enclosed {tokens : List Token} {beyond : Token} {rest : Cursor}
    {value : Option Expr} :
    enclosed.Takes ⟨tokens, beyond⟩ value rest ↔
      ∃ inner middle closing, Takes expression ⟨tokens, beyond⟩ inner middle ∧
        (expect .rightParen).Takes middle closing rest ∧ value = some inner := by
  refine takes_andThen.trans ?_
  constructor
  · rintro ⟨inner, middle, read, later⟩
    obtain ⟨closing, _, closed, given⟩ := takes_andThen.mp later
    obtain ⟨rfl, rfl⟩ := takes_done.mp given
    exact ⟨inner, middle, closing, read, closed, rfl⟩
  · rintro ⟨inner, middle, closing, read, closed, rfl⟩
    exact ⟨inner, middle, read,
      takes_andThen.mpr ⟨closing, rest, closed, takes_done.mpr ⟨rfl, rfl⟩⟩⟩

theorem takes_applySign {left right expr : Expr} {sign : Token} {cursor rest : Cursor} :
    (applySign left sign right).Takes cursor expr rest ↔
      ∃ op, Operator.ofSymbol? sign.text = some op ∧ expr = .binary op left right ∧
        rest = cursor := by
  unfold applySign
  split
  · next op named =>
    rw [takes_done]
    constructor
    · rintro ⟨rfl, rfl⟩
      exact ⟨op, named, rfl, rfl⟩
    · rintro ⟨_, same, rfl, rfl⟩
      cases named.symm.trans same
      exact ⟨rfl, rfl⟩
  · next unnamed =>
    constructor
    · intro taken
      obtain ⟨_, _, reported, _⟩ := takes_bind.mp taken
      exact absurd reported not_takes_report
    · rintro ⟨_, same, _⟩
      exact nomatch unnamed.symm.trans same

theorem takes_afterSign {left expr : Expr} {sign : Token} {cursor rest : Cursor} :
    (afterSign left sign).Takes cursor expr rest ↔
      ∃ right middle op, Takes atom cursor right middle ∧
        Operator.ofSymbol? sign.text = some op ∧
        Takes (chain (.binary op left (right.getD missing))) middle expr rest := by
  refine takes_andThen.trans ?_
  constructor
  · rintro ⟨right, middle, read, later⟩
    obtain ⟨_, _, applied, more⟩ := takes_andThen.mp later
    obtain ⟨op, named, rfl, rfl⟩ := takes_applySign.mp applied
    exact ⟨right, _, op, read, named, more⟩
  · rintro ⟨right, middle, op, read, named, more⟩
    exact ⟨right, middle, read,
      takes_andThen.mpr ⟨_, _, takes_applySign.mpr ⟨op, named, rfl, rfl⟩, more⟩⟩

theorem Takes.size_le {reader : Reader α} {cursor rest : Cursor} {value : α}
    (taken : reader.Takes cursor value rest) :
    rest.size ≤ cursor.size := by
  have fits := (reader cursor).property
  rw [taken] at fits
  exact fits

end Reader

namespace Grammar

open Reader

/-! ## From the reader to the grammar -/

/-- What is read as a word in an expression is an atom of the grammar. -/
theorem reads_of_wordAtom {word beyond : Token} {tokens : List Token} {value : Option Expr}
    {rest : Cursor} (marked : beyond.kind = .endOfFile) (isWord : word.kind = .word)
    (taken : (wordAtom word.text).Takes ⟨tokens, beyond⟩ value rest) :
    ∃ expr after, value = some expr ∧ rest = ⟨after, beyond⟩ ∧
      Reads .atom (word :: tokens) expr after := by
  unfold wordAtom at taken
  split at taken
  · next direction named =>
    obtain ⟨rfl, rfl⟩ := takes_done.mp taken
    exact ⟨_, tokens, rfl, rfl, .direction isWord named⟩
  · next noDirection =>
    split at taken
    · next named =>
      obtain ⟨rfl, opening, closing, after, rfl, opens, closes, rfl⟩ :=
        (takes_question marked).mp taken
      exact ⟨_, after, rfl, rfl,
        .question isWord (show word.text = questionWord .enemy from named) opens closes⟩
    · next notEnemy =>
      split at taken
      · next named =>
        obtain ⟨rfl, opening, closing, after, rfl, opens, closes, rfl⟩ :=
          (takes_question marked).mp taken
        exact ⟨_, after, rfl, rfl, .question isWord named opens closes⟩
      · next notAlive =>
        obtain ⟨rfl, rfl⟩ := takes_done.mp taken
        exact ⟨_, tokens, rfl, rfl, .var isWord noDirection notEnemy notAlive⟩

mutual

theorem reads_of_atom {tokens : List Token} {beyond : Token} {value : Option Expr} {rest : Cursor}
    (marked : beyond.kind = .endOfFile) (taken : Takes atom ⟨tokens, beyond⟩ value rest) :
    ∃ expr after, value = some expr ∧ rest = ⟨after, beyond⟩ ∧
      Reads .atom tokens expr after := by
  unfold Takes at taken
  match tokens with
  | [] =>
    rw [atom_nil] at taken
    exact absurd taken not_takes_noAtom
  | token :: tokens =>
    rw [atom_cons] at taken
    split at taken
    · next isWord => exact reads_of_wordAtom marked isWord taken
    · next isNumber =>
      obtain ⟨rfl, rfl⟩ := takes_done.mp taken
      exact ⟨_, tokens, rfl, rfl, .number isNumber⟩
    · next isText =>
      obtain ⟨rfl, rfl⟩ := takes_done.mp taken
      exact ⟨_, tokens, rfl, rfl, .text isText⟩
    · next opens =>
      obtain ⟨inner, middle, closing, read, closed, rfl⟩ := takes_enclosed.mp taken
      obtain ⟨_, rfl, reads⟩ := reads_of_expression marked read
      obtain ⟨after, rfl, closes, rfl⟩ := (takes_expect_iff marked (by decide)).mp closed
      exact ⟨inner, after, rfl, rfl, .parentheses opens reads closes⟩
    · exact absurd taken not_takes_noAtom
termination_by 3 * tokens.length + 1

theorem reads_of_expression {tokens : List Token} {beyond : Token} {expr : Expr} {rest : Cursor}
    (marked : beyond.kind = .endOfFile) (taken : Takes expression ⟨tokens, beyond⟩ expr rest) :
    ∃ after, rest = ⟨after, beyond⟩ ∧ Reads .expression tokens expr after := by
  unfold Takes at taken
  rw [expression_eq] at taken
  obtain ⟨value, middle, read, more⟩ := takes_andThen.mp taken
  obtain ⟨left, following, rfl, rfl, first⟩ := reads_of_atom marked read
  have fits : following.length ≤ tokens.length := read.size_le
  obtain ⟨after, rfl, chained⟩ := reads_of_chain marked more
  exact ⟨after, rfl, .expression first chained⟩
termination_by 3 * tokens.length + 2

theorem reads_of_chain {left : Expr} {tokens : List Token} {beyond : Token} {expr : Expr}
    {rest : Cursor} (marked : beyond.kind = .endOfFile)
    (taken : Takes (chain left) ⟨tokens, beyond⟩ expr rest) :
    ∃ after, rest = ⟨after, beyond⟩ ∧ Reads (.chain left) tokens expr after := by
  unfold Takes at taken
  match tokens with
  | [] =>
    rw [chain_nil] at taken
    cases taken
    exact ⟨[], rfl, .noMore nofun⟩
  | sign :: tokens =>
    rw [chain_cons] at taken
    split at taken
    · next isSign =>
      obtain ⟨value, middle, op, read, named, more⟩ := takes_afterSign.mp taken
      obtain ⟨right, following, rfl, rfl, second⟩ := reads_of_atom marked read
      have fits : following.length ≤ tokens.length := read.size_le
      obtain ⟨after, rfl, chained⟩ := reads_of_chain marked more
      exact ⟨after, rfl, .operator isSign named second chained⟩
    · next noSign =>
      obtain ⟨rfl, rfl⟩ := takes_done.mp taken
      refine ⟨sign :: tokens, rfl, .noMore ?_⟩
      rintro token ⟨⟩
      exact Bool.eq_false_iff.mpr noSign
termination_by 3 * tokens.length

end

/-! ## From the grammar to the reader -/

theorem wordAtom_questionWord (query : Query) : wordAtom (questionWord query) = question query := by
  cases query with
  | enemy => rfl
  | alive => rfl

/-- The reader for a phrase takes the tokens before the rest and gives the expression. -/
def Phrase.Taken (beyond : Token) : Phrase → List Token → Expr → List Token → Prop
  | .atom, tokens, expr, rest =>
    Takes Reader.atom ⟨tokens, beyond⟩ (some expr) ⟨rest, beyond⟩
  | .expression, tokens, expr, rest =>
    Takes Reader.expression ⟨tokens, beyond⟩ expr ⟨rest, beyond⟩
  | .chain left, tokens, expr, rest =>
    Takes (Reader.chain left) ⟨tokens, beyond⟩ expr ⟨rest, beyond⟩

theorem taken_of_reads {beyond : Token} (marked : beyond.kind = .endOfFile) {phrase : Phrase}
    {tokens rest : List Token} {expr : Expr} (reads : Reads phrase tokens expr rest) :
    phrase.Taken beyond tokens expr rest := by
  induction reads with
  | direction isWord named =>
    show (atom _).val = _
    rw [atom_cons]
    simp only [isWord, wordAtom, named]
    rfl
  | @question word opening closing query rest isWord named opens closes =>
    show (atom _).val = _
    rw [atom_cons]
    simp only [isWord, named, wordAtom_questionWord]
    exact (takes_question marked).mpr ⟨rfl, opening, closing, rest, rfl, opens, closes, rfl⟩
  | var isWord noDirection notEnemy notAlive =>
    show (atom _).val = _
    rw [atom_cons]
    simp only [isWord, wordAtom, noDirection, if_neg notEnemy, if_neg notAlive]
    rfl
  | number isNumber =>
    show (atom _).val = _
    rw [atom_cons]
    simp only [isNumber]
    rfl
  | text isText =>
    show (atom _).val = _
    rw [atom_cons]
    simp only [isText]
    rfl
  | parentheses opens inner closes ih =>
    show (atom _).val = _
    rw [atom_cons]
    simp only [opens]
    exact takes_enclosed.mpr ⟨_, _, _, ih,
      (takes_expect_iff marked (by decide)).mpr ⟨_, rfl, closes, rfl⟩, rfl⟩
  | expression first more ihFirst ihMore =>
    show (expression _).val = _
    rw [expression_eq]
    exact takes_andThen.mpr ⟨_, _, ihFirst, ihMore⟩
  | @noMore left rest noSign =>
    show (chain _ _).val = _
    cases rest with
    | nil => exact chain_nil left beyond
    | cons token rest =>
      rw [chain_cons, if_neg (Bool.eq_false_iff.mp (noSign token rfl))]
      rfl
  | operator isSign named second more ihSecond ihMore =>
    show (chain _ _).val = _
    rw [chain_cons, if_pos isSign]
    exact takes_afterSign.mpr ⟨_, _, _, ihSecond, named, ihMore⟩

/-- The reader of expressions finds nothing wrong with exactly what the grammar reads, and gives the
same expression. -/
theorem takes_expression_iff {tokens : List Token} {beyond : Token} {expr : Expr} {rest : Cursor}
    (marked : beyond.kind = .endOfFile) :
    Takes expression ⟨tokens, beyond⟩ expr rest ↔
      ∃ after, rest = ⟨after, beyond⟩ ∧ Reads .expression tokens expr after := by
  constructor
  · exact reads_of_expression marked
  · rintro ⟨after, rfl, reads⟩
    exact taken_of_reads marked reads

end Grammar

end RobotScript
