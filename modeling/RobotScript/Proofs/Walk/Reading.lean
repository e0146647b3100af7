import RobotScript.Proofs.Grammar.Expression
import RobotScript.Proofs.Walk

/-!
# Walks that follow readers

What a walker still has to read is a cursor, so a walk can be compared with a reader. `Walk.Follows`
says that a walk is not broken off, gives the value of the reader, leaves what the reader leaves,
and reports what the reader finds. It speaks of the walkers that have no more than some number of
tokens ahead, and this is how the number of steps comes in.

A walker can stand beyond its last token, where all positions have the same cursor. So the position
is not part of what is compared.

`follows_expression` is the main result. The three readers of expressions call one another, and one
induction on the number of steps is for all of them.
-/

namespace RobotScript

/-- What is still to be read, the names that were assigned, and what has been laid out. -/
structure Stage where
  cursor : Cursor
  assigned : List String
  draft : Draft

namespace Draft

/-- The draft with diagnostics for findings. -/
def note (draft : Draft) (findings : List Finding) : Draft :=
  { draft with errors := draft.errors ++ findings.map (Finding.diagnose
    (draft.frames.head?.map Frame.block)) }

theorem note_nil (draft : Draft) : draft.note [] = draft := by
  simp [note]

theorem note_note (draft : Draft) (first second : List Finding) :
    (draft.note first).note second = draft.note (first ++ second) := by
  have joined (errors : Array Diagnostic) (some others : List Diagnostic) :
      errors ++ some ++ others = errors ++ (some ++ others) := Array.toList_inj.mp (by simp)
  simp only [note, List.map_append, joined]

theorem note_singleton (draft : Draft) (finding : Finding) :
    draft.note [finding] =
      draft.report (finding.diagnose (draft.frames.head?.map Frame.block)) := by
  simp [note, report]

end Draft

/-- The stage after reading. -/
def Stage.read (stage : Stage) (rest : Cursor) (findings : List Finding) : Stage :=
  ⟨rest, stage.assigned, stage.draft.note findings⟩

namespace Cursor

variable {cursor : Cursor}

theorem afterLine_of_end (isEnd : cursor.peek.kind = .endOfFile) :
    afterLine cursor.ahead = cursor.ahead := by
  obtain ⟨ahead, beyond⟩ := cursor
  cases ahead with
  | nil => rfl
  | cons token rest =>
    have kind : token.kind = .endOfFile := isEnd
    simp [afterLine, kind]

theorem afterLine_of_lineBreak (isBreak : cursor.peek.kind = .lineBreak) :
    afterLine cursor.ahead = cursor.next.ahead := by
  obtain ⟨ahead, beyond⟩ := cursor
  cases ahead with
  | nil => rfl
  | cons token rest =>
    have kind : token.kind = .lineBreak := isBreak
    simp [afterLine, kind, next]

theorem afterLine_of_other (noEnd : cursor.peek.kind ≠ .endOfFile)
    (noBreak : cursor.peek.kind ≠ .lineBreak) :
    afterLine cursor.ahead = afterLine cursor.next.ahead := by
  obtain ⟨ahead, beyond⟩ := cursor
  cases ahead with
  | nil => rfl
  | cons token rest =>
    rw [afterLine]
    split
    · next kind => exact absurd kind noEnd
    · next kind => exact absurd kind noBreak
    · rfl

/-- Beyond the last token there is only the mark, so a token of another kind is one that can be
taken. -/
theorem size_next_of_ne (marked : cursor.beyond.kind = .endOfFile)
    (noEnd : cursor.peek.kind ≠ .endOfFile) :
    cursor.next.size < cursor.size := by
  cases tokens : cursor.ahead with
  | nil =>
    refine absurd ?_ noEnd
    rw [peek, tokens]
    exact marked
  | cons token rest => exact size_next_lt tokens

end Cursor

namespace Reader

/-- An atom, by the next token. -/
theorem val_atom {cursor : Cursor} (marked : cursor.beyond.kind = .endOfFile) :
    (atom cursor).val =
      match cursor.peek.kind with
      | .word => (wordAtom cursor.peek.text cursor.next).val
      | .number => (done (some (.num (tokenNumber cursor.peek))) cursor.next).val
      | .text => (done (some (.literal (.text cursor.peek.text))) cursor.next).val
      | .leftParen => (enclosed cursor.next).val
      | _ => (noAtom cursor.peek cursor).val := by
  obtain ⟨ahead, beyond⟩ := cursor
  cases ahead with
  | nil =>
    have kind : (Cursor.mk [] beyond).peek.kind = .endOfFile := marked
    rw [atom_nil, kind]
    rfl
  | cons token rest => exact atom_cons token rest beyond

/-- A chain, by the next token. -/
theorem val_chain {cursor : Cursor} (marked : cursor.beyond.kind = .endOfFile) (left : Expr) :
    (chain left cursor).val =
      if isSign cursor.peek then (afterSign left cursor.peek cursor.next).val else
        (done left cursor).val := by
  obtain ⟨ahead, beyond⟩ := cursor
  cases ahead with
  | nil =>
    have noSign : isSign (Cursor.mk [] beyond).peek = false := by
      have kind : (Cursor.mk [] beyond).peek.kind = .endOfFile := marked
      simp [isSign, kind]
    rw [chain_nil, noSign]
    rfl
  | cons token rest => exact chain_cons left token rest beyond

end Reader

namespace Walker

/-- What a walker still has to read. -/
def cursor (walker : Walker) : Cursor :=
  ⟨walker.tokens.drop walker.position, walker.beyond⟩

/-- The stage of a walker. -/
def stage (walker : Walker) : Stage :=
  ⟨walker.cursor, walker.assigned, walker.draft⟩

variable (walker : Walker)

theorem ahead_zero : walker.ahead 0 = walker.cursor.peek := by
  simp [ahead, cursor, Cursor.peek, List.headD_eq_head?_getD]

theorem cursor_next : walker.next.cursor = walker.cursor.next := by
  simp [next, cursor, Cursor.next]

theorem ahead_one : walker.ahead 1 = walker.cursor.next.peek := by
  rw [← cursor_next, ← ahead_zero]
  rfl

theorem stage_next : walker.next.stage = walker.stage.read walker.cursor.next [] := by
  simp only [stage, Stage.read, cursor_next, Draft.note_nil]
  rfl

/-- One token back from the next position is the token that was passed. -/
theorem back_next : walker.next.back 1 = walker.cursor.peek := by
  rw [← ahead_zero]
  simp [back, next, ahead]

theorem back_next_next : walker.next.next.back 2 = walker.cursor.peek := by
  rw [← ahead_zero]
  simp [back, next, ahead]

end Walker

namespace Walk

variable {α β : Type}

/-- The walk is not broken off, gives the value, and ends at the stage. -/
def Gives (walk : Walk α) (walker : Walker) (value : α) (stage : Stage) : Prop :=
  ∃ after, walk.run walker = .ok (value, after) ∧ after.stage = stage

theorem run_bind {walk : Walk α} {later : α → Walk β} {walker after : Walker} {value : α}
    (ran : walk.run walker = .ok (value, after)) :
    (walk >>= later).run walker = (later value).run after := by
  rw [StateT.run_bind, ran]
  rfl

theorem run_get (walker : Walker) : (get : Walk Walker).run walker = .ok (walker, walker) := rfl

theorem run_ahead (distance : Nat) (walker : Walker) :
    (ahead distance).run walker = .ok (walker.ahead distance, walker) := rfl

theorem run_back (distance : Nat) (walker : Walker) :
    (back distance).run walker = .ok (walker.back distance, walker) := rfl

theorem run_advance (walker : Walker) : advance.run walker = .ok ((), walker.next) := rfl

theorem run_lay (change : Draft → Draft) (walker : Walker) :
    (lay change).run walker = .ok ((), { walker with draft := change walker.draft }) := rfl

/-- A walk whose first part is known exactly. -/
theorem gives_step {walk : Walk α} {later : α → Walk β} {walker after : Walker} {first : α}
    {value : β} {stage : Stage} (ran : walk.run walker = .ok (first, after))
    (goes : Gives (later first) after value stage) :
    Gives (walk >>= later) walker value stage := by
  obtain ⟨last, ends, same⟩ := goes
  exact ⟨last, (run_bind ran).trans ends, same⟩

/-- A walk goes on from the stage where its first part ends. -/
theorem Gives.bind {walk : Walk α} {later : α → Walk β} {walker : Walker} {first : α}
    {value : β} {middle stage : Stage} (gives : Gives walk walker first middle)
    (goes : ∀ after : Walker, after.stage = middle → Gives (later first) after value stage) :
    Gives (walk >>= later) walker value stage := by
  obtain ⟨after, ran, same⟩ := gives
  exact gives_step ran (goes after same)

/-! ## Tests of the next token -/

theorem run_matchKind (kind : TokenKind) (walker : Walker) :
    (matchKind kind).run walker =
      if walker.cursor.peek.kind = kind then .ok (true, walker.next) else .ok (false, walker) := by
  rw [← walker.ahead_zero, matchKind, run_bind (run_ahead 0 walker)]
  split <;> rfl

theorem run_matchWord (name : String) (walker : Walker) :
    (matchWord name).run walker =
      if walker.cursor.peek.kind = .word ∧ walker.cursor.peek.text = name then
        .ok (true, walker.next)
      else .ok (false, walker) := by
  rw [← walker.ahead_zero, matchWord, run_bind (run_ahead 0 walker)]
  split <;> rfl

theorem run_matchPair (first second : TokenKind) (walker : Walker) :
    (matchPair first second).run walker =
      if walker.cursor.peek.kind = first ∧ walker.cursor.next.peek.kind = second then
        .ok (true, walker.next.next)
      else .ok (false, walker) := by
  rw [← walker.ahead_zero, ← walker.ahead_one, matchPair,
    run_bind (run_ahead 0 walker),
    run_bind (run_ahead 1 walker)]
  split <;> rfl

/-- A walk that goes one way after a test that passes a token, and another way where the test
fails. -/
theorem gives_ite {test : Walk Bool} {condition : Prop} [Decidable condition]
    {walker after : Walker}
    (tested : test.run walker = if condition then .ok (true, after) else .ok (false, walker))
    {yes no : Walk α} {value : α} {stage : Stage}
    (passes : condition → Gives yes after value stage)
    (stays : ¬ condition → Gives no walker value stage) :
    Gives (test >>= fun hit => if hit = true then yes else no) walker value stage := by
  by_cases holds : condition
  · rw [if_pos holds] at tested
    exact gives_step tested (passes holds)
  · rw [if_neg holds] at tested
    exact gives_step tested (stays holds)

/-! ## Walks and readers -/

/-- The walk gives what was read: its value, its rest, and diagnostics for its findings. -/
def Matches (walk : Walk α) (walker : Walker) (reading : Reading α) : Prop :=
  Gives walk walker reading.value (walker.stage.read reading.rest reading.findings)

/-- The walk gives what the reader reads, for walkers with the assigned names and no more than
`bound` tokens ahead. -/
def Follows (assigned : List String) (bound : Nat) (walk : Walk α) (reader : Reader α) : Prop :=
  ∀ walker : Walker, walker.assigned = assigned → walker.cursor.size ≤ bound →
    Matches walk walker (reader walker.cursor).val

section Basic

variable {assigned : List String} {bound : Nat}

/-- A walk that follows a reader, from a known stage. -/
theorem Follows.at {walk : Walk α} {reader : Reader α}
    (follows : Follows assigned bound walk reader) {walker : Walker} {stage : Stage}
    (same : walker.stage = stage) (known : stage.assigned = assigned)
    (small : stage.cursor.size ≤ bound) :
    Gives walk walker (reader stage.cursor).val.value
      (stage.read (reader stage.cursor).val.rest (reader stage.cursor).val.findings) := by
  subst same
  exact follows walker known small

theorem follows_pure (value : α) : Follows assigned bound (pure value) (pure value) := by
  intro walker _ _
  refine ⟨walker, rfl, ?_⟩
  simp only [Stage.read]
  exact congrArg (Stage.mk _ _) (Draft.note_nil _).symm

theorem Follows.bind {walk : Walk α} {reader : Reader α} {later : α → Walk β}
    {following : α → Reader β} (first : Follows assigned bound walk reader)
    (second : ∀ value, Follows assigned bound (later value) (following value)) :
    Follows assigned bound (walk >>= later) (reader >>= following) := by
  intro walker known small
  refine (first walker known small).bind fun after same => ?_
  have fits := Nat.le_trans (reader walker.cursor).property small
  have goes := (second (reader walker.cursor).val.value).at same known fits
  simp only [Stage.read, Draft.note_note] at goes
  exact goes

theorem follows_peek : Follows assigned bound (ahead 0) Reader.peek := by
  intro walker _ _
  refine ⟨walker, ?_, congrArg (Stage.mk _ _) (Draft.note_nil _).symm⟩
  show Except.ok (walker.ahead 0, walker) = _
  rw [walker.ahead_zero]
  rfl

theorem follows_skip : Follows assigned bound advance Reader.skip :=
  fun walker _ _ => ⟨walker.next, rfl, walker.stage_next⟩

theorem follows_report (cause : Cause) (token : Token) (highlighted : Bool) :
    Follows assigned bound (errorAt cause token highlighted)
      (Reader.report cause token highlighted) := by
  intro walker _ _
  refine ⟨_, rfl, congrArg (Stage.mk _ _) ?_⟩
  exact (Draft.note_singleton walker.draft (.plain (.ofToken cause token highlighted))).symm

theorem follows_malformed (token : Token) :
    Follows assigned bound (malformed token) (Reader.note (.malformed token)) := by
  intro walker _ _
  refine ⟨_, rfl, congrArg (Stage.mk _ _) ?_⟩
  exact (Draft.note_singleton walker.draft (.malformed token)).symm

theorem follows_consume (kind : TokenKind) :
    Follows assigned bound (consume kind) (Reader.expect kind) := by
  refine follows_peek.bind fun token => ?_
  split
  · exact (follows_report _ _ _).bind fun _ => follows_skip.bind fun _ => follows_pure token
  · exact follows_skip.bind fun _ => follows_pure token

/-- A test that passes a token where a condition holds of it. The reader looks at the token first.
What is given and where the walk ends depends in some way on what is read. -/
theorem gives_test {γ : Type} {test : Walk Bool} {condition : Token → Prop}
    [DecidablePred condition] {walker : Walker} (tested : test.run walker =
      if condition walker.cursor.peek then .ok (true, walker.next) else .ok (false, walker))
    {yes no : Walk α} {reader : Reader γ} {other : Token → Reader γ}
    {value : Reading γ → α} {stage : Reading γ → Stage} (passes : Gives yes walker.next
      (value (reader walker.next.cursor).val) (stage (reader walker.next.cursor).val))
    (stays : Gives no walker (value ((Reader.peek >>= other) walker.cursor).val)
      (stage ((Reader.peek >>= other) walker.cursor).val)) :
    Gives (test >>= fun hit => if hit = true then yes else no) walker
      (value ((Reader.peek >>= fun token => if condition token then Reader.skip >>= fun _ => reader
        else other token) walker.cursor).val)
      (stage ((Reader.peek >>= fun token => if condition token then Reader.skip >>= fun _ => reader
        else other token) walker.cursor).val) := by
  have chosen : ((Reader.peek >>= fun token => if condition token then Reader.skip >>= fun _ =>
      reader else other token)
      walker.cursor).val = ((if condition walker.cursor.peek then Reader.skip >>= fun _ => reader
        else other walker.cursor.peek) walker.cursor).val := rfl
  rw [chosen]
  refine gives_ite tested (fun holds => ?_) fun fails => ?_
  · rw [if_pos holds]
    rw [walker.cursor_next] at passes
    exact passes
  · rw [if_neg fails]
    exact stays

theorem size_next_le {walker : Walker} (small : walker.cursor.size ≤ bound) :
    walker.next.cursor.size ≤ bound :=
  Nat.le_trans (walker.cursor_next ▸ Cursor.size_next_le _) small

theorem follows_test {test : Walk Bool} {condition : Token → Prop} [DecidablePred condition]
    (tested : ∀ walker : Walker, test.run walker =
      if condition walker.cursor.peek then .ok (true, walker.next) else .ok (false, walker))
    {yes no : Walk α} {reader : Reader α} {other : Token → Reader α}
    (passes : Follows assigned bound yes reader)
    (stays : Follows assigned bound no (Reader.peek >>= other)) :
    Follows assigned bound (test >>= fun hit => if hit = true then yes else no)
      (Reader.peek >>= fun token => if condition token then Reader.skip >>= fun _ => reader else
        other token) :=
  fun walker known small =>
    @gives_test _ _ _ _ _ walker (tested walker) _ _ _ _ Reading.value
      (fun reading => walker.stage.read reading.rest reading.findings)
      (passes walker.next known (size_next_le small)) (stays walker known small)

theorem follows_consumeWord (name : String) :
    Follows assigned bound (consumeWord name) (Reader.expectWord name) :=
  follows_test (run_matchWord name) (follows_pure ())
    (follows_peek.bind fun token => follows_report _ token false)

theorem follows_parentheses : Follows assigned bound parentheses Reader.parentheses :=
  (follows_consume .leftParen).bind fun _ => (follows_consume .rightParen).bind fun _ =>
    follows_pure ()

theorem follows_question (query : Query) :
    Follows assigned bound (question query) (Reader.question query) :=
  follows_parentheses.bind fun _ => follows_pure _

/-! ## Lines -/

/-- The end of a line is reached, and passed: an end mark, which is kept for what is read next, or a
line break. -/
theorem run_passLine {steps : Nat} {walker : Walker} (enough : walker.cursor.size < steps) :
    ∃ stop : Walker, (passLine steps).run walker = .ok ((), stop.next) ∧
      stop.beyond = walker.beyond ∧
      stop.assigned = walker.assigned ∧ stop.draft = walker.draft ∧
      ((stop.cursor.peek.kind = .endOfFile ∧
        stop.cursor.ahead = Cursor.afterLine walker.cursor.ahead) ∨
        (stop.cursor.peek.kind = .lineBreak ∧
          stop.next.cursor.ahead = Cursor.afterLine walker.cursor.ahead)) := by
  induction steps generalizing walker with
  | zero => exact absurd enough (Nat.not_lt_zero _)
  | succ steps more =>
    by_cases isEnd : walker.cursor.peek.kind = .endOfFile
    · refine ⟨walker, ?_, rfl, rfl, rfl,
        .inl ⟨isEnd, (Cursor.afterLine_of_end isEnd).symm⟩⟩
      rw [passLine, run_bind ((run_matchKind _ _).trans (if_pos isEnd))]
      rfl
    by_cases isBreak : walker.cursor.peek.kind = .lineBreak
    · refine ⟨walker, ?_, rfl, rfl, rfl, .inr ⟨isBreak, ?_⟩⟩
      · rw [passLine, run_bind ((run_matchKind _ _).trans (if_neg isEnd))]
        exact run_bind ((run_matchKind _ _).trans (if_pos isBreak))
      · rw [walker.cursor_next, Cursor.afterLine_of_lineBreak isBreak]
    · have fewer : walker.next.cursor.size < steps := by
        rw [walker.cursor_next]
        exact Nat.lt_of_lt_of_le (Cursor.size_next_of_ne walker.marked isEnd)
          (Nat.le_of_lt_succ enough)
      obtain ⟨stop, ran, rest⟩ := more fewer
      rw [walker.cursor_next, ← Cursor.afterLine_of_other isEnd isBreak] at rest
      refine ⟨stop, ?_, rest⟩
      rw [passLine, run_bind ((run_matchKind _ _).trans (if_neg isEnd))]
      refine (run_bind ((run_matchKind _ _).trans (if_neg isBreak))).trans ?_
      exact (run_bind (run_advance walker)).trans ran

/-- A walker that passed the end mark can step back: it is beyond the first position. -/
theorem follows_skipLine {steps : Nat} (enough : bound < steps) :
    Follows assigned bound (skipLine steps) Reader.skipLine := by
  intro walker _ small
  obtain ⟨stop, ran, sameMark, sameNames, sameDraft, ends⟩ :=
    run_passLine (Nat.lt_of_le_of_lt small enough)
  refine gives_step ran (gives_step (run_back 1 stop.next) ?_)
  have staged (cursor : Cursor) (beyond : cursor.beyond = walker.beyond)
      (rest : cursor.ahead = Cursor.afterLine walker.cursor.ahead) :
      Stage.mk cursor stop.assigned stop.draft =
        walker.stage.read { walker.cursor with ahead := Cursor.afterLine walker.cursor.ahead }
          [] := by
    obtain ⟨ahead, mark⟩ := cursor
    cases beyond
    cases rest
    rw [Stage.read, Draft.note_nil, sameNames, sameDraft]
    rfl
  rw [stop.back_next]
  rcases ends with ⟨isEnd, rest⟩ | ⟨isBreak, rest⟩
  · rw [if_pos isEnd]
    exact ⟨stop, rfl, staged stop.cursor sameMark rest⟩
  · rw [if_neg (by simp [isBreak])]
    exact ⟨stop.next, rfl, staged stop.next.cursor sameMark rest⟩

end Basic

/-! ## Expressions -/

theorem run_matchSign (walker : Walker) :
    matchSign.run walker =
      if Reader.isSign walker.cursor.peek then .ok (true, walker.next) else
        .ok (false, walker) := by
  by_cases isOperator : walker.cursor.peek.kind = .operator
  · have isSign : Reader.isSign walker.cursor.peek := by simp [Reader.isSign, isOperator]
    rw [matchSign, run_bind ((run_matchKind _ _).trans (if_pos isOperator)), if_pos isSign]
    rfl
  · rw [matchSign, run_bind ((run_matchKind _ _).trans (if_neg isOperator))]
    refine (run_matchKind _ _).trans ?_
    simp [Reader.isSign, isOperator]

variable {assigned : List String} {bound steps : Nat}

/-- A walk after a token was passed follows a reader from there on. -/
theorem Follows.next {walk : Walk α} {reader : Reader α}
    (follows : Follows assigned bound walk reader) (walker : Walker)
    (known : walker.assigned = assigned) (small : walker.cursor.next.size ≤ bound) :
    Gives walk walker.next (reader walker.cursor.next).val.value
      (walker.stage.read (reader walker.cursor.next).val.rest
        (reader walker.cursor.next).val.findings) := by
  have goes := follows walker.next known (walker.cursor_next ▸ small)
  rw [walker.cursor_next] at goes
  exact goes

/-- An atom, where the expression in parentheses has fewer tokens and fewer steps. -/
theorem follows_atom_succ (enough : bound < steps)
    (inner : ∀ less < bound, Follows assigned less (expression steps) Reader.expression) :
    Follows assigned bound (atom (steps + 1)) Reader.atom := by
  intro walker known small
  have fits : walker.cursor.next.size ≤ bound := Nat.le_trans (Cursor.size_next_le _) small
  -- The value of the token that a test has just passed.
  have passed (make : Token → Option Expr) :
      Gives (do return make (← back 1)) walker.next (make walker.cursor.peek)
      (walker.stage.read walker.cursor.next []) :=
    ⟨walker.next, congrArg (fun token => Except.ok (make token, walker.next)) walker.back_next,
      walker.stage_next⟩
  rw [Reader.val_atom walker.marked, atom]
  refine gives_step (run_ahead 0 walker) ?_
  rw [walker.ahead_zero]
  by_cases isWord : walker.cursor.peek.kind = .word
  · have faces : direction? walker.cursor.peek = Direction.ofKeyword? walker.cursor.peek.text :=
      if_pos isWord
    simp only [isWord, faces, Reader.wordAtom]
    cases Direction.ofKeyword? walker.cursor.peek.text with
    | some direction => exact ⟨walker.next, rfl, walker.stage_next⟩
    | none =>
      refine gives_ite (run_matchWord _ walker) (fun asks => ?_) fun noEnemy => ?_
      · rw [if_pos asks.2]
        exact (follows_question .enemy).next walker known fits
      refine gives_ite (run_matchWord _ walker) (fun asks => ?_) fun noLife => ?_
      · rw [if_neg fun same => noEnemy ⟨isWord, same⟩, if_pos asks.2]
        exact (follows_question .alive).next walker known fits
      rw [if_neg fun same => noEnemy ⟨isWord, same⟩,
        if_neg fun same => noLife ⟨isWord, same⟩]
      exact gives_ite (run_matchKind _ walker) (fun _ => passed fun token => some (.var token.text))
        fun noWord => absurd isWord noWord
  · have faces : direction? walker.cursor.peek = none := if_neg isWord
    rw [faces]
    refine gives_ite (run_matchWord _ walker) (fun asks => absurd asks.1 isWord) fun _ => ?_
    refine gives_ite (run_matchWord _ walker) (fun asks => absurd asks.1 isWord) fun _ => ?_
    refine gives_ite (run_matchKind _ walker) (fun word => absurd word isWord) fun _ => ?_
    refine gives_ite (run_matchKind _ walker) (fun isNumber => ?_) fun noNumber => ?_
    · simp only [isNumber]
      exact passed fun token => some (.num (Reader.tokenNumber token))
    refine gives_ite (run_matchKind _ walker) (fun isText => ?_) fun noText => ?_
    · simp only [isText]
      exact passed fun token => some (.literal (.text token.text))
    refine gives_ite (run_matchKind _ walker) (fun isParen => ?_) fun noParen => ?_
    · simp only [isParen]
      have shorter : walker.cursor.next.size < walker.cursor.size :=
        Cursor.size_next_of_ne walker.marked (by simp [isParen])
      exact ((inner _ (Nat.lt_of_lt_of_le shorter small)).bind fun value =>
        (follows_consume .rightParen).bind fun _ =>
          follows_pure (some value)).next walker known (Nat.le_refl _)
    · have none : Matches (do malformed (← ahead 0); skipLine steps; return none) walker
          (Reader.noAtom walker.cursor.peek walker.cursor).val :=
        (follows_peek.bind fun token => (follows_malformed token).bind fun _ =>
          (follows_skipLine enough).bind fun _ => follows_pure none) walker known small
      cases kind : walker.cursor.peek.kind with
      | word => exact absurd kind isWord
      | number => exact absurd kind noNumber
      | text => exact absurd kind noText
      | leftParen => exact absurd kind noParen
      | label | lineBreak | equals | operator | rightParen | endOfFile => exact none

theorem follows_expression_succ (first : Follows assigned bound (atom steps) Reader.atom)
    (more : ∀ left, Follows assigned bound (chain left steps) (Reader.chain left)) :
    Follows assigned bound (expression (steps + 1)) Reader.expression := by
  have follows : Follows assigned bound (expression (steps + 1))
      (Reader.andThen Reader.atom Reader.afterAtom) := by
    rw [expression]
    refine first.bind fun left? => ?_
    cases left? with
    | none => exact follows_pure Reader.missing
    | some left => exact more left
  intro walker known small
  rw [Reader.expression_eq]
  exact follows walker known small

/-- A chain goes on after a sign with fewer tokens and fewer steps. -/
theorem follows_chain_succ
    (right : ∀ less < bound, Follows assigned less (atom steps) Reader.atom)
    (more : ∀ less < bound, ∀ left,
      Follows assigned less (chain left steps) (Reader.chain left)) (left : Expr) :
    Follows assigned bound (chain left (steps + 1)) (Reader.chain left) := by
  intro walker known small
  rw [Reader.val_chain walker.marked, chain]
  refine gives_ite (run_matchSign walker) (fun isSign => ?_) fun noSign => ?_
  · have shorter : walker.cursor.next.size < walker.cursor.size := by
      refine Cursor.size_next_of_ne walker.marked fun isEnd => ?_
      simp [Reader.isSign, isEnd] at isSign
    have fewer := Nat.lt_of_lt_of_le shorter small
    refine gives_step (run_back 1 walker.next) ?_
    rw [walker.back_next, if_pos isSign]
    refine ((right _ fewer).bind fun operand => ?_).next walker known (Nat.le_refl _)
    unfold Reader.applySign
    cases Operator.ofSymbol? walker.cursor.peek.text with
    | some op => exact more _ fewer _
    | none => exact (follows_report _ _ _).bind fun _ => more _ fewer left
  · rw [if_neg noSign]
    exact follows_pure left walker known small

/-- Three steps for each token are enough for the readers of expressions, and a few more, by which
one calls another on the same tokens. -/
theorem follows_expressions (assigned : List String) (steps : Nat) : ∀ bound : Nat,
    (3 * bound + 2 ≤ steps → Follows assigned bound (atom steps) Reader.atom) ∧
    (3 * bound + 3 ≤ steps → Follows assigned bound (expression steps) Reader.expression) ∧
    (3 * bound + 1 ≤ steps →
      ∀ left, Follows assigned bound (chain left steps) (Reader.chain left)) := by
  induction steps with
  | zero =>
    intro bound
    refine ⟨fun enough => ?_, fun enough => ?_, fun enough => ?_⟩ <;>
      exact absurd enough (Nat.not_succ_le_zero _)
  | succ steps fewer =>
    intro bound
    refine ⟨fun enough => ?_, fun enough => ?_, fun enough => ?_⟩
    · exact follows_atom_succ (by omega) fun less small => (fewer less).2.1 (by omega)
    · exact follows_expression_succ ((fewer bound).1 (by omega)) ((fewer bound).2.2 (by omega))
    · exact follows_chain_succ (fun less small => (fewer less).1 (by omega)) fun less small =>
        (fewer less).2.2 (by omega)

theorem follows_expression (enough : 3 * bound + 3 ≤ steps) :
    Follows assigned bound (expression steps) Reader.expression :=
  (follows_expressions assigned steps bound).2.1 enough

theorem follows_assignment (enough : 3 * bound + 3 ≤ steps) :
    Follows assigned bound (assignment steps) Reader.headerAssignment := by
  intro walker known small
  show Matches _ walker
    ((if walker.cursor.peek.kind = .word ∧ walker.cursor.next.peek.kind = .equals then _ else _ :
    Reader Assignment) walker.cursor).val
  refine gives_ite (run_matchPair _ _ walker) (fun found => ?_) fun missing => ?_
  · rw [if_pos found]
    refine gives_step (run_back 2 walker.next.next) ?_
    rw [walker.back_next_next]
    have fits : walker.next.cursor.next.size ≤ bound := by
      rw [walker.cursor_next]
      exact Nat.le_trans (Cursor.size_next_le _) (Nat.le_trans (Cursor.size_next_le _) small)
    have goes := ((follows_expression enough).bind fun value =>
      follows_pure (Assignment.mk walker.cursor.peek.text value)).next walker.next known fits
    rw [walker.cursor_next] at goes
    exact goes
  · rw [if_neg missing]
    exact (follows_peek.bind fun token => (follows_report _ token false).bind fun _ =>
      follows_pure _) walker known small

end Walk

end RobotScript
