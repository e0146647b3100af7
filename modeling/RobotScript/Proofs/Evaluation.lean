import RobotScript.Proofs.Dialogue

/-!
# Answers by position

An expression takes the answers of the host in the order of its questions, from left to right. What
it comes to can be said without evaluation: put the answers in place of the questions, and take the
value of what is then an expression without questions.

* `Expr.fill` puts answers in place of questions, and `Expr.value?` is the value of an expression
  without questions.
* `Takes` says what an expression comes to from a position of the answers on, and at which position
  the next one goes on.
* `eval_takes`: evaluation comes to that.
* `evalAll_takes`: in a row of expressions each one goes on right after the answers of those before
  it, as long as none has stopped.
-/

namespace RobotScript.Expr

/-! ## Answers in place of questions -/

/-- The expression with answers in place of its questions, from left to right. A question without an
answer stays. -/
def fill : Expr → List Value → Expr
  | literal value, _ => literal value
  | var name, _ => var name
  | ask query, answers => (answers.head?.map literal).getD (ask query)
  | binary op left right, answers =>
    binary op (left.fill answers) (right.fill (answers.drop left.queries.length))

/-- The value of an expression without questions. -/
def value? (store : Store) : Expr → Option Value
  | literal value => some value
  | var name => some (store.read name)
  | ask _ => none
  | binary op left right =>
    match left.value? store, right.value? store with
    | some x, some y => some (op.apply x y)
    | _, _ => none

/-- Only as many answers count as there are questions. -/
theorem fill_take (expr : Expr) (answers : List Value) {count : Nat}
    (enough : expr.queries.length ≤ count) :
    expr.fill (answers.take count) = expr.fill answers := by
  induction expr generalizing answers count with
  | literal value => rfl
  | var name => rfl
  | ask query =>
    cases count with
    | zero => cases enough
    | succ count => cases answers <;> rfl
  | binary op left right ihLeft ihRight =>
    rw [queries, List.length_append] at enough
    rw [fill, fill, ihLeft answers (by omega), List.drop_take, ihRight _ (by omega)]

/-! ## What an expression takes -/

/-- `Takes store answers position expr result next`: what an expression comes to if it is given the
answers from a position on, and the position after those it has taken. It stops at the first
question that is left without an answer. Otherwise it has the value that it has with the answers in
place of its questions. -/
inductive Takes (store : Store) (answers : List Value) (position : Nat) (expr : Expr) :
    Except Query Value → Nat → Prop
  | stopped {query : Query} (lacking : expr.queries[answers.length - position]? = some query) :
      Takes store answers position expr (.error query) (position + (answers.length - position))
  | finished {value : Value} (enough : expr.queries.length ≤ answers.length - position)
      (known : (expr.fill ((answers.drop position).take expr.queries.length)).value? store =
        some value) :
      Takes store answers position expr (.ok value) (position + expr.queries.length)

variable {answers : List Value} {expr : Expr}

theorem eval_enough (store : Store) (enough : expr.queries.length ≤ answers.length) :
    ∃ value, (expr.fill answers).value? store = some value ∧
      expr.eval store answers = (.ok value, answers.drop expr.queries.length) := by
  induction expr generalizing answers with
  | literal value => exact ⟨value, rfl, rfl⟩
  | var name => exact ⟨store.read name, rfl, rfl⟩
  | ask query =>
    cases answers with
    | nil => cases enough
    | cons answer answers => exact ⟨answer, rfl, rfl⟩
  | binary op left right ihLeft ihRight =>
    rw [queries, List.length_append] at enough
    have enoughRight : right.queries.length ≤ (answers.drop left.queries.length).length := by
      rw [List.length_drop]
      omega
    obtain ⟨x, knownLeft, evaluatedLeft⟩ := ihLeft (Nat.le_trans (Nat.le_add_right _ _) enough)
    obtain ⟨y, knownRight, evaluatedRight⟩ := ihRight enoughRight
    refine ⟨op.apply x y, ?_, ?_⟩
    · simp only [fill, value?, knownLeft, knownRight]
    · simp only [eval, evaluatedLeft, evaluatedRight, queries, List.length_append, List.drop_drop]

theorem eval_lacking (store : Store) (lacking : answers.length < expr.queries.length) :
    ∃ query, expr.queries[answers.length]? = some query ∧
      expr.eval store answers = (.error query, []) := by
  induction expr generalizing answers with
  | literal => cases lacking
  | var => cases lacking
  | ask query =>
    cases answers with
    | nil => exact ⟨query, rfl, rfl⟩
    | cons answer answers => exact absurd lacking (by simp [queries])
  | binary op left right ihLeft ihRight =>
    rw [queries, List.length_append] at lacking
    -- The question is one of the left operand, or that one gets its answers and the question is one
    -- of the right operand.
    rcases Nat.lt_or_ge answers.length left.queries.length with inLeft | enough
    · obtain ⟨query, asked, evaluated⟩ := ihLeft inLeft
      refine ⟨query, ?_, by simp only [eval, evaluated]⟩
      rw [queries, List.getElem?_append_left inLeft, asked]
    · have inRight : (answers.drop left.queries.length).length < right.queries.length := by
        rw [List.length_drop]
        omega
      obtain ⟨x, -, evaluatedLeft⟩ := eval_enough store enough
      obtain ⟨query, asked, evaluated⟩ := ihRight inRight
      rw [List.length_drop] at asked
      refine ⟨query, ?_, by simp only [eval, evaluatedLeft, evaluated]⟩
      rw [queries, List.getElem?_append_right enough, asked]

/-- Evaluation from a position of the answers on takes what it should. -/
theorem eval_takes (store : Store) (answers : List Value) (position : Nat) (expr : Expr) :
    ∃ result next, Takes store answers position expr result next ∧
      expr.eval store (answers.drop position) = (result, answers.drop next) := by
  have left : (answers.drop position).length = answers.length - position := List.length_drop
  rcases Nat.lt_or_ge (answers.length - position) expr.queries.length with lacking | enough
  · obtain ⟨query, asked, evaluated⟩ := eval_lacking store (left ▸ lacking)
    refine ⟨_, _, .stopped (left ▸ asked), ?_⟩
    rw [evaluated, List.drop_eq_nil_of_le (by omega)]
  · obtain ⟨value, known, evaluated⟩ := eval_enough store (left ▸ enough)
    refine ⟨_, _, .finished enough (by rw [fill_take _ _ (Nat.le_refl _), known]), ?_⟩
    rw [evaluated, List.drop_drop]

/-! ## Expressions in a row -/

/-- After expressions that have not stopped, the next one goes on right after their answers. -/
theorem evalAll_takes (store : Store) (answers : List Value) (position : Nat) (before : List Expr)
    (expr : Expr) (after : List Expr) (finished : ∀ result ∈
      (evalAll store (before ++ expr :: after) (answers.drop position)).take before.length,
      ∃ value, result = .ok value) :
    ∃ result next,
      Takes store answers (position + (before.flatMap queries).length) expr result next ∧
      (evalAll store (before ++ expr :: after) (answers.drop position))[before.length]? =
        some result := by
  induction before generalizing position with
  | nil =>
    obtain ⟨result, next, takes, evaluated⟩ := eval_takes store answers position expr
    refine ⟨result, next, takes, ?_⟩
    rw [List.nil_append, evalAll, evaluated]
    rfl
  | cons first before ih =>
    obtain ⟨result, next, takes, evaluated⟩ := eval_takes store answers position first
    rw [List.cons_append, evalAll, evaluated] at finished ⊢
    obtain ⟨⟨value, rfl⟩, later⟩ := List.forall_mem_cons.mp finished
    cases takes with
    | finished enough known =>
      obtain ⟨result, next, takes, found⟩ := ih (position + first.queries.length) later
      rw [Nat.add_assoc, ← List.length_append, ← List.flatMap_cons] at takes
      exact ⟨result, next, takes, found⟩

/-- Answers are taken by position. Given the answers from a position on:
* An expression with more questions than there are answers left stops at the first question without
  one. Otherwise it comes to the value that it has with the answers in place of its questions, one
  for each and in order. What is left are the answers after those.
* In a row of expressions, up to the first that stops, each one is given the answers right after
  those of the ones before it. -/
theorem answers_in_order (store : Store) (answers : List Value) (position : Nat) :
    (∀ expr : Expr, ∃ result next, Takes store answers position expr result next ∧
      expr.eval store (answers.drop position) = (result, answers.drop next)) ∧
    ∀ (before : List Expr) (expr : Expr) (after : List Expr),
      (∀ result ∈
        (evalAll store (before ++ expr :: after) (answers.drop position)).take before.length,
          ∃ value, result = .ok value) →
      ∃ result next,
        Takes store answers (position + (before.flatMap queries).length) expr result next ∧
        (evalAll store (before ++ expr :: after) (answers.drop position))[before.length]? =
          some result :=
  ⟨eval_takes store answers position,
    fun before expr after => evalAll_takes store answers position before expr after⟩

/-- An expression that asks for the enemy twice. -/
def sameEnemy : Expr := .binary .equal (.ask .enemy) (.ask .enemy)

/-- An expression with two different questions. -/
def enemyAndLife : Expr := .binary .add (.ask .enemy) (.ask .alive)

/-- Four answers. -/
def fourAnswers :
    List Value := [.text "used", .direction .upLeft, .direction .downRight, .direction .upRight]

theorem evalAll_fourAnswers :
    evalAll {} ([sameEnemy] ++ enemyAndLife :: []) (fourAnswers.drop 1) =
      [.ok (.number 0.0), .error .alive] := by
  rfl

/-- Of the answers from the second on, the first expression takes two, and the next one stops at its
second question. -/
theorem answers_in_order_fourAnswers :
    Takes {} fourAnswers 3 enemyAndLife (.error .alive) 4 ∧
      (evalAll {} ([sameEnemy] ++ enemyAndLife :: []) (fourAnswers.drop 1))[1]? =
        some (.error .alive) := by
  obtain ⟨result, next, takes, found⟩ :=
      (answers_in_order {} fourAnswers 1).2 [sameEnemy] enemyAndLife [] (by
    rw [evalAll_fourAnswers]
    exact List.forall_mem_singleton.mpr ⟨_, rfl⟩)
  obtain rfl : .error .alive = result :=
    Option.some.inj ((congrArg (·[1]?) evalAll_fourAnswers).symm.trans found)
  cases takes with
  | stopped lacking => exact ⟨.stopped lacking, found⟩

end RobotScript.Expr
