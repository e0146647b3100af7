import RobotScript.Item.Reader

/-!
# Reading expressions

An expression is an atom, followed by any number of operators each with an atom after it. Operators
have one precedence level and are applied from left to right. Where an atom is missing, the rest of
the line is skipped and zero stands in its place.
-/

namespace RobotScript.Reader

/-- What stands for an expression that could not be read. -/
def missing : Expr := .num 0.0

/-- The two parentheses after a question to the host. -/
def parentheses : Reader Unit := do
  let _ ← expect .leftParen
  let _ ← expect .rightParen

/-- A question to the host, with its parentheses. -/
def question (query : Query) : Reader (Option Expr) := do
  parentheses
  return some (.ask query)

/-- What a word means in an expression: a direction, a question, or a variable. -/
def wordAtom (word : String) : Reader (Option Expr) :=
  match Direction.ofKeyword? word with
  | some direction => done (some (.literal (.direction direction)))
  | none =>
    if word = Keyword.detecterEnnemi.name then question .enemy
    else if word = Keyword.estVivant.name then question .alive
    else done (some (.var word))

/-- A missing atom: noted at the token that stands in its place. -/
def noAtom (token : Token) : Reader (Option Expr) := do
  note (.malformed token)
  skipLine
  return none

/-- The number that a token stands for. One that does not read as a number counts as zero. -/
def tokenNumber (token : Token) : Float :=
  (Decimal.read? token.text.toList).getD 0.0

/-- An expression with one more operator. A sign that is no operator is noted, and its right operand
dropped. -/
def applySign (left : Expr) (sign : Token) (right : Expr) : Reader Expr :=
  match Operator.ofSymbol? sign.text with
  | some op => done (.binary op left right)
  | none => do
    report .unknownOperator sign true
    return left

/-- A token that goes on with an expression. -/
def isSign (token : Token) : Bool :=
  token.kind = .operator ∨ token.kind = .equals

mutual

/-- An atom: a word, a number, a quoted text, or an expression in parentheses. -/
def atom (cursor : Cursor) :
    { reading : Reading (Option Expr) // reading.rest.size ≤ cursor.size } :=
  match tokens : cursor.ahead with
  | [] => noAtom cursor.beyond cursor
  | token :: _ =>
    have shorter : cursor.next.size < cursor.size := Cursor.size_next_lt tokens
    match token.kind with
    | .word => (skip.andThen fun _ => wordAtom token.text) cursor
    | .number => (skip.andThen fun _ => done (some (.num (tokenNumber token)))) cursor
    | .text => (skip.andThen fun _ => done (some (.literal (.text token.text)))) cursor
    | .leftParen =>
      match expression cursor.next with
      | ⟨inner, fits⟩ =>
        let close := expect .rightParen inner.rest
        ⟨⟨some inner.value, inner.findings ++ close.val.findings, close.val.rest⟩,
          Nat.le_trans close.property (Nat.le_trans fits (Nat.le_of_lt shorter))⟩
    | _ => noAtom token cursor
termination_by 3 * cursor.size + 1

/-- An expression. -/
def expression (cursor : Cursor) :
    { reading : Reading Expr // reading.rest.size ≤ cursor.size } :=
  match atom cursor with
  | ⟨⟨none, findings, rest⟩, fits⟩ => ⟨⟨missing, findings, rest⟩, fits⟩
  | ⟨⟨some left, findings, rest⟩, fits⟩ =>
    have : rest.size ≤ cursor.size := fits
    let more := chain left rest
    ⟨⟨more.val.value, findings ++ more.val.findings, more.val.rest⟩,
      Nat.le_trans more.property fits⟩
termination_by 3 * cursor.size + 2

/-- The operators that follow an expression, with their right operands. -/
def chain (left : Expr) (cursor : Cursor) :
    { reading : Reading Expr // reading.rest.size ≤ cursor.size } :=
  match tokens : cursor.ahead with
  | [] => done left cursor
  | sign :: _ =>
    if isSign sign then
      have shorter : cursor.next.size < cursor.size := Cursor.size_next_lt tokens
      match atom cursor.next with
      | ⟨right, fits⟩ =>
        match applySign left sign (right.value.getD missing) right.rest with
        | ⟨joined, fits'⟩ =>
          let more := chain joined.value joined.rest
          ⟨⟨more.val.value, right.findings ++ joined.findings ++ more.val.findings,
            more.val.rest⟩,
            Nat.le_trans more.property
              (Nat.le_trans fits' (Nat.le_trans fits (Nat.le_of_lt shorter)))⟩
    else done left cursor
termination_by 3 * cursor.size

end

end RobotScript.Reader
