import RobotScript.Item.Expression

/-!
# Reading items

`Item.readAll` reads the tokens of a script as items, each with what is wrong with it. A word in
front of `=` is the target of an assignment whatever it is. A line that starts no item is skipped.
-/

namespace RobotScript.Reader

/-- What a token stands for where a direction is due: a name that an earlier assignment statement
wrote, or a keyword. -/
def bearingAt (assigned : List String) (token : Token) : Reader (Option Bearing) :=
  if token.text ∈ assigned then done (some (.held token.text))
  else
    match Direction.ofKeyword? token.text with
    | some direction => done (some (.toward direction))
    | none => do
      report .invalidDirection token true
      return none

/-- The direction of an action. -/
def bearing (assigned : List String) : Reader (Option Bearing) := do
  let token ← peek
  let found ← bearingAt assigned token
  expectWord token.text
  return found

/-- A direction keyword. -/
def directionWord : Reader (Option Direction) := do
  let token ← peek
  let found := Direction.ofKeyword? token.text
  if found.isNone then report .invalidDirection token true
  expectWord token.text
  return found

/-- What stands between parentheses. -/
def inParentheses {α : Type} (inner : Reader α) : Reader α := do
  let _ ← expect .leftParen
  let value ← inner
  let _ ← expect .rightParen
  return value

/-- The item for a statement that could be read, if it could. -/
def statementItem (statement? : Option Statement) : Item :=
  (statement?.map Item.statement).getD .void

/-- A line that starts no item, noted at a token. -/
def unexpected (token : Token) : Reader Item := do
  report .unexpectedInstruction token true
  skipLine
  return .void

/-- An attack, after its first word. -/
def attack (assigned : List String) : Reader Item := do
  let token ← peek
  if token.kind = .word ∧ token.text = Keyword.tirer.name then
    skip
    return statementItem ((← inParentheses (bearing assigned)).map .shoot)
  else if token.kind = .word ∧ token.text = Keyword.melee.name then
    skip
    return statementItem ((← inParentheses directionWord).map .melee)
  else unexpected token

/-- An assignment in the header of a counted loop. -/
def headerAssignment : Reader Assignment := do
  let target ← peek
  let sign ← peekSecond
  if target.kind = .word ∧ sign.kind = .equals then
    skip
    skip
    return ⟨target.text, ← expression⟩
  else
    report (.expected "an assignment") target false
    return ⟨"", missing⟩

/-- The header of a counted loop, after its keyword. -/
def countedHeader : Reader Header := do
  let _ ← expect .leftParen
  let init ← headerAssignment
  let condition ← expression
  let step ← headerAssignment
  let _ ← expect .rightParen
  return .pour init condition step

/-- An item that starts with a word, after that word. -/
def instruction (assigned : List String) (token : Token) : Reader Item :=
  match Keyword.ofName? token.text with
  | some .print => return .statement (.print (← expression))
  | some .input => return .statement (.input (← expect .word).text)
  | some .goto => return .statement (.goto (← expect .word).text)
  | some .deplacer => return statementItem ((← inParentheses (bearing assigned)).map .move)
  | some .attaquer => attack assigned
  | some .recharger => do
    parentheses
    return .statement .reload
  | some .si => return .opening (.si (← expression))
  | some .tantque => return .opening (.tantque (← expression))
  | some .pour => return .opening (← countedHeader)
  | some .sinon => return .divider token
  | some .finsi => return .closing .si token
  | some .fintantque => return .closing .tantque token
  | some .finpour => return .closing .pour token
  | _ => unexpected token

/-- An item, after its first token. -/
def item (assigned : List String) (token : Token) : Reader Item :=
  match token.kind with
  | .label => return .label token.text
  | .word => do
    let follower ← peek
    if follower.kind = .equals then
      skip
      return .statement (.assign ⟨token.text, ← expression⟩)
    else instruction assigned token
  | _ => unexpected token

end RobotScript.Reader

namespace RobotScript.Item

/-- The items from a cursor up to the first end mark between items. -/
def readFrom (assigned : List String) (cursor : Cursor) : List (Item × List Finding) :=
  match tokens : cursor.ahead with
  | [] => []
  | token :: _ =>
    have : cursor.next.size < cursor.size := Cursor.size_next_lt tokens
    match token.kind with
    | .endOfFile => []
    | .lineBreak => readFrom assigned cursor.next
    | _ =>
      match Reader.item assigned token cursor.next with
      | ⟨reading, _⟩ =>
        (reading.value, reading.findings) ::
          readFrom (reading.value.assigned ++ assigned) reading.rest
termination_by cursor.size

/-- The items of a list of tokens, each with what is wrong with it. -/
def readAll (tokens : List Token) : List (Item × List Finding) :=
  readFrom [] (.ofTokens tokens)

end RobotScript.Item
