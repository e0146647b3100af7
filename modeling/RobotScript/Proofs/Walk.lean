import RobotScript.Program.Layout

/-!
# Reading by positions

A walker goes through a list of tokens by position, looks ahead and back, and lays out the program
while it reads. A walk is broken off where something happens that should not: a position before the
first token, an index beyond the last statement, a statement that is not the one that an open block
needs, or a word that is not the one that was read. A walk also has a bound on its steps, and is
broken off when it takes more.

`walkTokens` reads a whole list of tokens in this way.
-/

namespace RobotScript

/-- Why a walk is broken off. -/
inductive Halt where
  | exhausted
  | beforeFirst
  | noStatement
  | otherStatement
  | otherWord
deriving DecidableEq, Repr

/-- Where a walk is: the tokens with the mark beyond them, the position, the names that were
assigned, and what has been laid out. -/
structure Walker where
  tokens : List Token
  beyond : Token
  marked : beyond.kind = .endOfFile
  position : Nat
  assigned : List String
  draft : Draft

namespace Walker

/-- The token at a distance after the position. -/
def ahead (walker : Walker) (distance : Nat) : Token :=
  walker.tokens[walker.position + distance]?.getD walker.beyond

/-- The token at a distance before the position. -/
def back (walker : Walker) (distance : Nat) : Token :=
  if distance ≤ walker.position then walker.tokens[walker.position - distance]?.getD walker.beyond
    else walker.beyond

/-- The walker one token further. -/
def next (walker : Walker) : Walker :=
  { walker with position := walker.position + 1 }

end Walker

/-- A walk changes a walker and gives a value, or is broken off. -/
abbrev Walk := StateT Walker (Except Halt)

namespace Walk

/-! ## Tokens -/

/-- The token at a distance after the position. -/
def ahead (distance : Nat) : Walk Token := do
  return (← get).ahead distance

/-- The token at a distance before the position. -/
def back (distance : Nat) : Walk Token := do
  return (← get).back distance

/-- Goes one token further, also beyond the last one. -/
def advance : Walk Unit :=
  modify Walker.next

/-- Goes back by one token. -/
def stepBack : Walk Unit := do
  let walker ← get
  match walker.position with
  | 0 => throw .beforeFirst
  | position + 1 => set { walker with position := position }

/-- Changes what has been laid out. -/
def lay (change : Draft → Draft) : Walk Unit :=
  modify fun walker => { walker with draft := change walker.draft }

/-- Reports a diagnostic at a token. -/
def errorAt (cause : Cause) (token : Token) (highlighted : Bool) : Walk Unit :=
  lay (·.report (.ofToken cause token highlighted))

/-- Passes a token of the kind, if one is next. -/
def matchKind (kind : TokenKind) : Walk Bool := do
  if (← ahead 0).kind = kind then
    advance
    return true
  else return false

/-- Passes two tokens of the kinds, if they are next. -/
def matchPair (first second : TokenKind) : Walk Bool := do
  if (← ahead 0).kind = first ∧ (← ahead 1).kind = second then
    advance
    advance
    return true
  else return false

/-- Passes the word, if it is next. -/
def matchWord (name : String) : Walk Bool := do
  let token ← ahead 0
  if token.kind = .word ∧ token.text = name then
    advance
    return true
  else return false

/-- Passes the next token, whatever it is, and reports it if it is not of the kind. -/
def consume (kind : TokenKind) : Walk Token := do
  let token ← ahead 0
  if token.kind ≠ kind then errorAt (.expected kind.description) token false
  advance
  return token

/-- Passes the word, or reports what stands in its place. -/
def consumeWord (name : String) : Walk Unit := do
  if ← matchWord name then return ()
  else errorAt (.expected ("'" ++ name ++ "'")) (← ahead 0) false

/-- Passes tokens up to the first end mark or line break, and that as well. -/
def passLine : Nat → Walk Unit
  | 0 => throw .exhausted
  | steps + 1 => do
    if ← matchKind .endOfFile then return ()
    else if ← matchKind .lineBreak then return ()
    else
      advance
      passLine steps

/-- Passes the rest of the line, but no end mark. -/
def skipLine (steps : Nat) : Walk Unit := do
  passLine steps
  if (← back 1).kind = .endOfFile then stepBack

/-- Passes line breaks. -/
def lineBreaks : Nat → Walk Unit
  | 0 => throw .exhausted
  | steps + 1 => do
    if ← matchKind .lineBreak then lineBreaks steps else return ()

/-! ## Expressions -/

/-- Two parentheses. -/
def parentheses : Walk Unit := do
  let _ ← consume .leftParen
  let _ ← consume .rightParen

/-- A question, after its word. -/
def question (query : Query) : Walk (Option Expr) := do
  parentheses
  return some (.ask query)

/-- The direction that a token is the word for. -/
def direction? (token : Token) : Option Direction :=
  if token.kind = .word then Direction.ofKeyword? token.text else none

/-- Passes an operator, if one is next. -/
def matchSign : Walk Bool := do
  if ← matchKind .operator then return true else matchKind .equals

/-- Reports a malformed expression under the innermost open block. -/
def malformed (token : Token) : Walk Unit :=
  lay fun draft =>
    draft.report ((Finding.malformed token).diagnose (draft.frames.head?.map Frame.block))

mutual

/-- An atom. -/
def atom : Nat → Walk (Option Expr)
  | 0 => throw .exhausted
  | steps + 1 => do
    match direction? (← ahead 0) with
    | some direction =>
      advance
      return some (.literal (.direction direction))
    | none =>
      if ← matchWord Keyword.detecterEnnemi.name then question .enemy
      else if ← matchWord Keyword.estVivant.name then question .alive
      else if ← matchKind .word then return some (.var (← back 1).text)
      else if ← matchKind .number then return some (.num (Reader.tokenNumber (← back 1)))
      else if ← matchKind .text then return some (.literal (.text (← back 1).text))
      else if ← matchKind .leftParen then
        let inner ← expression steps
        let _ ← consume .rightParen
        return some inner
      else
        malformed (← ahead 0)
        skipLine steps
        return none

/-- An expression. -/
def expression : Nat → Walk Expr
  | 0 => throw .exhausted
  | steps + 1 => do
    match ← atom steps with
    | none => return Reader.missing
    | some left => chain left steps

/-- The operators that follow an expression, with their right operands. -/
def chain (left : Expr) : Nat → Walk Expr
  | 0 => throw .exhausted
  | steps + 1 => do
    if ← matchSign then
      let sign ← back 1
      let right := (← atom steps).getD Reader.missing
      match Operator.ofSymbol? sign.text with
      | some op => chain (.binary op left right) steps
      | none =>
        errorAt .unknownOperator sign true
        chain left steps
    else return left

end

/-- An assignment in the header of a counted loop. -/
def assignment (steps : Nat) : Walk Assignment := do
  if ← matchPair .word .equals then
    let name := (← back 2).text
    return ⟨name, ← expression steps⟩
  else
    errorAt (.expected "an assignment") (← ahead 0) false
    return ⟨"", Reader.missing⟩

/-! ## Actions -/

/-- A line that starts no item. -/
def unexpected (steps : Nat) : Walk Unit := do
  errorAt .unexpectedInstruction (← ahead 0) true
  skipLine steps

/-- What a token stands for where a direction is due: a name that was assigned, or a keyword. -/
def bearingAt (token : Token) : Walk (Option Bearing) := do
  if token.text ∈ (← get).assigned then return some (.held token.text)
  else
    match Direction.ofKeyword? token.text with
    | some direction => return some (.toward direction)
    | none =>
      errorAt .invalidDirection token true
      return none

/-- The direction of an action. -/
def bearing : Walk (Option Bearing) := do
  let token ← ahead 0
  let found ← bearingAt token
  consumeWord token.text
  return found

/-- A movement or a shot, after its word. -/
def aimed (make : Bearing → Statement) : Walk Unit := do
  let _ ← consume .leftParen
  match ← bearing with
  | some bearing => lay (·.push (make bearing))
  | none => pure ()
  let _ ← consume .rightParen

/-- A close attack, after its word. -/
def melee : Walk Unit := do
  let _ ← consume .leftParen
  let token ← ahead 0
  match Direction.ofKeyword? token.text with
  | some direction => lay (·.push (.melee direction))
  | none => errorAt .invalidDirection token true
  consumeWord token.text
  let _ ← consume .rightParen

/-- An attack, after its first word. -/
def attack (steps : Nat) : Walk Unit := do
  if ← matchWord Keyword.tirer.name then aimed .shoot
  else if ← matchWord Keyword.melee.name then melee
  else unexpected steps

/-! ## Blocks -/

/-- Something that is read off the statement at an index. -/
def statementAt {α : Type} (index : Nat) (part : Statement → Option α) : Walk α := do
  match (← get).draft.program.statements[index]? with
  | none => throw .noStatement
  | some statement =>
    match part statement with
    | none => throw .otherStatement
    | some value => return value

/-- Replaces the statement at an index. -/
def replace (index : Nat) (change : Statement → Option Statement) : Walk Unit := do
  let statement ← statementAt index change
  lay (·.amend index fun _ => statement)

/-- Mints a label for the next statement. -/
def mint : Walk String := do
  let label := (← get).draft.nextLabel
  lay Draft.mint
  return label

/-- The opening statement of a loop with the label after the loop. -/
def loopFinish (label : String) : Statement → Option Statement
  | .tantque condition start _ => some (.tantque condition start label)
  | .pour init condition step start _ => some (.pour init condition step start label)
  | _ => none

/-- A `si` with the label of its second branch. -/
def siOtherwise (label : String) : Statement → Option Statement
  | .si condition _ finish => some (.si condition (some label) finish)
  | _ => none

/-- A `si` with the label after it. -/
def siFinish (label : String) : Statement → Option Statement
  | .si condition otherwise _ => some (.si condition otherwise label)
  | _ => none

/-- A jump with its label. -/
def jumpTo (label : String) : Statement → Option Statement
  | .goto _ => some (.goto label)
  | _ => none

/-- A word that divides or closes no open block. It is the word that was just read. -/
def unexpectedWord (word : String) : Walk Unit := do
  let token ← back 1
  if token.text = word then errorAt .unexpectedInstruction token true else throw .otherWord

/-- Closes the loop with the given opening statement. -/
def endLoop (index : Nat) : Walk Unit := do
  let start ← statementAt index Statement.start?
  lay (·.push (.goto start))
  let label ← mint
  replace index (loopFinish label)
  lay Draft.leave

/-- Closes a loop, after the word that does. -/
def closeLoop (block : Block) (word : String) : Walk Unit := do
  match block, (← get).draft.frames with
  | .tantque, .tantque index :: _ => endLoop index
  | .pour, .pour index :: _ => endLoop index
  | _, _ => unexpectedWord word

/-- Divides a `si`, after the word that does. -/
def divide : Walk Unit := do
  match (← get).draft.frames with
  | .si index none :: _ => do
    let jump := (← get).draft.size
    lay (·.push (.goto ""))
    let label ← mint
    replace index (siOtherwise label)
    lay fun draft => draft.leave.enter (.si index (some jump))
  | _ => unexpectedWord Keyword.sinon.name

/-- Closes a `si`, after the word that does. -/
def closeSi : Walk Unit := do
  match (← get).draft.frames with
  | .si index jump :: _ => do
    let label ← mint
    match jump with
    | some jump => replace jump (jumpTo label)
    | none => pure ()
    replace index (siFinish label)
    lay Draft.leave
  | _ => unexpectedWord Keyword.finsi.name

/-! ## Items -/

/-- The keywords that start an item, in the order in which they are tried. -/
def starters : List Keyword :=
  [.print, .input, .goto, .deplacer, .attaquer, .pour, .finpour, .tantque, .fintantque, .si, .sinon,
    .finsi, .recharger]

/-- Passes the first of the keywords that is next. -/
def matchKeyword : List Keyword → Walk (Option Keyword)
  | [] => return none
  | keyword :: keywords => do
    if ← matchWord keyword.name then return some keyword else matchKeyword keywords

/-- An item, after the keyword that starts it. -/
def instruction (steps : Nat) : Keyword → Walk Unit
  | .print => do
    let value ← expression steps
    lay (·.push (.print value))
  | .input => do
    let target ← consume .word
    lay (·.push (.input target.text))
  | .goto => do
    let target ← consume .word
    lay (·.push (.goto target.text))
  | .deplacer => aimed .move
  | .attaquer => attack steps
  | .pour => do
    let _ ← consume .leftParen
    let init ← assignment steps
    let condition ← expression steps
    let step ← assignment steps
    let _ ← consume .rightParen
    lay (·.openBlock (.pour init condition step))
  | .finpour => closeLoop .pour Keyword.finpour.name
  | .tantque => do
    let condition ← expression steps
    lay (·.openBlock (.tantque condition))
  | .fintantque => closeLoop .tantque Keyword.fintantque.name
  | .si => do
    let condition ← expression steps
    lay (·.openBlock (.si condition))
  | .sinon => divide
  | .finsi => closeSi
  | .recharger => do
    lay (·.push .reload)
    parentheses
  | _ => throw .otherWord

/-- An assignment, after its target and its sign. -/
def assign (steps : Nat) (name : String) : Walk Unit := do
  modify fun walker => { walker with assigned := name :: walker.assigned }
  let value ← expression steps
  lay (·.push (.assign ⟨name, value⟩))

/-- One item, or the end mark, at which the script ends. -/
def item (steps : Nat) : Walk Bool := do
  if ← matchKind .label then
    let name := (← back 1).text
    lay (·.mark name)
    return true
  else if ← matchPair .word .equals then
    assign steps (← back 2).text
    return true
  else
    match ← matchKeyword starters with
    | some keyword =>
      instruction steps keyword
      return true
    | none =>
      if ← matchKind .endOfFile then return false
      else
        unexpected steps
        return true

/-- Items up to the end of the script. -/
def script : Nat → Walk Unit
  | 0 => throw .exhausted
  | steps + 1 => do
    lineBreaks steps
    if ← item steps then script steps else return ()

end Walk

/-- The mark beyond the tokens of a list is an end mark. -/
theorem Cursor.marked_ofTokens (tokens : List Token) :
    (Cursor.ofTokens tokens).beyond.kind = .endOfFile := by
  unfold Cursor.ofTokens
  cases last : tokens.getLast?.filter fun token => token.kind = .endOfFile with
  | none => rfl
  | some token =>
    obtain ⟨-, isEnd⟩ := Option.filter_eq_some_iff.mp last
    exact of_decide_eq_true isEnd

/-- A walker at the first of some tokens. -/
def Walker.ofTokens (tokens : List Token) : Walker where
  tokens := tokens
  beyond := (Cursor.ofTokens tokens).beyond
  marked := Cursor.marked_ofTokens tokens
  position := 0
  assigned := []
  draft := {}

/-- The program of a list of tokens that is read by positions, in no more steps than given. -/
def walkTokens (steps : Nat) (tokens : List Token) : Except Halt Parse := do
  let (_, walker) ← (Walk.script steps).run (.ofTokens tokens)
  return ⟨walker.draft.program, walker.draft.errors.toList ++ walker.draft.unclosed⟩

end RobotScript
