import RobotScript.Item

/-!
# Readers

A reader takes tokens from a cursor, gives a value, and notes what is wrong on the way. It never
fails and never gives tokens back, which is part of its type, so that reading in a loop ends. Beyond
the last token a cursor shows an end mark.
-/

namespace RobotScript

/-- The tokens that are still to be read, and the mark that stands beyond them. -/
structure Cursor where
  ahead : List Token
  beyond : Token
deriving DecidableEq

namespace Cursor

/-- A cursor at the first token. The last token stands beyond the end if it is an end mark. -/
def ofTokens (tokens : List Token) : Cursor where
  ahead := tokens
  beyond :=
    (tokens.getLast?.filter fun token => token.kind = .endOfFile).getD (Token.endMark .start)

/-- The next token, or the mark beyond the end. -/
def peek (cursor : Cursor) : Token :=
  cursor.ahead.headD cursor.beyond

/-- The cursor after the next token. -/
def next (cursor : Cursor) : Cursor :=
  { cursor with ahead := cursor.ahead.tail }

/-- How many tokens are still to be read. -/
def size (cursor : Cursor) : Nat :=
  cursor.ahead.length

theorem size_next_le (cursor : Cursor) : cursor.next.size ≤ cursor.size := by
  simp [size, next]

theorem size_next_lt {cursor : Cursor} {token : Token} {rest : List Token}
    (nonempty : cursor.ahead = token :: rest) : cursor.next.size < cursor.size := by
  simp [size, next, nonempty]

/-- What is left of the tokens after the current line. An end mark is left in place. -/
def afterLine : List Token → List Token
  | [] => []
  | token :: rest =>
    match token.kind with
    | .endOfFile => token :: rest
    | .lineBreak => rest
    | _ => afterLine rest

theorem length_afterLine_le (tokens : List Token) :
    (afterLine tokens).length ≤ tokens.length := by
  fun_induction afterLine tokens with
  | case1 => exact Nat.le_refl _
  | case2 => exact Nat.le_refl _
  | case3 token rest => exact Nat.le_succ _
  | case4 token rest _ _ ih => exact Nat.le_succ_of_le ih

end Cursor

/-- The outcome of reading: a value, what was wrong, and where reading goes on. -/
structure Reading (α : Type) where
  value : α
  findings : List Finding
  rest : Cursor

/-- A reader. What it leaves is never more than what it was given. -/
def Reader (α : Type) : Type :=
  (cursor : Cursor) → { reading : Reading α // reading.rest.size ≤ cursor.size }

namespace Reader

variable {α β : Type}

/-- Gives a value and reads nothing. -/
def done (value : α) : Reader α :=
  fun cursor => ⟨⟨value, [], cursor⟩, Nat.le_refl _⟩

/-- Reads on with what a first reader gave, keeping the findings of both in order. -/
def andThen (reader : Reader α) (following : α → Reader β) : Reader β :=
  fun cursor =>
    let first := reader cursor
    let second := following first.val.value first.val.rest
    ⟨⟨second.val.value, first.val.findings ++ second.val.findings, second.val.rest⟩,
      Nat.le_trans second.property first.property⟩

instance : Monad Reader where
  pure := done
  bind := andThen

/-- Notes a finding. -/
def note (finding : Finding) : Reader Unit :=
  fun cursor => ⟨⟨(), [finding], cursor⟩, Nat.le_refl _⟩

/-- Notes a diagnostic at a token. -/
def report (cause : Cause) (token : Token) (highlighted : Bool) : Reader Unit :=
  note (.plain (.ofToken cause token highlighted))

/-- The next token, which is not taken. -/
def peek : Reader Token :=
  fun cursor => ⟨⟨cursor.peek, [], cursor⟩, Nat.le_refl _⟩

/-- The token after the next one. Neither is taken. -/
def peekSecond : Reader Token :=
  fun cursor => ⟨⟨cursor.next.peek, [], cursor⟩, Nat.le_refl _⟩

/-- Takes the next token. -/
def skip : Reader Unit :=
  fun cursor => ⟨⟨(), [], cursor.next⟩, cursor.size_next_le⟩

/-- Takes the rest of the line, but no end mark. -/
def skipLine : Reader Unit :=
  fun cursor =>
    ⟨⟨(), [], { cursor with ahead := Cursor.afterLine cursor.ahead }⟩,
      Cursor.length_afterLine_le cursor.ahead⟩

/-- Takes the next token, whatever it is, and notes it if it is not of the kind. -/
def expect (kind : TokenKind) : Reader Token := do
  let token ← peek
  if token.kind ≠ kind then report (.expected kind.description) token false
  skip
  return token

/-- Takes the next token if it is the given word, and notes it otherwise. -/
def expectWord (name : String) : Reader Unit := do
  let token ← peek
  if token.kind = .word ∧ token.text = name then skip
  else report (.expected ("'" ++ name ++ "'")) token false

end Reader

end RobotScript
