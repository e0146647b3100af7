import RobotScript.Place
import RobotScript.Text.Letter

/-!
# Tokens

A script is read as tokens: words, numbers, quoted texts, labels, line breaks, signs, and one end
mark. `tokenize` never fails. A character that starts no token separates, a comment runs from `#` to
the end of its line, and a word, number or text that the end of the script cuts off is dropped.

The scan keeps what it is in the middle of as a `Mode`. `Mode.feed` says which tokens a character
completes and which mode it leaves.
-/

namespace RobotScript

/-- The kinds of tokens. -/
inductive TokenKind where
  | word
  | number
  | text
  | label
  | lineBreak
  | equals
  | operator
  | leftParen
  | rightParen
  | endOfFile
deriving DecidableEq, Repr

/-- What a kind of token is called in a message. -/
def TokenKind.description : TokenKind → String
  | word => "a word (variable or instruction)"
  | number => "a number"
  | text => "a string"
  | label => "a label"
  | lineBreak => "a line break"
  | equals => "'='"
  | operator => "an operator"
  | leftParen => "'('"
  | rightParen => "')'"
  | endOfFile => "end of file"

/-- The kind of the tokens that are one fixed character. -/
def TokenKind.ofChar? (c : Char) : Option TokenKind :=
  match c with
  | '\n' => some .lineBreak
  | '=' => some .equals
  | '(' => some .leftParen
  | ')' => some .rightParen
  | '+' | '-' | '*' | '/' | '<' | '>' | '!' => some .operator
  | _ => none

/-- A token: its text, without the quotes of a quoted text and the colon of a label, its kind, and
the place of its first character. -/
structure Token where
  text : String
  kind : TokenKind
  place : Place
deriving DecidableEq, Repr

namespace Token

/-- The mark at the end of a script. -/
def endMark (place : Place) : Token := ⟨"", .endOfFile, place⟩

/-- What the scan is in the middle of, with the place and the text of the token it has begun. -/
inductive Mode where
  | between
  | word (start : Place) (text : String)
  | number (start : Place) (text : String)
  | quoted (start : Place) (text : String)
  | comment
deriving DecidableEq, Repr

namespace Mode

/-- A character between tokens. -/
def enter (place : Place) (c : Char) : List Token × Mode :=
  match TokenKind.ofChar? c with
  | some kind => ([⟨c.toString, kind, place⟩], between)
  | none =>
    if Text.isLetter c then ([], word place c.toString)
    else if c.isDigit then ([], number place c.toString)
    else if c = '"' then ([], quoted place "")
    else if c = '#' then ([], comment)
    else ([], between)

/-- The tokens that a character completes, and the mode after it. A character that cannot go on with
a word or a number ends it and is then read between tokens. -/
def feed (mode : Mode) (place : Place) (c : Char) : List Token × Mode :=
  match mode with
  | between => Mode.enter place c
  | word start text =>
    if Text.isWordChar c then ([], word start (text.push c))
    else if c = ':' then ([⟨text, .label, start⟩], between)
    else
      let (tokens, mode) := Mode.enter place c
      (⟨text, .word, start⟩ :: tokens, mode)
  | number start text =>
    if c.isDigit then ([], number start (text.push c))
    else
      let (tokens, mode) := Mode.enter place c
      (⟨text, .number, start⟩ :: tokens, mode)
  | quoted start text =>
    if c = '"' then ([⟨text, .text, start⟩], between) else ([], quoted start (text.push c))
  | comment => if c = '\n' then Mode.enter place c else ([], comment)

end Mode

/-- The tokens of a text that is read from a mode and a place on. -/
def scan (mode : Mode) (place : Place) : List Char → List Token
  | [] => [endMark place]
  | c :: rest => (mode.feed place c).1 ++ scan (mode.feed place c).2 (place.after c) rest

/-- The tokens of a script. -/
def tokenize (source : String) : List Token :=
  scan .between .start source.toList

end Token

end RobotScript
