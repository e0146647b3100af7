import RobotScript.Proofs.Grammar.Parse
import RobotScript.Proofs.Token.Spaced

/-!
# Written expressions

An expression can be written in a script if its variables are words that mean nothing else in an
expression, its numbers are the values of digits, and its texts hold no quote. `Spells` says how:
the left operand of an operator stands without parentheses, and the right one in parentheses, which
can be left out if it is no operation itself.

1. `exists_spells_iff`: these are the expressions that have a spelling.
2. `reads_of_spells`: a spelling is read as its expression.
3. `proper_of_spells`: a spelling consists of tokens that a script can hold.

`Parse.print_written` puts these together with the scan: what is written for an expression is read
back as that expression.
-/

namespace RobotScript

/-! ## Spellings -/

namespace Operator

/-- The kind of the token for an operator. -/
def kind : Operator → TokenKind
  | equal => .equals
  | _ => .operator

/-- What the token for an operator says. -/
def sign (op : Operator) : Token.Content :=
  (op.kind, op.symbol.toString)

theorem ofChar?_symbol (op : Operator) : TokenKind.ofChar? op.symbol = some op.kind := by
  cases op <;> rfl

theorem ofSymbol?_symbol (op : Operator) : ofSymbol? op.symbol.toString = some op := by
  cases op <;> rfl

end Operator

namespace Expr

/-- A word that is a variable wherever it stands in an expression. -/
structure IsVariable (name : String) : Prop where
  isWord : Text.isWord name = true
  noDirection : Direction.ofKeyword? name = none
  noQuestion : ∀ query, name ≠ Grammar.questionWord query

/-- The expression can be written in a script. -/
def Writable : Expr → Prop
  | literal (.number x) =>
    ∃ digits : String, Text.isNumber digits = true ∧ Decimal.read? digits.toList = some x
  | literal (.text text) => '"' ∉ text.toList
  | literal (.direction _) => True
  | var name => IsVariable name
  | ask _ => True
  | binary _ left right => left.Writable ∧ right.Writable

/-- The expression is an operation. -/
def isBinary : Expr → Bool
  | binary .. => true
  | _ => false

end Expr

namespace Grammar

/-- `Spells expr contents`: the expression is written with tokens that say this.

* A number is written with any digits that have its value.
* A question is followed by its parentheses.
* The left operand of an operator is written without parentheses, and the right operand in
  parentheses. These can be left out if it is no operation. -/
inductive Spells : Expr → List Token.Content → Prop
  | number {x : Float} {digits : String} (isNumber : Text.isNumber digits = true)
      (value : Decimal.read? digits.toList = some x) :
      Spells (.literal (.number x)) [(.number, digits)]
  | text {text : String} (unquoted : '"' ∉ text.toList) :
      Spells (.literal (.text text)) [(.text, text)]
  | direction (direction : Direction) :
      Spells (.literal (.direction direction)) [(.word, direction.keyword)]
  | var {name : String} (isVariable : Expr.IsVariable name) : Spells (.var name) [(.word, name)]
  | ask (query : Query) :
      Spells (.ask query) [(.word, questionWord query), (.leftParen, "("), (.rightParen, ")")]
  | bare {op : Operator} {left right : Expr} {first second : List Token.Content}
      (isAtom : right.isBinary = false) (spelled : Spells left first)
      (operand : Spells right second) :
      Spells (.binary op left right) (first ++ op.sign :: second)
  | enclosed {op : Operator} {left right : Expr} {first second : List Token.Content}
      (spelled : Spells left first) (operand : Spells right second) :
      Spells (.binary op left right)
        (first ++ op.sign :: (.leftParen, "(") :: (second ++ [(.rightParen, ")")]))

/-- `Writes expr source`: the text spells the expression, with spaces between the tokens. -/
def Writes (expr : Expr) (source : String) : Prop :=
  ∃ contents, Spells expr contents ∧ Token.Spaced contents source.toList

/-- The expressions that have a spelling are those that can be written. -/
theorem exists_spells_iff (expr : Expr) :
    (∃ contents, Spells expr contents) ↔ expr.Writable := by
  induction expr with
  | literal value =>
    constructor
    · rintro ⟨contents, spells⟩
      cases spells with
      | number isNumber value => exact ⟨_, isNumber, value⟩
      | text unquoted => exact unquoted
      | direction => trivial
    · intro writable
      cases value with
      | number x =>
        obtain ⟨digits, isNumber, value⟩ := writable
        exact ⟨_, .number isNumber value⟩
      | text text => exact ⟨_, .text writable⟩
      | direction direction => exact ⟨_, .direction direction⟩
  | var name =>
    constructor
    · rintro ⟨contents, spells⟩
      cases spells with
      | var isVariable => exact isVariable
    · exact fun isVariable => ⟨_, .var isVariable⟩
  | binary op left right ihLeft ihRight =>
    rw [Expr.Writable, ← ihLeft, ← ihRight]
    constructor
    · rintro ⟨contents, spells⟩
      cases spells with
      | bare _ spelled operand => exact ⟨⟨_, spelled⟩, ⟨_, operand⟩⟩
      | enclosed spelled operand => exact ⟨⟨_, spelled⟩, ⟨_, operand⟩⟩
    · rintro ⟨⟨first, spelled⟩, ⟨second, operand⟩⟩
      exact ⟨_, .enclosed spelled operand⟩
  | ask query => exact ⟨fun _ => trivial, fun _ => ⟨_, .ask query⟩⟩

/-- A spelling consists of tokens that a script can hold. -/
theorem proper_of_spells {expr : Expr} {contents : List Token.Content}
    (spells : Spells expr contents) :
    ∀ content ∈ contents, content.Proper := by
  have leftParen : Token.Content.Proper (.leftParen, "(") := .sign (c := '(') rfl
  have rightParen : Token.Content.Proper (.rightParen, ")") := .sign (c := ')') rfl
  have signs : ∀ op : Operator, op.sign.Proper := fun op => .sign op.ofChar?_symbol
  induction spells with
  | number isNumber => exact List.forall_mem_singleton.mpr (.number isNumber)
  | text unquoted => exact List.forall_mem_singleton.mpr (.text unquoted)
  | direction direction =>
    have isWord : Text.isWord direction.keyword = true := by cases direction <;> decide
    exact List.forall_mem_singleton.mpr (.word isWord)
  | var isVariable => exact List.forall_mem_singleton.mpr (.word isVariable.isWord)
  | ask query =>
    have isWord : Text.isWord (questionWord query) = true := by cases query <;> decide
    exact List.forall_mem_cons.mpr ⟨.word isWord, List.forall_mem_cons.mpr ⟨leftParen,
      List.forall_mem_singleton.mpr rightParen⟩⟩
  | bare _ _ _ ihLeft ihRight =>
    exact List.forall_mem_append.mpr ⟨ihLeft, List.forall_mem_cons.mpr ⟨signs _, ihRight⟩⟩
  | enclosed _ _ ihLeft ihRight =>
    exact List.forall_mem_append.mpr ⟨ihLeft,
      List.forall_mem_cons.mpr ⟨signs _, List.forall_mem_cons.mpr ⟨leftParen,
      List.forall_mem_append.mpr ⟨ihRight, List.forall_mem_singleton.mpr rightParen⟩⟩⟩⟩

/-! ## Reading a spelling -/

theorem isSign_of_sign {token : Token} {op : Operator} (said : token.content = op.sign) :
    Reader.isSign token = true ∧ Operator.ofSymbol? token.text = some op := by
  obtain ⟨isKind, named⟩ := Prod.mk.inj said
  rw [named]
  refine ⟨decide_eq_true ?_, op.ofSymbol?_symbol⟩
  rw [isKind]
  cases op <;> first | exact .inl rfl | exact .inr rfl

/-- A spelling that is no operation is read as an atom. -/
theorem reads_atom_of_spells {expr : Expr} {contents : List Token.Content}
    (spells : Spells expr contents) (isAtom : expr.isBinary = false) {tokens : List Token}
    (said : tokens.map Token.content = contents) (rest : List Token) :
    Reads .atom (tokens ++ rest) expr rest := by
  cases spells with
  | @number x digits isNumber value =>
    obtain ⟨token, rfl, same⟩ := List.map_eq_singleton_iff.mp said
    obtain ⟨isKind, rfl⟩ := Prod.mk.inj same
    have number : Reader.tokenNumber token = x := by
      rw [Reader.tokenNumber, value, Option.getD_some]
    exact number ▸ .number isKind
  | text =>
    obtain ⟨token, rfl, same⟩ := List.map_eq_singleton_iff.mp said
    obtain ⟨isKind, rfl⟩ := Prod.mk.inj same
    exact .text isKind
  | direction direction =>
    obtain ⟨token, rfl, same⟩ := List.map_eq_singleton_iff.mp said
    obtain ⟨isKind, named⟩ := Prod.mk.inj same
    exact .direction isKind (named ▸ direction.ofKeyword?_keyword)
  | var isVariable =>
    obtain ⟨token, rfl, same⟩ := List.map_eq_singleton_iff.mp said
    obtain ⟨isKind, rfl⟩ := Prod.mk.inj same
    exact .var isKind isVariable.noDirection (isVariable.noQuestion .enemy)
      (isVariable.noQuestion .alive)
  | ask query =>
    obtain ⟨word, tokens, rfl, asked, said⟩ := List.map_eq_cons_iff.mp said
    obtain ⟨opening, tokens, rfl, opens, said⟩ := List.map_eq_cons_iff.mp said
    obtain ⟨closing, rfl, closes⟩ := List.map_eq_singleton_iff.mp said
    obtain ⟨isKind, named⟩ := Prod.mk.inj asked
    exact .question isKind named (Prod.mk.inj opens).1 (Prod.mk.inj closes).1
  | bare => cases isAtom
  | enclosed => cases isAtom

/-- A spelling is read as its expression, and the operators that follow it are applied to that. -/
theorem reads_of_spells {expr result : Expr} {contents : List Token.Content}
    (spells : Spells expr contents) {tokens rest final : List Token}
    (said : tokens.map Token.content = contents) (more : Reads (.chain expr) rest result final) :
    Reads .expression (tokens ++ rest) result final := by
  -- the left operand comes first, so the operator and its right operand are what follows it
  induction spells generalizing tokens rest result final with
  | number isNumber value =>
    exact .expression (reads_atom_of_spells (.number isNumber value) rfl said rest) more
  | text unquoted => exact .expression (reads_atom_of_spells (.text unquoted) rfl said rest) more
  | direction direction =>
    exact .expression (reads_atom_of_spells (.direction direction) rfl said rest) more
  | var isVariable => exact .expression (reads_atom_of_spells (.var isVariable) rfl said rest) more
  | ask query => exact .expression (reads_atom_of_spells (.ask query) rfl said rest) more
  | bare isAtom _ operand ihLeft _ =>
    obtain ⟨before, later, rfl, first, said⟩ := List.map_eq_append_iff.mp said
    obtain ⟨sign, after, rfl, signed, second⟩ := List.map_eq_cons_iff.mp said
    obtain ⟨isSign, named⟩ := isSign_of_sign signed
    rw [List.append_assoc]
    exact ihLeft first
      (.operator isSign named (reads_atom_of_spells operand isAtom second rest) more)
  | enclosed _ operand ihLeft ihRight =>
    obtain ⟨before, later, rfl, first, said⟩ := List.map_eq_append_iff.mp said
    obtain ⟨sign, later, rfl, signed, said⟩ := List.map_eq_cons_iff.mp said
    obtain ⟨opening, later, rfl, opens, said⟩ := List.map_eq_cons_iff.mp said
    obtain ⟨inner, last, rfl, second, said⟩ := List.map_eq_append_iff.mp said
    obtain ⟨closing, rfl, closes⟩ := List.map_eq_singleton_iff.mp said
    obtain ⟨isSign, named⟩ := isSign_of_sign signed
    have isClosing : closing.kind = .rightParen := (Prod.mk.inj closes).1
    have noSign : ∀ token ∈ (closing :: rest).head?, Reader.isSign token = false := by
      intro token member
      cases member
      simp [Reader.isSign, isClosing]
    have inside := ihRight second (.noMore noSign)
    have atom := Reads.parentheses (Prod.mk.inj opens).1 inside isClosing
    rw [List.append_assoc]
    refine ihLeft first (.operator isSign named ?_ more)
    simpa using atom

/-- A spelling does not start with `=`. -/
theorem noEquals_of_spells {expr : Expr} {contents : List Token.Content}
    (spells : Spells expr contents) :
    ∃ content others, contents = content :: others ∧ content.1 ≠ .equals := by
  induction spells with
  | number | text | direction | var | ask => exact ⟨_, _, rfl, TokenKind.noConfusion⟩
  | bare _ _ _ ihLeft _ =>
    obtain ⟨content, others, rfl, differs⟩ := ihLeft
    exact ⟨content, _, rfl, differs⟩
  | enclosed _ _ ihLeft _ =>
    obtain ⟨content, others, rfl, differs⟩ := ihLeft
    exact ⟨content, _, rfl, differs⟩

theorem derives_lineBreaks {assigned : List String} {breaks rest : List Token}
    (broken : ∀ token ∈ breaks, token.kind = .lineBreak) :
    Derives assigned (breaks ++ rest) .empty assigned rest := by
  induction breaks with
  | nil => exact .empty
  | cons token breaks ih =>
    obtain ⟨isBreak, later⟩ := List.forall_mem_cons.mp broken
    exact .lineBreak isBreak (ih later)

/-- A spelling after the keyword, with line breaks after it, is a script with one item. -/
theorem accepts_print {expr : Expr} {contents : List Token.Content} (spells : Spells expr contents)
    {word mark : Token} {tokens breaks : List Token}
    (named : word.content = (.word, Keyword.print.name))
    (said : tokens.map Token.content = contents)
    (broken : ∀ token ∈ breaks, token.kind = .lineBreak) (isEnd : mark.kind = .endOfFile) :
    Accepts (word :: (tokens ++ (breaks ++ [mark]))) (.simple (.print expr) .empty) := by
  have noTarget : NoEquals (tokens ++ (breaks ++ [mark])) := by
    obtain ⟨content, others, rfl, differs⟩ := noEquals_of_spells spells
    obtain ⟨first, later, rfl, rfl, -⟩ := List.map_eq_cons_iff.mp said
    intro token member
    cases member
    exact differs
  have noSign : ∀ token ∈ (breaks ++ [mark]).head?, Reader.isSign token = false := by
    intro token member
    have past : token.kind = .lineBreak ∨ token.kind = .endOfFile := by
      rcases List.mem_append.mp (List.mem_of_head? member) with inside | last
      · exact .inl (broken token inside)
      · exact .inr (List.mem_singleton.mp last ▸ isEnd)
    rcases past with isBreak | isEnd
    · simp [Reader.isSign, isBreak]
    · simp [Reader.isSign, isEnd]
  obtain ⟨isWord, isPrint⟩ := Prod.mk.inj named
  have value := reads_of_spells spells said (.noMore noSign)
  exact ⟨[], mark, isEnd,
    .simple (.print (.here isWord isPrint noTarget) value) (derives_lineBreaks broken)⟩

end Grammar

namespace Parse

/-- The expressions that can be written are those with a spelling. Whatever spelling is written
after the keyword, with or without spaces, nothing is wrong with it, and the program is the one
statement that prints the expression. -/
theorem print_written (expr : Expr) :
    (expr.Writable ↔ ∃ source, Grammar.Writes expr source) ∧
    ∀ source, Grammar.Writes expr source →
      Parse.ofSource ("print " ++ source) = ⟨⟨#[.print expr], {}⟩, []⟩ := by
  constructor
  · rw [← Grammar.exists_spells_iff]
    constructor
    · rintro ⟨contents, spells⟩
      obtain ⟨source, spaced⟩ := Token.exists_spaced contents
      exact ⟨source, contents, spells, spaced⟩
    · rintro ⟨source, contents, spells, -⟩
      exact ⟨contents, spells⟩
  · rintro source ⟨contents, spells, spaced⟩
    have begins :
        Token.Spaced ((.word, "print") :: contents) ("print".toList ++ ' ' :: source.toList) :=
      .cons (fun _ c first => .inl (Option.some.inj first).symm) (.space spaced)
    have proper : ∀ content ∈ (.word, "print") :: contents, Token.Content.Proper content :=
      List.forall_mem_cons.mpr ⟨.word (by decide), Grammar.proper_of_spells spells⟩
    obtain ⟨tokens, said, scanned⟩ :=
      Token.scan_spaced begins proper ⟨'\n', ['\n'], rfl, .inr rfl⟩ .start
    obtain ⟨word, tokens, rfl, named, said⟩ := List.map_eq_cons_iff.mp said
    have written : ("print " ++ source ++ "\n\n").toList =
        "print".toList ++ ' ' :: source.toList ++ ['\n', '\n'] := by
      simp
    have ended : ∀ place : Place, ∃ breaks mark, Token.scan .between place ['\n', '\n'] =
        breaks ++ [mark] ∧
        (∀ token ∈ breaks, token.kind = .lineBreak) ∧ mark.kind = .endOfFile :=
      fun place => ⟨[_, _], _, rfl, by simp, rfl⟩
    obtain ⟨breaks, mark, last, broken, isEnd⟩ :=
      ended (Place.start.afterAll ("print".toList ++ ' ' :: source.toList))
    rw [last, ← written, List.cons_append] at scanned
    have accepts := Grammar.accepts_print spells named said broken isEnd
    rw [← scanned] at accepts
    exact ofSource_of_accepts accepts

/-- An expression whose variables are named like keywords. -/
def keywordNamed : Expr :=
  .binary .subtract (.var "print") (.binary .equal (.var "si") (.num 7.0))

/-- Spaces are left out next to signs, and the number starts with zeros. -/
theorem print_written_keywordNamed :
    Grammar.Writes keywordNamed "print -(si = 007)" ∧
    Parse.ofSource ("print " ++ "print -(si = 007)") =
      ⟨⟨#[.print keywordNamed], {}⟩, []⟩ := by
  have outer : Expr.IsVariable "print" :=
    ⟨by decide, by decide, fun query => by cases query <;> decide⟩
  have inner : Expr.IsVariable "si" :=
    ⟨by decide, by decide, fun query => by cases query <;> decide⟩
  have number : Decimal.read? "007".toList = some 7.0 := by decide +kernel
  have operand : Grammar.Spells (.binary .equal (.var "si") (.num 7.0))
      [(.word, "si"), Operator.equal.sign, (.number, "007")] :=
    .bare rfl (.var inner) (.number (by decide) number)
  have spells : Grammar.Spells keywordNamed [(.word, "print"), Operator.subtract.sign,
      (.leftParen, "("), (.word, "si"), Operator.equal.sign, (.number, "007"),
      (.rightParen, ")")] :=
    .enclosed (.var outer) operand
  have rest : Token.Spaced [(.word, "si"), Operator.equal.sign, (.number, "007"),
      (.rightParen, ")")] "si = 007)".toList :=
    @Token.Spaced.cons (.word, "si") _ " = 007)".toList
      (fun _ => Token.parts_head rfl (show Token.Parts ' ' by decide))
      (.space (@Token.Spaced.cons Operator.equal.sign _ " 007)".toList (by decide)
      (.space (@Token.Spaced.cons (.number, "007") _ ")".toList
        (fun _ => Token.parts_head rfl (show Token.Parts ')' by decide))
      (@Token.Spaced.cons (.rightParen, ")") _ [] (by decide) .nil)))))
  have spaced :
      Token.Spaced [(.word, "print"), Operator.subtract.sign, (.leftParen, "("), (.word, "si"),
        Operator.equal.sign, (.number, "007"), (.rightParen, ")")] "print -(si = 007)".toList :=
    @Token.Spaced.cons (.word, "print") _ " -(si = 007)".toList
      (fun _ => Token.parts_head rfl (show Token.Parts ' ' by decide))
      (.space (@Token.Spaced.cons Operator.subtract.sign _ "(si = 007)".toList (by decide)
      (@Token.Spaced.cons (.leftParen, "(") _ _ (by decide) rest)))
  have writes : Grammar.Writes keywordNamed "print -(si = 007)" := ⟨_, spells, spaced⟩
  exact ⟨writes, (print_written keywordNamed).2 _ writes⟩

end Parse

end RobotScript
