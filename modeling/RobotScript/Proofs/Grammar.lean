import RobotScript.Item.Expression
import RobotScript.Proofs.Script

/-!
# The grammar

The grammar of scripts, as relations between the tokens from some place on, what stands there, and
the tokens after it.

* `Reads` is the grammar of expressions. An expression takes every operator that follows it.
* `Forms` is the grammar of simple items, and `Opens` that of the first lines of blocks.
* `Derives` is the grammar of scripts. It carries the names that earlier assignment statements
  wrote, since these can stand where a direction is due.
* `Accepts` is the grammar of a whole token list: a script, and the end mark after it.

A word in front of `=` is the target of an assignment whatever it is. So a keyword is one only where
no `=` follows it.
-/

namespace RobotScript.Grammar

/-! ## Expressions -/

/-- The parts of an expression. A chain is what follows the expression that has been read so far. -/
inductive Phrase where
  | atom
  | expression
  | chain (left : Expr)

/-- The word with which a question is asked. -/
def questionWord : Query → String
  | .enemy => Keyword.detecterEnnemi.name
  | .alive => Keyword.estVivant.name

/-- `Reads phrase tokens expr rest`: the phrase stands at the start of the tokens, gives the
expression, and leaves the rest.

* A word is a direction, a question with its parentheses, or a variable.
* An expression is an atom and a chain.
* A chain is over when no sign follows. So it takes as many operators as there are. -/
inductive Reads : Phrase → List Token → Expr → List Token → Prop
  | direction {word : Token} {direction : Direction} {rest : List Token}
      (isWord : word.kind = .word) (named : Direction.ofKeyword? word.text = some direction) :
      Reads .atom (word :: rest) (.literal (.direction direction)) rest
  | question {word opening closing : Token} {query : Query} {rest : List Token}
      (isWord : word.kind = .word) (named : word.text = questionWord query)
      (opens : opening.kind = .leftParen) (closes : closing.kind = .rightParen) :
      Reads .atom (word :: opening :: closing :: rest) (.ask query) rest
  | var {word : Token} {rest : List Token} (isWord : word.kind = .word)
      (noDirection : Direction.ofKeyword? word.text = none)
      (notEnemy : word.text ≠ Keyword.detecterEnnemi.name)
      (notAlive : word.text ≠ Keyword.estVivant.name) :
      Reads .atom (word :: rest) (.var word.text) rest
  | number {token : Token} {rest : List Token} (isNumber : token.kind = .number) :
      Reads .atom (token :: rest) (.num (Reader.tokenNumber token)) rest
  | text {token : Token} {rest : List Token} (isText : token.kind = .text) :
      Reads .atom (token :: rest) (.literal (.text token.text)) rest
  | parentheses {opening closing : Token} {tokens rest : List Token} {expr : Expr}
      (opens : opening.kind = .leftParen) (inner : Reads .expression tokens expr (closing :: rest))
      (closes : closing.kind = .rightParen) :
      Reads .atom (opening :: tokens) expr rest
  | expression {tokens middle rest : List Token} {left expr : Expr}
      (first : Reads .atom tokens left middle) (more : Reads (.chain left) middle expr rest) :
      Reads .expression tokens expr rest
  | noMore {left : Expr} {rest : List Token}
      (noSign : ∀ token ∈ rest.head?, Reader.isSign token = false) :
      Reads (.chain left) rest left rest
  | operator {sign : Token} {tokens middle rest : List Token} {left right expr : Expr}
      {op : Operator} (isSign : Reader.isSign sign = true)
      (named : Operator.ofSymbol? sign.text = some op) (second : Reads .atom tokens right middle)
      (more : Reads (.chain (.binary op left right)) middle expr rest) :
      Reads (.chain left) (sign :: tokens) expr rest

/-! ## Items -/

/-- No `=` stands at the start of the tokens. -/
def NoEquals (tokens : List Token) : Prop :=
  ∀ token ∈ tokens.head?, token.kind ≠ .equals

/-- The tokens start with a keyword that is not the target of an assignment, and go on with the
rest. -/
inductive Starts (keyword : Keyword) : List Token → List Token → Prop
  | here {word : Token} {rest : List Token} (isWord : word.kind = .word)
      (named : word.text = keyword.name) (noTarget : NoEquals rest) :
      Starts keyword (word :: rest) rest

/-- What a word stands for where a direction is due: itself, if an earlier assignment statement
wrote it, and otherwise the direction of which it is the keyword. -/
inductive Aims (assigned : List String) : String → Bearing → Prop
  | held {name : String} (known : name ∈ assigned) : Aims assigned name (.held name)
  | toward {name : String} {direction : Direction} (unknown : name ∉ assigned)
      (named : Direction.ofKeyword? name = some direction) : Aims assigned name (.toward direction)

/-- `Sets tokens assignment rest`: an assignment stands at the start of the tokens, as a statement
or in the header of a counted loop. -/
inductive Sets : List Token → Assignment → List Token → Prop
  | here {target sign : Token} {tokens rest : List Token} {expr : Expr}
      (isWord : target.kind = .word) (isEquals : sign.kind = .equals)
      (value : Reads .expression tokens expr rest) :
      Sets (target :: sign :: tokens) ⟨target.text, expr⟩ rest

/-- `Forms assigned tokens item rest`: the simple item stands at the start of the tokens and leaves
the rest. -/
inductive Forms (assigned : List String) : List Token → Simple → List Token → Prop
  | assign {tokens rest : List Token} {assignment : Assignment}
      (sets : Sets tokens assignment rest) :
      Forms assigned tokens (.assign assignment) rest
  | print {tokens middle rest : List Token} {expr : Expr} (starts : Starts .print tokens middle)
      (value : Reads .expression middle expr rest) : Forms assigned tokens (.print expr) rest
  | input {tokens rest : List Token} {target : Token}
      (starts : Starts .input tokens (target :: rest)) (isWord : target.kind = .word) :
      Forms assigned tokens (.input target.text) rest
  | goto {tokens rest : List Token} {target : Token} (starts : Starts .goto tokens (target :: rest))
      (isWord : target.kind = .word) : Forms assigned tokens (.goto target.text) rest
  | move {tokens rest : List Token} {opening word closing : Token} {bearing : Bearing}
      (starts : Starts .deplacer tokens (opening :: word :: closing :: rest))
      (opens : opening.kind = .leftParen) (isWord : word.kind = .word)
      (aims : Aims assigned word.text bearing) (closes : closing.kind = .rightParen) :
      Forms assigned tokens (.move bearing) rest
  | shoot {tokens rest : List Token} {attack opening word closing : Token} {bearing : Bearing}
      (starts : Starts .attaquer tokens (attack :: opening :: word :: closing :: rest))
      (attacks : attack.kind = .word) (named : attack.text = Keyword.tirer.name)
      (opens : opening.kind = .leftParen) (isWord : word.kind = .word)
      (aims : Aims assigned word.text bearing) (closes : closing.kind = .rightParen) :
      Forms assigned tokens (.shoot bearing) rest
  | melee {tokens rest : List Token} {attack opening word closing : Token} {direction : Direction}
      (starts : Starts .attaquer tokens (attack :: opening :: word :: closing :: rest))
      (attacks : attack.kind = .word) (named : attack.text = Keyword.melee.name)
      (opens : opening.kind = .leftParen)
      (isWord : word.kind = .word) (aims : Direction.ofKeyword? word.text = some direction)
      (closes : closing.kind = .rightParen) :
      Forms assigned tokens (.melee direction) rest
  | reload {tokens rest : List Token} {opening closing : Token}
      (starts : Starts .recharger tokens (opening :: closing :: rest))
      (opens : opening.kind = .leftParen) (closes : closing.kind = .rightParen) :
      Forms assigned tokens .reload rest

/-- `Opens tokens header rest`: the first line of a block stands at the start of the tokens. -/
inductive Opens : List Token → Header → List Token → Prop
  | si {tokens middle rest : List Token} {condition : Expr} (starts : Starts .si tokens middle)
      (test : Reads .expression middle condition rest) : Opens tokens (.si condition) rest
  | tantque {tokens middle rest : List Token} {condition : Expr}
      (starts : Starts .tantque tokens middle) (test : Reads .expression middle condition rest) :
      Opens tokens (.tantque condition) rest
  | pour {tokens first second third rest : List Token} {opening closing : Token}
      {init step : Assignment} {condition : Expr} (starts : Starts .pour tokens (opening :: first))
      (opens : opening.kind = .leftParen) (enters : Sets first init second)
      (test : Reads .expression second condition third) (steps : Sets third step (closing :: rest))
      (closes : closing.kind = .rightParen) :
      Opens tokens (.pour init condition step) rest

/-! ## Scripts -/

/-- `Derives assigned tokens script written rest`: the script stands at the start of the tokens and
leaves the rest, where `assigned` are the names that were written before it and `written` those
after it. Line breaks stand between items only. -/
inductive Derives : List String → List Token → Script → List String → List Token → Prop
  | empty {assigned : List String} {tokens : List Token} :
      Derives assigned tokens .empty assigned tokens
  | lineBreak {assigned written : List String} {token : Token} {tokens rest : List Token}
      {script : Script} (isBreak : token.kind = .lineBreak)
      (later : Derives assigned tokens script written rest) :
      Derives assigned (token :: tokens) script written rest
  | label {assigned written : List String} {token : Token} {tokens rest : List Token}
      {script : Script} (isLabel : token.kind = .label)
      (later : Derives assigned tokens script written rest) :
      Derives assigned (token :: tokens) (.label token.text script) written rest
  | simple {assigned written : List String} {tokens middle rest : List Token} {item : Simple}
      {script : Script} (forms : Forms assigned tokens item middle)
      (later : Derives (item.assigned ++ assigned) middle script written rest) :
      Derives assigned tokens (.simple item script) written rest
  | si {assigned inner written : List String} {tokens first second third rest : List Token}
      {condition : Expr} {body script : Script} (opens : Opens tokens (.si condition) first)
      (inside : Derives assigned first body inner second) (ends : Starts .finsi second third)
      (later : Derives inner third script written rest) :
      Derives assigned tokens (.si condition body script) written rest
  | siSinon {assigned inner last written : List String}
      {tokens first second third fourth fifth rest : List Token} {condition : Expr}
      {body alternative script : Script} (opens : Opens tokens (.si condition) first)
      (inside : Derives assigned first body inner second) (divides : Starts .sinon second third)
      (other : Derives inner third alternative last fourth) (ends : Starts .finsi fourth fifth)
      (later : Derives last fifth script written rest) :
      Derives assigned tokens (.siSinon condition body alternative script) written rest
  | tantque {assigned inner written : List String} {tokens first second third rest : List Token}
      {condition : Expr} {body script : Script} (opens : Opens tokens (.tantque condition) first)
      (inside : Derives assigned first body inner second) (ends : Starts .fintantque second third)
      (later : Derives inner third script written rest) :
      Derives assigned tokens (.tantque condition body script) written rest
  | pour {assigned inner written : List String} {tokens first second third rest : List Token}
      {init step : Assignment} {condition : Expr} {body script : Script}
      (opens : Opens tokens (.pour init condition step) first)
      (inside : Derives assigned first body inner second) (ends : Starts .finpour second third)
      (later : Derives inner third script written rest) :
      Derives assigned tokens (.pour init condition step body script) written rest

/-- A token list is a script: items up to the end mark, which is the last token. -/
def Accepts (tokens : List Token) (script : Script) : Prop :=
  ∃ written mark, mark.kind = .endOfFile ∧ Derives [] tokens script written [mark]

/-! ## What a derivation uses up -/

/-- The rest is what is left of the tokens after some that are no end marks. -/
def Spends (tokens rest : List Token) : Prop :=
  ∃ used, tokens = used ++ rest ∧ ∀ token ∈ used, token.kind ≠ .endOfFile

theorem Spends.refl (tokens : List Token) : Spends tokens tokens :=
  ⟨[], rfl, nofun⟩

theorem Spends.trans {tokens middle rest : List Token} (first : Spends tokens middle)
    (second : Spends middle rest) :
    Spends tokens rest := by
  obtain ⟨used, rfl, real⟩ := first
  obtain ⟨more, rfl, later⟩ := second
  refine ⟨used ++ more, (List.append_assoc ..).symm, ?_⟩
  intro token member
  exact (List.mem_append.mp member).elim (real token) (later token)

/-- A token of another kind than an end mark is used up. -/
theorem Spends.cons {token : Token} {tokens rest : List Token} {kind : TokenKind}
    (found : token.kind = kind) (real : kind ≠ .endOfFile) (later : Spends tokens rest) :
    Spends (token :: tokens) rest := by
  obtain ⟨used, rfl, others⟩ := later
  refine ⟨token :: used, rfl, ?_⟩
  intro other member
  rcases List.mem_cons.mp member with rfl | member
  · rw [found]
    exact real
  · exact others other member

theorem Spends.mem {tokens rest : List Token} (spends : Spends tokens rest) {token : Token}
    (member : token ∈ rest) :
    token ∈ tokens := by
  obtain ⟨used, rfl, -⟩ := spends
  exact List.mem_append_right _ member

theorem Spends.length_le {tokens rest : List Token} (spends : Spends tokens rest) :
    rest.length ≤ tokens.length := by
  obtain ⟨used, rfl, -⟩ := spends
  rw [List.length_append]
  exact Nat.le_add_left ..

theorem Reads.spends {phrase : Phrase} {tokens rest : List Token} {expr : Expr}
    (reads : Reads phrase tokens expr rest) : Spends tokens rest := by
  induction reads with
  | direction isWord => exact .cons isWord (by decide) (.refl _)
  | question isWord _ opens closes =>
    exact .cons isWord (by decide) (.cons opens (by decide) (.cons closes (by decide) (.refl _)))
  | var isWord => exact .cons isWord (by decide) (.refl _)
  | number isNumber => exact .cons isNumber (by decide) (.refl _)
  | text isText => exact .cons isText (by decide) (.refl _)
  | parentheses opens _ closes ih =>
    exact .cons opens (by decide) (ih.trans (.cons closes (by decide) (.refl _)))
  | expression _ _ ihFirst ihMore => exact ihFirst.trans ihMore
  | noMore => exact .refl _
  | operator isSign _ _ _ ihSecond ihMore =>
    rcases of_decide_eq_true isSign with isOperator | isEquals
    · exact .cons isOperator (by decide) (ihSecond.trans ihMore)
    · exact .cons isEquals (by decide) (ihSecond.trans ihMore)

theorem Starts.spends {keyword : Keyword} {tokens rest : List Token}
    (starts : Starts keyword tokens rest) :
    Spends tokens rest := by
  cases starts with
  | here isWord => exact .cons isWord (by decide) (.refl _)

theorem Starts.length_lt {keyword : Keyword} {tokens rest : List Token}
    (starts : Starts keyword tokens rest) :
    rest.length < tokens.length := by
  cases starts with
  | here => exact Nat.lt_succ_self _

theorem Sets.spends {tokens rest : List Token} {assignment : Assignment}
    (sets : Sets tokens assignment rest) :
    Spends tokens rest := by
  cases sets with
  | here isWord isEquals value =>
    exact .cons isWord (by decide) (.cons isEquals (by decide) value.spends)

theorem Forms.spends {assigned : List String} {tokens rest : List Token} {item : Simple}
    (forms : Forms assigned tokens item rest) : Spends tokens rest := by
  cases forms with
  | assign sets => exact sets.spends
  | print starts value => exact starts.spends.trans value.spends
  | input starts isWord => exact starts.spends.trans (.cons isWord (by decide) (.refl _))
  | goto starts isWord => exact starts.spends.trans (.cons isWord (by decide) (.refl _))
  | move starts opens isWord _ closes =>
    exact starts.spends.trans
      (.cons opens (by decide) (.cons isWord (by decide) (.cons closes (by decide) (.refl _))))
  | shoot starts attacks _ opens isWord _ closes =>
    exact starts.spends.trans
      (.cons attacks (by decide) (.cons opens (by decide) (.cons isWord (by decide)
      (.cons closes (by decide) (.refl _)))))
  | melee starts attacks _ opens isWord _ closes =>
    exact starts.spends.trans
      (.cons attacks (by decide) (.cons opens (by decide) (.cons isWord (by decide)
      (.cons closes (by decide) (.refl _)))))
  | reload starts opens closes =>
    exact starts.spends.trans (.cons opens (by decide) (.cons closes (by decide) (.refl _)))

theorem Opens.spends {tokens rest : List Token} {header : Header}
    (opens : Opens tokens header rest) :
    Spends tokens rest := by
  cases opens with
  | si starts test => exact starts.spends.trans test.spends
  | tantque starts test => exact starts.spends.trans test.spends
  | pour starts opens enters test steps closes =>
    exact starts.spends.trans
      (.cons opens (by decide) (enters.spends.trans (test.spends.trans (steps.spends.trans
      (.cons closes (by decide) (.refl _))))))

theorem Derives.spends {assigned written : List String} {tokens rest : List Token} {script : Script}
    (derives : Derives assigned tokens script written rest) : Spends tokens rest := by
  induction derives with
  | empty => exact .refl _
  | lineBreak isBreak _ ih => exact .cons isBreak (by decide) ih
  | label isLabel _ ih => exact .cons isLabel (by decide) ih
  | simple forms _ ih => exact forms.spends.trans ih
  | si opens _ ends _ ihInside ihLater =>
    exact opens.spends.trans (ihInside.trans (ends.spends.trans ihLater))
  | siSinon opens _ divides _ ends _ ihInside ihOther ihLater =>
    exact opens.spends.trans
      (ihInside.trans (divides.spends.trans (ihOther.trans (ends.spends.trans ihLater))))
  | tantque opens _ ends _ ihInside ihLater =>
    exact opens.spends.trans (ihInside.trans (ends.spends.trans ihLater))
  | pour opens _ ends _ ihInside ihLater =>
    exact opens.spends.trans (ihInside.trans (ends.spends.trans ihLater))

/-! ## Where a script jumps -/

/-- The tokens hold the word for a jump, and the label as a word. -/
def Jumps (tokens : List Token) (label : String) : Prop :=
  (∃ word ∈ tokens, word.text = Keyword.goto.name) ∧ ∃ token ∈ tokens,
    token.kind = .word ∧ token.text = label

/-- What stands in the tokens that are left stands in all tokens. -/
theorem Spends.jumps {tokens rest : List Token} {label : String} (spends : Spends tokens rest)
    (jumps : Jumps rest label) : Jumps tokens label := by
  obtain ⟨⟨word, first, named⟩, token, second, found⟩ := jumps
  exact ⟨⟨word, spends.mem first, named⟩, token, spends.mem second, found⟩

theorem Forms.jumps {assigned : List String} {tokens rest : List Token} {item : Simple}
    (forms : Forms assigned tokens item rest) :
    ∀ label ∈ item.statement.labels, Jumps tokens label := by
  cases forms with
  | goto starts isWord =>
    intro label named
    rw [List.mem_singleton.mp named]
    have target := starts.spends.mem List.mem_cons_self
    cases starts with
    | here _ isGoto => exact ⟨⟨_, List.mem_cons_self, isGoto⟩, _, target, isWord, rfl⟩
  | _ => exact nofun

/-- What a script jumps to is a word of its tokens. -/
theorem Derives.jumps {assigned written : List String} {tokens rest : List Token} {script : Script}
    (derives : Derives assigned tokens script written rest) :
    ∀ label ∈ script.jumps, Jumps tokens label := by
  induction derives with
  | empty => exact nofun
  | lineBreak isBreak later ih =>
    intro label named
    exact (Spends.cons isBreak (by decide) (.refl _)).jumps (ih label named)
  | label isLabel later ih =>
    intro label named
    exact (Spends.cons isLabel (by decide) (.refl _)).jumps (ih label named)
  | simple forms later ih =>
    intro label named
    rcases List.mem_append.mp named with here | after
    · exact forms.jumps label here
    · exact forms.spends.jumps (ih label after)
  | si opens inside ends later ihInside ihLater =>
    intro label named
    rcases List.mem_append.mp named with here | after
    · exact opens.spends.jumps (ihInside label here)
    · exact (opens.spends.trans (inside.spends.trans ends.spends)).jumps (ihLater label after)
  | siSinon opens inside divides other ends later ihInside ihOther ihLater =>
    intro label named
    have second := opens.spends.trans (inside.spends.trans divides.spends)
    rcases List.mem_append.mp named with named | after
    · rcases List.mem_append.mp named with here | there
      · exact opens.spends.jumps (ihInside label here)
      · exact second.jumps (ihOther label there)
    · exact (second.trans (other.spends.trans ends.spends)).jumps (ihLater label after)
  | tantque opens inside ends later ihInside ihLater =>
    intro label named
    rcases List.mem_append.mp named with here | after
    · exact opens.spends.jumps (ihInside label here)
    · exact (opens.spends.trans (inside.spends.trans ends.spends)).jumps (ihLater label after)
  | pour opens inside ends later ihInside ihLater =>
    intro label named
    rcases List.mem_append.mp named with here | after
    · exact opens.spends.jumps (ihInside label here)
    · exact (opens.spends.trans (inside.spends.trans ends.spends)).jumps (ihLater label after)

end RobotScript.Grammar
