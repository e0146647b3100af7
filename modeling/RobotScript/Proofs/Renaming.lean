import RobotScript.Proofs.Grammar.Parse

/-!
# Names are only names

A word that is no keyword has no meaning of its own: it is told from other words, and that is all. A
`Renaming` replaces such words by others. It does not touch keywords, and it does not touch the
labels of blocks, which are numerals.

* `Renaming.eq_of_apply_eq`: different words stay different.
* `Grammar.Accepts.rename`: a derivation of a script is renamed with its tokens, rule by rule.
* `Script.program_rename`: the layout of a script is renamed with it.

`Parse.ofTokens_rename` puts these together: renamed tokens are laid out as the renamed program.
`Renaming.swap` exchanges two names.
-/

namespace RobotScript

/-! ## Names -/

/-- A name: a word that is no keyword. -/
def isName (word : String) : Bool :=
  Text.isWord word && !isKeyword word

theorem isKeyword_of_isName {word : String} (named : isName word = true) :
    Keyword.ofName? word = none ∧ Direction.ofKeyword? word = none := by
  have plain := ((Bool.and_eq_true ..).mp named).2
  simpa [isKeyword] using plain

theorem isName_numeral (number : Nat) : isName (toString number) = false := by
  refine Bool.eq_false_iff.mpr fun named => ?_
  exact Text.not_startsWithLetter_toString number
    (Text.startsWithLetter_of_isWord ((Bool.and_eq_true ..).mp named).1)

theorem isName_keyword (keyword : Keyword) : isName keyword.name = false := by
  refine Bool.eq_false_iff.mpr fun named => ?_
  cases (keyword.ofName?_name).symm.trans (isKeyword_of_isName named).1

/-- A renaming takes names to names, and different ones to different ones. It leaves everything
else. -/
structure Renaming where
  apply : String → String
  isName_apply : ∀ {word : String}, isName word = true → isName (apply word) = true
  injective : ∀ {one other : String}, isName one = true → isName other = true →
    apply one = apply other → one = other
  fixes : ∀ {word : String}, isName word = false → apply word = word

namespace Renaming

instance : CoeFun Renaming fun _ => String → String := ⟨apply⟩

variable (names : Renaming)

/-- Different words stay different. -/
theorem eq_of_apply_eq {one other : String} (same : names one = names other) : one = other := by
  cases first : isName one with
  | true =>
    cases second : isName other with
    | true => exact names.injective first second same
    | false =>
      rw [names.fixes second] at same
      cases (same ▸ names.isName_apply first).symm.trans second
  | false =>
    rw [names.fixes first] at same
    cases second : isName other with
    | true => cases (same.symm ▸ names.isName_apply second).symm.trans first
    | false => exact same.trans (names.fixes second)

@[simp] theorem apply_numeral (number : Nat) : names (toString number) = toString number :=
  names.fixes (isName_numeral number)

@[simp] theorem apply_keyword (keyword : Keyword) : names keyword.name = keyword.name :=
  names.fixes (isName_keyword keyword)

/-- A word is renamed to the word for a direction only if it is that word. -/
@[simp] theorem ofKeyword?_apply (word : String) :
    Direction.ofKeyword? (names word) = Direction.ofKeyword? word := by
  cases named : isName word with
  | true => rw [(isKeyword_of_isName named).2, (isKeyword_of_isName (names.isName_apply named)).2]
  | false => rw [names.fixes named]

theorem ne_keyword {word : String} {keyword : Keyword} (differs : word ≠ keyword.name) :
    names word ≠ keyword.name := by
  intro same
  exact differs (names.eq_of_apply_eq (same.trans (names.apply_keyword keyword).symm))

/-- The renaming that exchanges two names. -/
def swap {one other : String} (first : isName one = true) (second : isName other = true) :
    Renaming where
  apply word := if word = one then other else if word = other then one else word
  isName_apply := by
    intro word named
    split
    · exact second
    · split
      · exact first
      · exact named
  injective := by
    intro this that _ _ same
    grind
  fixes := by
    intro word plain
    have notOne : word ≠ one := fun same => by cases (same ▸ plain).symm.trans first
    have notOther : word ≠ other := fun same => by cases (same ▸ plain).symm.trans second
    rw [if_neg notOne, if_neg notOther]

end Renaming

/-! ## Renamed syntax -/

section Syntax

variable (names : Renaming)

/-- The token with its word renamed. Only words and labels are. -/
def Token.rename (token : Token) : Token :=
  { token with
    text := if token.kind = .word ∨ token.kind = .label then names token.text else token.text }

/-- The expression with its variables renamed. -/
def Expr.rename : Expr → Expr
  | literal value => literal value
  | var name => var (names name)
  | binary op left right => binary op left.rename right.rename
  | ask query => ask query

/-- The assignment with its variables renamed. -/
def Assignment.rename (assignment : Assignment) : Assignment :=
  ⟨names assignment.target, assignment.value.rename names⟩

/-- The bearing with its variable renamed. -/
def Bearing.rename : Bearing → Bearing
  | toward direction => toward direction
  | held name => held (names name)

/-- The statement with its variables and labels renamed. -/
def Statement.rename : Statement → Statement
  | print value => print (value.rename names)
  | input target => input (names target)
  | assign assignment => assign (assignment.rename names)
  | goto label => goto (names label)
  | si condition otherwise finish =>
    si (condition.rename names) (otherwise.map names) (names finish)
  | tantque condition start finish => tantque (condition.rename names) (names start) (names finish)
  | pour init condition step start finish =>
    pour (init.rename names) (condition.rename names) (step.rename names) (names start)
      (names finish)
  | move bearing => move (bearing.rename names)
  | shoot bearing => shoot (bearing.rename names)
  | melee direction => melee direction
  | reload => reload

/-- The header of a block with its variables renamed. -/
def Header.rename : Header → Header
  | si condition => si (condition.rename names)
  | tantque condition => tantque (condition.rename names)
  | pour init condition step =>
    pour (init.rename names) (condition.rename names) (step.rename names)

/-- The item with its variables and its label renamed. -/
def Simple.rename : Simple → Simple
  | print value => print (value.rename names)
  | input target => input (names target)
  | assign assignment => assign (assignment.rename names)
  | goto label => goto (names label)
  | move bearing => move (bearing.rename names)
  | shoot bearing => shoot (bearing.rename names)
  | melee direction => melee direction
  | reload => reload

/-- The script with its variables and labels renamed. -/
def Script.rename : Script → Script
  | empty => empty
  | label name rest => label (names name) rest.rename
  | simple item rest => simple (item.rename names) rest.rename
  | si condition body rest => si (condition.rename names) body.rename rest.rename
  | siSinon condition body alternative rest =>
    siSinon (condition.rename names) body.rename alternative.rename rest.rename
  | tantque condition body rest => tantque (condition.rename names) body.rename rest.rename
  | pour init condition step body rest =>
    pour (init.rename names) (condition.rename names) (step.rename names) body.rename rest.rename

/-- The table with its keys renamed. -/
def Table.rename {α : Type} (table : Table String α) : Table String α :=
  ⟨table.entries.map fun entry => (names entry.1, entry.2)⟩

/-- The program with its variables and labels renamed. -/
def Program.rename (program : Program) : Program where
  statements := program.statements.map (Statement.rename names)
  labels := program.labels.rename names

/-- The labels that a statement names for its block. -/
def Statement.blockLabels : Statement → List String
  | si _ otherwise finish => otherwise.toList ++ [finish]
  | tantque _ start finish => [start, finish]
  | pour _ _ _ start finish => [start, finish]
  | _ => []

end Syntax

/-! ## Tables -/

namespace Table

variable {α : Type} (names : Renaming)

theorem find?_rename (key : String) (entries : List (String × α)) :
    find? (names key) (entries.map fun entry => (names entry.1, entry.2)) = find? key entries := by
  induction entries with
  | nil => rfl
  | cons entry rest ih =>
    simp only [List.map_cons, find?]
    by_cases same : entry.1 = key
    · rw [if_pos same, if_pos (congrArg names same)]
    · rw [if_neg same, if_neg fun equal => same (names.eq_of_apply_eq equal), ih]

theorem replace_rename (key : String) (value : α) (entries : List (String × α)) :
    replace (names key) value (entries.map fun entry => (names entry.1, entry.2)) =
      (replace key value entries).map fun entry => (names entry.1, entry.2) := by
  induction entries with
  | nil => rfl
  | cons entry rest ih =>
    simp only [List.map_cons, replace]
    by_cases same : entry.1 = key
    · rw [if_pos same, if_pos (congrArg names same), List.map_cons]
    · rw [if_neg same, if_neg fun equal => same (names.eq_of_apply_eq equal), ih, List.map_cons]

@[simp] theorem get?_rename (table : Table String α) (key : String) :
    (table.rename names).get? (names key) = table.get? key :=
  find?_rename names key table.entries

@[simp] theorem insert_rename (table : Table String α) (key : String) (value : α) :
    (table.rename names).insert (names key) value = (table.insert key value).rename names := by
  simp only [insert, get?_rename]
  cases table.get? key with
  | some old => exact congrArg mk (replace_rename names key value table.entries)
  | none => rfl

theorem foldl_insert_rename (table : Table String α) (entries : List (String × α)) :
    (entries.map fun entry => (names entry.1, entry.2)).foldl
      (fun table entry => table.insert entry.1 entry.2)
        (table.rename names) =
      (entries.foldl (fun table entry => table.insert entry.1 entry.2) table).rename names := by
  induction entries generalizing table with
  | nil => rfl
  | cons entry rest ih =>
    rw [List.map_cons, List.foldl_cons, List.foldl_cons, insert_rename, ih]

end Table

/-! ## Layouts -/

namespace Script

variable (names : Renaming)

@[simp] theorem size_rename (script : Script) : (script.rename names).size = script.size := by
  induction script <;> simp_all [rename, size]

@[simp] theorem mints_rename (script : Script) : (script.rename names).mints = script.mints := by
  induction script <;> simp_all [rename, mints]

theorem statement_rename (item : Simple) :
    (item.rename names).statement = item.statement.rename names := by
  cases item <;> rfl

/-- The statements of a script are renamed with it. The labels of blocks stay, since they are
numerals. -/
theorem statements_rename (script : Script) (minted : Nat) :
    (script.rename names).statements minted =
      (script.statements minted).map (Statement.rename names) := by
  induction script generalizing minted with
  | empty => rfl
  | label name rest ih => exact ih minted
  | simple item rest ih => simp only [rename, statements, statement_rename, ih, List.map_cons]
  | si condition body rest ihBody ihRest =>
    simp only [rename, statements, Statement.rename, ihBody, ihRest, List.map_cons,
      List.map_append, mints_rename, Renaming.apply_numeral, Option.map_none]
  | siSinon condition body alternative rest ihBody ihAlternative ihRest =>
    simp only [rename, statements, Statement.rename, ihBody, ihAlternative, ihRest, List.map_cons,
      List.map_append, mints_rename, Renaming.apply_numeral, Option.map_some]
  | tantque condition body rest ihBody ihRest =>
    simp only [rename, statements, Statement.rename, ihBody, ihRest, List.map_cons,
      List.map_append, mints_rename, Renaming.apply_numeral]
  | pour init condition step body rest ihBody ihRest =>
    simp only [rename, statements, Statement.rename, ihBody, ihRest, List.map_cons,
      List.map_append, mints_rename, Renaming.apply_numeral]

theorem labels_rename (script : Script) (start minted : Nat) :
    (script.rename names).labels start minted =
      (script.labels start minted).map fun entry => (names entry.1, entry.2) := by
  induction script generalizing start minted with
  | empty => rfl
  | label name rest ih => simp only [rename, labels, ih, List.map_cons]
  | simple item rest ih => simp only [rename, labels, ih]
  | si condition body rest ihBody ihRest =>
    simp only [rename, labels, ihBody, ihRest, List.map_cons, List.map_append,
      size_rename, mints_rename, Renaming.apply_numeral]
  | siSinon condition body alternative rest ihBody ihAlternative ihRest =>
    simp only [rename, labels, ihBody, ihAlternative, ihRest, List.map_cons, List.map_append,
      size_rename, mints_rename, Renaming.apply_numeral]
  | tantque condition body rest ihBody ihRest =>
    simp only [rename, labels, ihBody, ihRest, List.map_cons, List.map_append,
      size_rename, mints_rename, Renaming.apply_numeral]
  | pour init condition step body rest ihBody ihRest =>
    simp only [rename, labels, ihBody, ihRest, List.map_cons, List.map_append,
      size_rename, mints_rename, Renaming.apply_numeral]

/-- The labels that the statements of a script name for their blocks are numerals. -/
theorem numeral_of_blockLabels {script : Script} {minted : Nat} {statement : Statement}
    (member : statement ∈ script.statements minted) {label : String}
    (named : label ∈ statement.blockLabels) :
    ∃ number : Nat, label = toString number := by
  induction script generalizing minted with
  | empty => cases member
  | label name rest ih => exact ih member
  | simple item rest ih =>
    rcases List.mem_cons.mp member with rfl | member
    · cases item <;> cases named
    · exact ih member
  | si condition body rest ihBody ihRest =>
    simp only [statements, List.mem_cons, List.mem_append] at member
    rcases member with (rfl | member) | member
    · exact ⟨_, List.mem_singleton.mp named⟩
    · exact ihBody member
    · exact ihRest member
  | siSinon condition body alternative rest ihBody ihAlternative ihRest =>
    simp only [statements, List.mem_cons, List.mem_append] at member
    rcases member with ((rfl | member) | rfl | member) | member
    · rcases List.mem_cons.mp named with rfl | named
      · exact ⟨_, rfl⟩
      · exact ⟨_, List.mem_singleton.mp named⟩
    · exact ihBody member
    · cases named
    · exact ihAlternative member
    · exact ihRest member
  | tantque condition body rest ihBody ihRest =>
    simp only [statements, List.mem_cons, List.mem_append] at member
    rcases member with (rfl | member) | rfl | member
    · rcases List.mem_cons.mp named with rfl | named
      · exact ⟨_, rfl⟩
      · exact ⟨_, List.mem_singleton.mp named⟩
    · exact ihBody member
    · cases named
    · exact ihRest member
  | pour init condition step body rest ihBody ihRest =>
    simp only [statements, List.mem_cons, List.mem_append] at member
    rcases member with (rfl | member) | rfl | member
    · rcases List.mem_cons.mp named with rfl | named
      · exact ⟨_, rfl⟩
      · exact ⟨_, List.mem_singleton.mp named⟩
    · exact ihBody member
    · cases named
    · exact ihRest member

/-- The labels that the statements of a script name for their blocks stay. -/
theorem blockLabels_rename {script : Script} {statement : Statement}
    (member : statement ∈ script.statements 0) :
    (statement.rename names).blockLabels = statement.blockLabels := by
  have mapped : (statement.rename names).blockLabels = statement.blockLabels.map names := by
    cases statement with
    | si condition otherwise finish => cases otherwise <;> rfl
    | _ => rfl
  have fixed : statement.blockLabels.map names = statement.blockLabels.map id := by
    refine List.map_congr_left fun label named => ?_
    obtain ⟨number, rfl⟩ := numeral_of_blockLabels member named
    exact names.apply_numeral number
  rw [mapped, fixed, List.map_id]

theorem program_rename (script : Script) :
    (script.rename names).program = script.program.rename names := by
  have labels := Table.foldl_insert_rename names {} (script.labels 0 0)
  simp only [program, Program.rename, statements_rename, labels_rename, List.map_toArray]
  exact congrArg _ labels

end Script

/-! ## Derivations -/

namespace Token

variable {names : Renaming} {token : Token}

theorem rename_word (isWord : token.kind = .word) : (token.rename names).text = names token.text :=
  if_pos (.inl isWord)

theorem rename_label (isLabel : token.kind = .label) :
    (token.rename names).text = names token.text :=
  if_pos (.inr isLabel)

theorem rename_other (noWord : token.kind ≠ .word) (noLabel : token.kind ≠ .label) :
    token.rename names = token := by
  rw [Token.rename, if_neg fun named => named.elim noWord noLabel]

end Token

namespace Grammar

variable {names : Renaming} {tokens rest : List Token}

/-- The phrase with the variables of what has been read so far renamed. -/
def Phrase.rename (names : Renaming) : Phrase → Phrase
  | atom => atom
  | expression => expression
  | chain left => chain (left.rename names)

theorem head_rename {P : Token → Prop} (kept : ∀ token, P token → P (token.rename names))
    (holds : ∀ token ∈ tokens.head?, P token) :
    ∀ token ∈ (tokens.map (Token.rename names)).head?, P token := by
  intro token there
  rw [List.head?_map] at there
  obtain ⟨before, first, rfl⟩ := Option.map_eq_some_iff.mp there
  exact kept before (holds before first)

/-- An expression is renamed with its tokens. -/
theorem Reads.rename {phrase : Phrase} {expr : Expr} (reads : Reads phrase tokens expr rest)
    (names : Renaming) :
    Reads (phrase.rename names) (tokens.map (Token.rename names)) (expr.rename names)
      (rest.map (Token.rename names)) := by
  induction reads with
  | direction isWord named =>
    refine .direction isWord ?_
    rw [Token.rename_word isWord, names.ofKeyword?_apply, named]
  | @question word opening closing query rest isWord named opens closes =>
    refine .question isWord ?_ opens closes
    rw [Token.rename_word isWord, named]
    cases query with
    | enemy => exact names.apply_keyword .detecterEnnemi
    | alive => exact names.apply_keyword .estVivant
  | @var word rest isWord noDirection notEnemy notAlive =>
    have text : (word.rename names).text = names word.text := Token.rename_word isWord
    rw [Expr.rename, ← text]
    refine .var isWord ?_ ?_ ?_
    · rw [text, names.ofKeyword?_apply, noDirection]
    · rw [text]
      exact names.ne_keyword notEnemy
    · rw [text]
      exact names.ne_keyword notAlive
  | number isNumber =>
    rw [List.map_cons, Token.rename_other (by simp [isNumber]) (by simp [isNumber])]
    exact .number isNumber
  | text isText =>
    rw [List.map_cons, Token.rename_other (by simp [isText]) (by simp [isText])]
    exact .text isText
  | parentheses opens inner closes ih => exact .parentheses opens ih closes
  | expression first more ihFirst ihMore => exact .expression ihFirst ihMore
  | noMore noSign => exact .noMore (head_rename (fun token plain => plain) noSign)
  | @operator sign tokens middle rest left right expr op isSign named second more ihSecond ihMore =>
    have same : sign.rename names = sign := by
      rcases of_decide_eq_true isSign with isOperator | isEquals
      · exact Token.rename_other (by simp [isOperator]) (by simp [isOperator])
      · exact Token.rename_other (by simp [isEquals]) (by simp [isEquals])
    rw [List.map_cons, same]
    exact .operator isSign named ihSecond ihMore

theorem NoEquals.rename (noTarget : NoEquals tokens) (names : Renaming) :
    NoEquals (tokens.map (Token.rename names)) :=
  head_rename (fun _ plain => plain) noTarget

theorem Starts.rename {keyword : Keyword} (starts : Starts keyword tokens rest) (names : Renaming) :
    Starts keyword (tokens.map (Token.rename names)) (rest.map (Token.rename names)) := by
  cases starts with
  | here isWord named noTarget =>
    refine .here isWord ?_ (noTarget.rename names)
    rw [Token.rename_word isWord, named, names.apply_keyword]

/-- A word stands for the same direction after the renaming, or for the renamed variable. -/
theorem Aims.rename {assigned : List String} {name : String} {bearing : Bearing}
    (aims : Aims assigned name bearing) (names : Renaming) :
    Aims (assigned.map names) (names name) (bearing.rename names) := by
  cases aims with
  | held known => exact .held (List.mem_map_of_mem known)
  | toward unknown named =>
    refine .toward ?_ ((names.ofKeyword?_apply name).trans named)
    intro known
    obtain ⟨other, member, same⟩ := List.mem_map.mp known
    exact unknown (names.eq_of_apply_eq same ▸ member)

theorem Sets.rename {assignment : Assignment} (sets : Sets tokens assignment rest)
    (names : Renaming) :
    Sets (tokens.map (Token.rename names)) (assignment.rename names)
      (rest.map (Token.rename names)) := by
  cases sets with
  | @here target sign tokens rest expr isWord isEquals value =>
    have text : (target.rename names).text = names target.text := Token.rename_word isWord
    rw [Assignment.rename, ← text]
    exact .here isWord isEquals (value.rename names)

theorem Forms.rename {assigned : List String} {item : Simple}
    (forms : Forms assigned tokens item rest) (names : Renaming) :
    Forms (assigned.map names) (tokens.map (Token.rename names)) (item.rename names)
      (rest.map (Token.rename names)) := by
  cases forms with
  | assign sets => exact .assign (sets.rename names)
  | print starts value => exact .print (starts.rename names) (value.rename names)
  | input starts isWord =>
    rw [Simple.rename, ← Token.rename_word isWord]
    exact .input (starts.rename names) isWord
  | goto starts isWord =>
    rw [Simple.rename, ← Token.rename_word isWord]
    exact .goto (starts.rename names) isWord
  | move starts opens isWord aims closes =>
    refine .move (starts.rename names) opens isWord ?_ closes
    rw [Token.rename_word isWord]
    exact aims.rename names
  | shoot starts attacks named opens isWord aims closes =>
    refine .shoot (starts.rename names) attacks ?_ opens isWord ?_ closes
    · rw [Token.rename_word attacks, named, names.apply_keyword]
    · rw [Token.rename_word isWord]
      exact aims.rename names
  | melee starts attacks named opens isWord aims closes =>
    refine .melee (starts.rename names) attacks ?_ opens isWord ?_ closes
    · rw [Token.rename_word attacks, named, names.apply_keyword]
    · rw [Token.rename_word isWord, names.ofKeyword?_apply, aims]
  | reload starts opens closes => exact .reload (starts.rename names) opens closes

theorem Opens.rename {header : Header} (opens : Opens tokens header rest) (names : Renaming) :
    Opens (tokens.map (Token.rename names)) (header.rename names)
      (rest.map (Token.rename names)) := by
  cases opens with
  | si starts test => exact .si (starts.rename names) (test.rename names)
  | tantque starts test => exact .tantque (starts.rename names) (test.rename names)
  | pour starts opens enters test steps closes =>
    exact .pour (starts.rename names) opens (enters.rename names) (test.rename names)
      (steps.rename names) closes

/-- A derivation is renamed rule by rule. -/
theorem Derives.rename {assigned written : List String} {script : Script}
    (derives : Derives assigned tokens script written rest) (names : Renaming) :
    Derives (assigned.map names) (tokens.map (Token.rename names)) (script.rename names)
      (written.map names) (rest.map (Token.rename names)) := by
  induction derives with
  | empty => exact .empty
  | lineBreak isBreak later ih => exact .lineBreak isBreak ih
  | label isLabel later ih =>
    rw [Script.rename, ← Token.rename_label isLabel]
    exact .label isLabel ih
  | @simple assigned written tokens middle rest item script forms later ih =>
    have more : (item.assigned ++ assigned).map names =
        (item.rename names).assigned ++ assigned.map names := by
      rw [List.map_append]
      cases item <;> rfl
    exact .simple (forms.rename names) (more ▸ ih)
  | si opens inside ends later ihInside ihLater =>
    exact .si (opens.rename names) ihInside (ends.rename names) ihLater
  | siSinon opens inside divides other ends later ihInside ihOther ihLater =>
    exact .siSinon (opens.rename names) ihInside (divides.rename names) ihOther
      (ends.rename names) ihLater
  | tantque opens inside ends later ihInside ihLater =>
    exact .tantque (opens.rename names) ihInside (ends.rename names) ihLater
  | pour opens inside ends later ihInside ihLater =>
    exact .pour (opens.rename names) ihInside (ends.rename names) ihLater

theorem Accepts.rename {script : Script} (accepts : Accepts tokens script) (names : Renaming) :
    Accepts (tokens.map (Token.rename names)) (script.rename names) := by
  obtain ⟨written, mark, isEnd, derives⟩ := accepts
  exact ⟨written.map names, mark.rename names, isEnd, derives.rename names⟩

end Grammar

/-- Renamed tokens of a text without errors are laid out as the renamed program, in which the labels
of blocks stay. -/
theorem Parse.ofTokens_rename (names : Renaming) {text : String} {program : Program}
    (parsed : Parse.ofTokens (Token.tokenize text) = ⟨program, []⟩) :
    Parse.ofTokens ((Token.tokenize text).map (Token.rename names)) =
      ⟨program.rename names, []⟩ ∧
      ∀ statement ∈ program.statements, (statement.rename names).blockLabels =
        statement.blockLabels := by
  have clean : (Parse.ofTokens (Token.tokenize text)).errors = [] := by rw [parsed]
  obtain ⟨script, accepts⟩ := accepts_of_tokenize clean
  obtain ⟨lexemes, mark, same, isEnd, -⟩ := Token.tokenize_eq text
  have renamed := accepts.rename names
  rw [same] at accepts renamed parsed ⊢
  obtain rfl : script.program = program :=
    congrArg Parse.program ((ofTokens_of_accepts isEnd accepts).symm.trans parsed)
  constructor
  · rw [List.map_append, List.map_singleton] at renamed ⊢
    have isEnd : (mark.rename names).kind = .endOfFile := isEnd
    rw [ofTokens_of_accepts isEnd renamed, Script.program_rename]
  · exact fun statement member => Script.blockLabels_rename names (List.mem_toArray.mp member)

end RobotScript
