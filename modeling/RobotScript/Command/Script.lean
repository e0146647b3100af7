import RobotScript.Command.Arguments
import RobotScript.Command.Listing
import RobotScript.Session.Host

/-!
# Commands on scripts

`run` runs a script and answers its questions with what the arguments say, `tokens` and `parse` show
how a script is read, and `keywords` lists the vocabulary.
-/

namespace RobotScript.Command

/-- What to do with a script. -/
inductive ScriptCommand where
  | run (path : String) (limit : Nat) (enemy : Option Direction) (alive : Int)
  | tokens (path : String)
  | parse (path : String)
  | keywords
deriving DecidableEq, Repr

/-- The file that a command reads. -/
def ScriptCommand.path? : ScriptCommand → Option String
  | run path .. => some path
  | tokens path => some path
  | parse path => some path
  | keywords => none

/-! ## Arguments -/

/-- The statement limit. -/
def limitSetting : Setting := ⟨"limit", some 'l'⟩

/-- The answer to the question for the enemy. -/
def enemySetting : Setting := ⟨"enemy", some 'e'⟩

/-- The answer to the question whether the enemy is alive. -/
def aliveSetting : Setting := ⟨"alive", some 'a'⟩

/-- The arguments of a command on a script, as far as they were read. -/
structure RunArguments where
  path : Option String := none
  limit : Option Nat := none
  enemy : Option Direction := none
  alive : Option Int := none
deriving DecidableEq, Repr

/-- A direction given by its keyword. -/
def readDirection (text : String) : Except Unit Direction :=
  match Direction.ofKeyword? text with
  | some direction => .ok direction
  | none => .error ()

/-- Takes one argument of a command on a script. -/
def RunArguments.accept (arguments : RunArguments) : Argument → Except UsageError RunArguments
  | .plain text =>
    match arguments.path with
    | none => .ok { arguments with path := some text }
    | some _ => .error (.unexpected text)
  | .setting setting value =>
    if setting = limitSetting then do
      return { arguments with limit := ← readNaturalOnce setting arguments.limit value }
    else if setting = enemySetting then do
      let reason (_ : Unit) :=
        s!"Unknown direction: {value} (expected HAUTGAUCHE, HAUTDROIT, BASGAUCHE or BASDROIT)"
      return { arguments with
        enemy := ← readOnce setting arguments.enemy readDirection reason value }
    else do
      return { arguments with
        alive := ← readOnce setting arguments.alive readSmallInteger IntegerError.message value }

/-- The path and the settings of a command on a script. -/
def readRunArguments (settings : List Setting) (arguments : List String) :
    Except UsageError (String × RunArguments) := do
  let read ← takeArguments settings RunArguments.accept {} arguments
  match read.path with
  | some path => return (path, read)
  | none => throw (.missing "<INPUT>")

/-- The command that arguments stand for. -/
def ScriptCommand.ofArguments : List String → Except UsageError ScriptCommand
  | [] => .error (.missing "<COMMAND>")
  | "run" :: rest => do
    let (path, read) ← readRunArguments [limitSetting, enemySetting, aliveSetting] rest
    return .run path (read.limit.getD ({} : Budget).limit) read.enemy (read.alive.getD 1)
  | "tokens" :: rest => return .tokens (← readRunArguments [] rest).1
  | "parse" :: rest => return .parse (← readRunArguments [] rest).1
  | "keywords" :: rest =>
    match rest with
    | [] => .ok .keywords
    | argument :: _ => .error (.unexpected argument)
  | name :: _ => .error (.unknownCommand name)

/-! ## Printouts -/

/-- The lines for what is wrong with a script. A diagnostic that an editor should mark has a
star. -/
def reportLines (errors : List Diagnostic) : List String :=
  "=== ERRORS ===" :: errors.map fun d =>
    let marker := if d.isMarked then "*" else " "
    let place := (d.place.map Place.write).getD "-"
    marker ++ " " ++ Text.alignRight 6 place ++ "  " ++ d.write

/-- An action, by its keyword. -/
def actionText : Action → String
  | .move direction => Keyword.deplacer.name ++ " " ++ direction.keyword
  | .shoot direction => Keyword.tirer.name ++ " " ++ direction.keyword
  | .melee direction => Keyword.melee.name ++ " " ++ direction.keyword
  | .reload => Keyword.recharger.name

/-- The line for a suspension, with the answer that is given to a question. -/
def suspensionLine (enemy : Option Direction) (alive : Int) : Suspension → String
  | .act action => "> " ++ actionText action
  | .ask .enemy =>
    "? " ++ Keyword.detecterEnnemi.name ++ " -> " ++
      (enemy.map Direction.keyword).getD "nothing in sight"
  | .ask .alive => "? " ++ Keyword.estVivant.name ++ " -> " ++ toString alive

/-- The lines for a message. Faults are reported elsewhere. -/
def messageLines (limit : Nat) (enemy : Option Direction) (alive : Int) : Message → List String
  | .suspended suspension => [suspensionLine enemy alive suspension]
  | .terminated => ["Program finished"]
  | .limitExceeded => [s!"Stopped: more than {limit} statements executed"]
  | .failed _ => []

/-- Each exchange with a host: what the script printed before it, and the lines for its message. -/
def exchangeLines (tell : Message → List String) (seen : Nat) :
    List (Message × Session) → List String
  | [] => []
  | (message, session) :: rest =>
    session.machine.console.outputSince seen ++ tell message ++
      exchangeLines tell session.machine.console.output.size rest

/-- Runs a script. -/
def runScript (path source : String) (limit : Nat) (enemy : Option Direction) (alive : Int)
    (input : List String) :
    Printout :=
  let (message, session) := ((Session.ofInput input).configure limit).interpret source
  let exchanges := session.converse (.constant enemy (some alive)) () message
  let output := exchangeLines (messageLines limit enemy alive) 0 exchanges
  match exchanges.getLast? with
  | some (.failed errors, _) =>
    failure output (reportLines errors) (writeScriptFailure path errors.length)
  | some (_, final) => { output := output ++ [s!"Statements executed: {final.budget.used}"] }
  | none => { output }

/-- The line for a token. A keyword has a star. -/
def tokenLine (token : Token) : String :=
  Text.alignRight 6 token.place.write ++ "  " ++ Text.alignLeft 12 (kindName token.kind) ++ " " ++
    Text.quote token.text ++ if isKeyword token.text then "*" else ""

/-- Shows the tokens of a script. -/
def showTokens (source : String) : Printout :=
  { output := (Token.tokenize source).map tokenLine }

/-- Shows the statements and labels of a script, and what is wrong with it. -/
def showParse (path source : String) : Printout :=
  let parse := Parse.ofSource source
  let statements := parse.program.statements.toList.zipIdx.map fun (statement, index) =>
    Text.alignRight 4 (toString index) ++ ": " ++ listStatement statement
  let labels := parse.program.sortedLabels.map fun (name, target) =>
    "  " ++ Text.alignLeft 12 name ++ " -> " ++ toString target
  let output := "=== STATEMENTS ===" :: statements ++ "=== LABELS ===" :: labels
  if parse.hasErrors then
    failure output (reportLines parse.errors) (writeScriptFailure path parse.errors.length)
  else { output }

/-- The line for a keyword. -/
def keywordLine (keyword : Keyword) : String :=
  "  " ++ Text.alignLeft 15 keyword.name ++ " " ++ Text.alignLeft 9 keyword.category.name ++ " " ++
    keyword.description

/-- Lists the vocabulary. -/
def showKeywords : Printout where
  output := "Keywords:" :: Keyword.all.map keywordLine ++
    ["Directions: " ++ ", ".intercalate (Direction.all.map Direction.keyword),
      "Operators:  " ++ " ".intercalate (Operator.all.map fun op => op.symbol.toString),
      "Comments:   " ++ commentMark.toString ++ " to end of line"]

/-- Carries out a command on a script, given the file that it names and the text of its input. -/
def ScriptCommand.perform (file : File) (input : String) : ScriptCommand → Printout
  | run path limit enemy alive =>
    match file.read with
    | .ok source => runScript path source limit enemy alive (splitLines input)
    | .error error => failure [] [] error.write
  | tokens _ =>
    match file.read with
    | .ok source => showTokens source
    | .error error => failure [] [] error.write
  | parse path =>
    let heading := s!"Parsing {path}..."
    match file.read with
    | .ok source =>
      let printout := showParse path source
      { printout with output := heading :: printout.output }
    | .error error => failure [heading] [] error.write
  | keywords => showKeywords

end RobotScript.Command
