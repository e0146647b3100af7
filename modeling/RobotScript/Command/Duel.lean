import RobotScript.Command.Script
import RobotScript.Duel.Match
import RobotScript.Duel.Setup

/-!
# The duel command

Plays a script against the turret on a board that is dealt from a seed, and tells the match as it
goes.
-/

namespace RobotScript.Command

open RobotScript.Duel

/-- A duel to play. Without a seed the board is left to chance. -/
structure DuelCommand where
  path : String
  setup : Setup := {}
  seed : Option Nat := none
  turns : Nat := 50
deriving DecidableEq, Repr

/-! ## Arguments -/

/-- Width and height of the board. -/
def sizeSetting : Setting := ⟨"size", none⟩

/-- The seed for the board. -/
def seedSetting : Setting := ⟨"seed", none⟩

/-- The number of obstacles. -/
def obstaclesSetting : Setting := ⟨"obstacles", none⟩

/-- The number of turns after which the match is called off. -/
def turnsSetting : Setting := ⟨"turns", none⟩

/-- The arguments of a duel, as far as they were read. -/
structure DuelArguments where
  path : Option String := none
  size : Option Nat := none
  seed : Option Nat := none
  obstacles : Option Nat := none
  turns : Option Nat := none
deriving DecidableEq, Repr

/-- Takes one argument of a duel. -/
def DuelArguments.accept (arguments : DuelArguments) : Argument → Except UsageError DuelArguments
  | .plain text =>
    match arguments.path with
    | none => .ok { arguments with path := some text }
    | some _ => .error (.unexpected text)
  | .setting setting value =>
    if setting = sizeSetting then do
      return { arguments with size := ← readNaturalOnce setting arguments.size value }
    else if setting = seedSetting then do
      return { arguments with seed := ← readNaturalOnce setting arguments.seed value }
    else if setting = obstaclesSetting then do
      return { arguments with obstacles := ← readNaturalOnce setting arguments.obstacles value }
    else do
      return { arguments with turns := ← readNaturalOnce setting arguments.turns value }

/-- The duel that arguments stand for. -/
def DuelCommand.ofArguments (arguments : List String) : Except UsageError DuelCommand := do
  let read ← takeArguments [sizeSetting, seedSetting, obstaclesSetting, turnsSetting]
    DuelArguments.accept {} arguments
  match read.path with
  | some path =>
    let setup : Setup := {}
    return {
      path
      setup := ⟨read.size.getD setup.size, read.obstacles.getD setup.obstacles⟩
      seed := read.seed
      turns := read.turns.getD 50 }
  | none => throw (.missing "<INPUT>")

/-! ## Printouts -/

/-- What came of an action. -/
def effectText : Effect → String
  | .moved position => s!"moved to ({position.row}, {position.column})"
  | .blocked => "blocked"
  | .hit hp => s!"hit! turret at {hp} HP"
  | .missed => "missed"
  | .outOfAmmo => "click, no shots left"
  | .reloaded => "reloaded"

/-- The line or picture for an event. -/
def eventText : Event → String
  | .printed line => line
  | .acted turn action effect =>
    "[" ++ Text.alignRight 3 (toString turn) ++ "] " ++
      Text.alignLeft 20 (actionText action) ++ " " ++
      effectText effect
  | .turretFired direction hp =>
    "      turret fires " ++ Text.alignLeft 10 direction.keyword ++ s!" robot at {hp} HP"
  | .shown board => board.render

/-- The line for the end of a match. A script that fails has none. -/
def endingLines (final : Match) : Ending → List String
  | .scriptEnded => ["The robot has run all of its instructions"]
  | .budgetExceeded => ["The robot is going round in circles, match stopped"]
  | .scriptFailed _ => []
  | .turretDestroyed => [s!"Turret destroyed in {final.turns} turn(s)!"]
  | .playerDestroyed => [s!"Your robot was destroyed after {final.turns} turn(s)"]
  | .outOfTurns => [s!"Out of turns, the turret survives with {final.board.turret.hp} HP"]

/-- The lines for what is wrong with the script of a match. -/
def matchReportLines (errors : List Diagnostic) : List String :=
  errors.map fun d => Text.alignRight 6 ((d.place.map Place.write).getD "") ++ "  " ++ d.write

/-- Plays a duel on a board. -/
def playDuel (path source : String) (turns : Nat) (board : Board) (input : List String) :
    Printout :=
  let record := Match.ofScript turns board source input
  let heading := s!"Arena {board.size}x{board.size}, R = your robot, T = turret, # = obstacle"
  let output :=
    heading :: board.render :: record.events.map eventText ++ endingLines record.final record.ending
  match record.ending with
  | .scriptFailed errors =>
    failure output (matchReportLines errors) (writeScriptFailure path errors.length)
  | _ => { output }

/-- The record of a board that is too small. -/
def writeCrowded (error : Crowded) : String :=
  writeRecord "Crowded" [("size", toString error.size), ("obstacles", toString error.obstacles)]

/-- Carries out a duel, given the script, a seed to fall back on, and the text of the input. -/
def DuelCommand.perform (command : DuelCommand) (file : File) (chance : Nat) (input : String) :
    Printout :=
  match file.read with
  | .error error => failure [] [] (writeRecord "Io" [("source", error.write)])
  | .ok source =>
    match Board.generate command.setup (command.seed.getD chance).toUInt64 with
    | .error error => failure [] [] (writeCrowded error)
    | .ok board => playDuel command.path source command.turns board (splitLines input)

end RobotScript.Command
