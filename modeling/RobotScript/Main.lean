import RobotScript.Command.Duel

/-!
# The command line

`duel` and what follows plays a match. Anything else is a command on a script.
-/

namespace RobotScript.Command

/-- The file at a path. -/
def readFile (path : String) : IO File := do
  try
    return .present (← IO.FS.readBinFile path)
  catch _ => return .absent

/-- The text of the standard input. -/
def readInput : IO String := do
  (← IO.getStdin).readToEnd

/-- Writes a printout and gives its exit code. -/
def emit (printout : Printout) : IO UInt32 := do
  (← IO.getStdout).putStr (linesText printout.output)
  (← IO.getStderr).putStr (linesText printout.errors)
  return printout.exit.toUInt32

/-- Carries out a command on a script. Only a script that runs takes lines from the standard
input. -/
def runScriptCommand (arguments : List String) : IO UInt32 := do
  match ScriptCommand.ofArguments arguments with
  | .error error => emit (misuse error.message)
  | .ok command =>
    let file ← match command.path? with
      | some path => readFile path
      | none => pure .absent
    let input ← match command with
      | .run .. => readInput
      | _ => pure ""
    emit (command.perform file input)

/-- Carries out a duel. -/
def runDuelCommand (arguments : List String) : IO UInt32 := do
  match DuelCommand.ofArguments arguments with
  | .error error => emit (misuse error.message)
  | .ok command =>
    let file ← readFile command.path
    emit (command.perform file (← IO.rand 0 (Nat.pow 2 64 - 1)) (← readInput))

end RobotScript.Command

/-- Carries out the command that the arguments stand for. -/
def main : List String → IO UInt32
  | "duel" :: arguments => RobotScript.Command.runDuelCommand arguments
  | arguments => RobotScript.Command.runScriptCommand arguments
