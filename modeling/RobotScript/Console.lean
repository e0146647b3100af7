/-!
# The console

A script prints lines and reads lines. The console keeps what was printed, in order, and the lines
that wait to be read.
-/

namespace RobotScript

/-- The lines printed so far, and the lines still to be read. -/
structure Console where
  output : Array String := #[]
  input : List String := []
deriving DecidableEq, Repr

namespace Console

/-- A console with lines to read. -/
def ofInput (lines : List String) : Console := { input := lines }

/-- The console after a line was printed. -/
def print (console : Console) (line : String) : Console :=
  { console with output := console.output.push line }

/-- The next line, if there is one, and the console without it. -/
def readLine (console : Console) : Option String × Console :=
  match console.input with
  | [] => (none, console)
  | line :: rest => (some line, { console with input := rest })

/-- The console with one more line to read. -/
def feed (console : Console) (line : String) : Console :=
  { console with input := console.input ++ [line] }

/-- The lines that were printed after the first `seen` ones. -/
def outputSince (console : Console) (seen : Nat) : List String :=
  console.output.toList.drop seen

end Console

end RobotScript
