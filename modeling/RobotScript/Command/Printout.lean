import RobotScript.Diagnostic
import RobotScript.Text.Column
import RobotScript.Text.Quoted

/-!
# Printouts

A command writes lines to its output and to its error output, and ends with an exit code. A command
that fails ends its error output with what went wrong, as a record.
-/

namespace RobotScript.Command

/-- What a command writes, and its exit code. -/
structure Printout where
  exit : Nat := 0
  output : List String := []
  errors : List String := []
deriving DecidableEq, Repr

/-- The lines as one text. -/
def linesText (lines : List String) : String :=
  String.join (lines.map (· ++ "\n"))

/-- A record: its name, and its fields in braces. -/
def writeRecord (name : String) (fields : List (String × String)) : String :=
  name ++ " \x7b " ++ ", ".intercalate (fields.map fun (field, value) => field ++ ": " ++ value) ++
    " \x7d"

/-- A file as a command finds it: absent, or with its bytes. -/
inductive File where
  | absent
  | present (bytes : ByteArray)

/-- Why a file cannot be read. -/
inductive ReadError where
  | notFound
  | notText
deriving DecidableEq, Repr

/-- The record of a file that cannot be read. -/
def ReadError.write : ReadError → String
  | notFound =>
    writeRecord "Os" [("code", "2"), ("kind", "NotFound"),
      ("message", Text.quote "No such file or directory")]
  | notText =>
    writeRecord "Error" [("kind", "InvalidData"),
      ("message", Text.quote "stream did not contain valid UTF-8")]

/-- The text of a file. -/
def File.read : File → Except ReadError String
  | absent => .error .notFound
  | present bytes =>
    match String.fromUTF8? bytes with
    | some text => .ok text
    | none => .error .notText

/-- The record of a faulty script. -/
def writeScriptFailure (path : String) (count : Nat) : String :=
  writeRecord "Script" [("path", Text.quote path), ("count", toString count)]

/-- A command that fails, after what it has written. -/
def failure (output errors : List String) (record : String) : Printout :=
  { exit := 1, output, errors := errors ++ ["Error: " ++ record] }

/-- A command whose arguments are not understood. -/
def misuse (message : String) : Printout :=
  { exit := 2, errors := [message] }

/-- The lines of a text. A line lacks its line break, and the returns before it. -/
def splitLines (text : String) : List String :=
  let strip (line : List Char) : String := String.ofList (line.dropWhile (· == '\r')).reverse
  let rec go (line : List Char) : List Char → List String
    | [] => if line.isEmpty then [] else [strip line]
    | c :: rest => if c = '\n' then strip line :: go [] rest else go (c :: line) rest
  go [] text.toList

end RobotScript.Command
