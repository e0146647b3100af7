import RobotScript.Token

/-!
# Diagnostics

What is wrong with a script, found while reading it or while running it: the cause, the text of the
token at fault, whether an editor should mark that token, and its place if it is known.
-/

namespace RobotScript

/-- What went wrong. The last two arise only while a script runs. -/
inductive Cause where
  | unexpectedInstruction
  | expected (what : String)
  | invalidDirection
  | malformedExpression
  | unclosedBlock
  | unknownOperator
  | unknownLabel
  | invalidVariable
deriving DecidableEq, Repr

/-- The message for a cause. -/
def Cause.message : Cause → String
  | unexpectedInstruction => "unexpected instruction"
  | expected what => "expected " ++ what
  | invalidDirection => "invalid direction"
  | malformedExpression => "malformed expression"
  | unclosedBlock => "unclosed block"
  | unknownOperator => "unknown operator"
  | unknownLabel => "unknown label"
  | invalidVariable => "invalid variable"

/-- One thing that is wrong with a script. -/
structure Diagnostic where
  cause : Cause
  token : String
  highlighted : Bool
  place : Option Place := none
deriving DecidableEq, Repr

namespace Diagnostic

/-- A diagnostic at a token. -/
def ofToken (cause : Cause) (token : Token) (highlighted : Bool) : Diagnostic :=
  ⟨cause, token.text, highlighted, some token.place⟩

/-- The message and the token. -/
def write (d : Diagnostic) : String :=
  d.cause.message ++ ": '" ++ d.token ++ "'"

/-- An editor marks the token, unless it is shorter than three characters. -/
def isMarked (d : Diagnostic) : Bool :=
  d.highlighted && 3 ≤ d.token.length

end Diagnostic

/-- The diagnostics collected so far, oldest first. -/
structure Log where
  entries : List Diagnostic := []
deriving DecidableEq, Repr

namespace Log

/-- The log with one more diagnostic. -/
def add (log : Log) (d : Diagnostic) : Log :=
  ⟨log.entries ++ [d]⟩

/-- Something is wrong. -/
def hasEntries (log : Log) : Bool :=
  !log.entries.isEmpty

end Log

end RobotScript
