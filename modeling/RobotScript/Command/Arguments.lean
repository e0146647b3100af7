import RobotScript.Command.Integer
import RobotScript.Text.Terminal

/-!
# Arguments

The arguments of a command are plain ones and settings. A setting is written `--name value`,
`--name=value`, or, if it has a short name, `-n value`, `-nvalue` or `-n=value`. An argument with a
dash in front never counts as a value on its own.
-/

namespace RobotScript.Command

/-- A setting that a command knows. -/
structure Setting where
  name : String
  short : Option Char := none
deriving DecidableEq, Repr

/-- How a setting is named in a message. -/
def Setting.usage (setting : Setting) : String :=
  s!"--{setting.name} <{setting.name.toUpper}>"

/-- Why arguments cannot be understood. -/
inductive UsageError where
  | invalidValue (value : String) (setting : Setting) (reason : String)
  | missingValue (setting : Setting)
  | repeated (setting : Setting)
  | unexpected (argument : String)
  | unknownCommand (name : String)
  | missing (what : String)
deriving DecidableEq, Repr

/-- What is wrong with arguments, with the parts that they are made of emphasized for a terminal. -/
def UsageError.styled : UsageError → String
  | invalidValue value setting reason =>
    " invalid value '" ++ Text.emphasize value ++ "' for '" ++ Text.emphasize setting.usage ++
      "': " ++ reason
  | missingValue setting =>
    " a value is required for '" ++ Text.emphasize setting.usage ++ "' but none was supplied"
  | repeated setting =>
    " the argument '" ++ Text.emphasize setting.usage ++ "' cannot be used multiple times"
  | unexpected argument => " unexpected argument '" ++ Text.emphasize argument ++ "' found"
  | unknownCommand name => " unrecognized subcommand '" ++ Text.emphasize name ++ "'"
  | missing what => " the following required arguments were not provided: " ++ Text.emphasize what

/-- The message for arguments that cannot be understood. It is written for a reader without a
terminal, so the emphasis is taken out again, and with it any instruction to a terminal that an
argument holds. -/
def UsageError.message (error : UsageError) : String :=
  Text.plain (Text.emphasize "error:" ++ error.styled ++
    "\n\nFor more information, try '" ++ Text.emphasize "--help" ++ "'.")

/-- An argument: a plain one, or a setting with its value. -/
inductive Argument where
  | plain (text : String)
  | setting (setting : Setting) (value : String)
deriving DecidableEq, Repr

/-- The argument starts with a dash and goes on after it. -/
def isDashed (argument : String) : Bool :=
  match argument.toList with
  | '-' :: _ :: _ => true
  | _ => false

/-- The setting at the head of a dashed argument, and the value that is attached to it. -/
def splitSetting (settings : List Setting) (argument : String) :
    Option (Setting × Option String) :=
  match argument.toList with
  | '-' :: '-' :: rest =>
    let (name, attached) := rest.span (· != '=')
    let found := settings.find? fun setting => setting.name == String.ofList name
    found.map fun setting =>
      (setting, if attached.isEmpty then none else some (String.ofList attached.tail))
  | '-' :: short :: rest =>
    let found := settings.find? fun setting => setting.short == some short
    found.map fun setting =>
      match rest with
      | [] => (setting, none)
      | '=' :: value => (setting, some (String.ofList value))
      | value => (setting, some (String.ofList value))
  | _ => none

/-- Takes arguments one after the other. The first one that is not understood decides the error. -/
def takeArguments {σ : Type} (settings : List Setting)
    (accept : σ → Argument → Except UsageError σ) (state : σ) :
    List String → Except UsageError σ
  | [] => .ok state
  | argument :: rest =>
    if isDashed argument then
      match splitSetting settings argument with
      | none => .error (.unexpected argument)
      | some (setting, some value) => do
        takeArguments settings accept (← accept state (.setting setting value)) rest
      | some (setting, none) =>
        match rest with
        | value :: rest =>
          if isDashed value then .error (.unexpected value)
          else do takeArguments settings accept (← accept state (.setting setting value)) rest
        | [] => .error (.missingValue setting)
    else do takeArguments settings accept (← accept state (.plain argument)) rest

/-- A setting that may be given once, read from its value. -/
def readOnce {α ε : Type} (setting : Setting) (current : Option α)
    (read : String → Except ε α) (reason : ε → String) (value : String) :
    Except UsageError (Option α) :=
  match current with
  | some _ => .error (.repeated setting)
  | none =>
    match read value with
    | .ok result => .ok (some result)
    | .error error => .error (.invalidValue value setting (reason error))

/-- A number that may be given once. -/
def readNaturalOnce (setting : Setting) (current : Option Nat) (value : String) :
    Except UsageError (Option Nat) :=
  readOnce setting current readNatural IntegerError.message value

end RobotScript.Command
