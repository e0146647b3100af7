/-!
# Text for a terminal

A terminal takes some characters as instructions, for colours and the like. An escape character
starts a sequence, and the characters after it say how far the sequence goes. `plain` is what is
left to read of a text when the instructions are taken out.

As in a scan for tokens, what the text is in the middle of is a mode. `TerminalMode.feed` says
whether a character is kept and which mode it leaves. A character that lays out the text is kept
even inside a sequence. The sequence then waits while characters are shown, and the next control
character takes it up again (`TerminalState.feed`).
-/

namespace RobotScript.Text

/-- What a text for a terminal is in the middle of. -/
inductive TerminalMode where
  /-- No sequence. -/
  | idle
  /-- A sequence of which only the escape character is there. -/
  | escape
  /-- A sequence that the next letter or digit ends. -/
  | intermediate
  /-- A control sequence: numbers, and then a letter. -/
  | control
  /-- The beginning of a string for the device. -/
  | deviceStart
  /-- The numbers in front of a string for the device. -/
  | deviceNumbers
  /-- The marks in front of a string for the device. -/
  | deviceMarks
  /-- A string for the device. -/
  | deviceString
  /-- A string for the system, such as the title of a window. -/
  | systemString
deriving DecidableEq, Repr

/-- A control character that lays out a text. -/
def isLayout (c : Char) : Bool :=
  c == '\t' || c == '\n' || c == '\x0c' || c == '\r'

/-- An ASCII character with a shape, or the space. -/
def isPrinted (c : Char) : Bool :=
  ' ' ≤ c && c ≤ '~'

/-- A character above ASCII. -/
def isWide (c : Char) : Bool :=
  '\x7f' < c

/-- The encoding of the character holds the byte that ends a string for the device. -/
def endsDeviceString (c : Char) : Bool :=
  (String.utf8EncodeChar c).contains 0x9C

namespace TerminalMode

/-- The mode after a printed character that follows an escape character. -/
def afterEscape (c : Char) : TerminalMode :=
  if c = '[' then control
  else if c = ']' then systemString
  else if c = 'P' then deviceStart
  else if c = 'X' || c = '^' || c = '_' then deviceString
  else if c ≤ '/' then intermediate
  else idle

/-- The mode after a printed character in front of a string for the device. Marks come after
numbers. What is out of order belongs to the string. -/
def afterDevice (mode : TerminalMode) (c : Char) : TerminalMode :=
  if '@' ≤ c then deviceString
  else if c ≤ '/' then deviceMarks
  else if mode = deviceStart || mode = deviceNumbers && c ≤ ';' then deviceNumbers
  else deviceString

/-- Whether a character is kept, and the mode after it. An escape character starts a sequence
wherever it stands, and the characters U+0018 and U+001A call any sequence off. -/
def feed (mode : TerminalMode) (c : Char) : Bool × TerminalMode :=
  if c = '\x1b' then (false, escape)
  else if c = '\x18' || c = '\x1a' then (false, idle)
  else
    match mode with
    | idle => (isPrinted c || isWide c || isLayout c, idle)
    | escape => (isLayout c, if isPrinted c then afterEscape c else escape)
    | intermediate => (isLayout c, if isPrinted c && '0' ≤ c then idle else intermediate)
    | control => (isLayout c, if isPrinted c && '@' ≤ c then idle else control)
    | deviceStart | deviceNumbers | deviceMarks =>
      (false, if isPrinted c then mode.afterDevice c else mode)
    | deviceString => (false, if endsDeviceString c then idle else deviceString)
    | systemString => (false, if c = '\x07' then idle else systemString)

end TerminalMode

/-- How far a text for a terminal has come: the sequence that is going on, and whether the last
character was kept. -/
structure TerminalState where
  mode : TerminalMode := .idle
  showing : Bool := false
deriving DecidableEq, Repr

namespace TerminalState

/-- Whether a character is kept, and the state after it. Once a character was kept, those after it
are kept up to the next control character. One above ASCII also ends a sequence that waits. -/
def feed (state : TerminalState) (c : Char) : Bool × TerminalState :=
  if state.showing && isWide c then (true, ⟨.idle, true⟩)
  else if state.showing && (isPrinted c || isLayout c) then (true, state)
  else
    let (kept, mode) := state.mode.feed c
    (kept, ⟨mode, kept⟩)

/-- What is kept of the characters that follow in a state. -/
def keep (state : TerminalState) : List Char → List Char
  | [] => []
  | c :: rest =>
    let (kept, next) := state.feed c
    if kept then c :: keep next rest else keep next rest

end TerminalState

/-- The text without the instructions to a terminal. -/
def plain (text : String) : String :=
  String.ofList (TerminalState.keep {} text.toList)

/-- The text between instructions to show it with emphasis, and to show what follows without. -/
def emphasize (text : String) : String :=
  "\x1b[1m" ++ text ++ "\x1b[0m"

end RobotScript.Text
