/-!
# Integers on the command line

An integer is an optional sign and decimal digits. It is read from left to right, and the first
character or digit that makes it unreadable decides what is wrong with it.
-/

namespace RobotScript.Command

/-- Why a text is no integer of the wanted range. -/
inductive IntegerError where
  | empty
  | invalidDigit
  | tooLarge
  | tooSmall
  | outside (value low high : Int)
deriving DecidableEq, Repr

/-- The message for an integer that cannot be read. -/
def IntegerError.message : IntegerError → String
  | empty => "cannot parse integer from empty string"
  | invalidDigit => "invalid digit found in string"
  | tooLarge => "number too large to fit in target type"
  | tooSmall => "number too small to fit in target type"
  | outside value low high => s!"{value} is not in {low}..={high}"

/-- The value so far with the digits that follow, as long as it stays below the bound. -/
def readDigits (bound : Nat) (overflow : IntegerError) :
    Nat → List Char → Except IntegerError Nat
  | value, [] => .ok value
  | value, c :: rest =>
    if c.isDigit then
      let value := 10 * value + (c.toNat - '0'.toNat)
      if value < bound then readDigits bound overflow value rest else .error overflow
    else .error .invalidDigit

/-- Digits of which there has to be at least one. -/
def readSomeDigits (bound : Nat) (overflow : IntegerError) : List Char → Except IntegerError Nat
  | [] => .error .invalidDigit
  | digits => readDigits bound overflow 0 digits

/-- A natural number below 2^64. -/
def readNatural (text : String) : Except IntegerError Nat :=
  match text.toList with
  | [] => .error .empty
  | '+' :: digits => readSomeDigits (Nat.pow 2 64) .tooLarge digits
  | digits => readSomeDigits (Nat.pow 2 64) .tooLarge digits

/-- An integer of 64 bits. -/
def readInteger (text : String) : Except IntegerError Int :=
  match text.toList with
  | [] => .error .empty
  | '+' :: digits => return ↑(← readSomeDigits (Nat.pow 2 63) .tooLarge digits)
  | '-' :: digits => return -↑(← readSomeDigits (Nat.pow 2 63 + 1) .tooSmall digits)
  | digits => return ↑(← readSomeDigits (Nat.pow 2 63) .tooLarge digits)

/-- An integer of 32 bits. -/
def readSmallInteger (text : String) : Except IntegerError Int := do
  let value ← readInteger text
  if -Int.pow 2 31 ≤ value ∧ value < Int.pow 2 31 then return value
  else throw (.outside value (-Int.pow 2 31) (Int.pow 2 31 - 1))

end RobotScript.Command
