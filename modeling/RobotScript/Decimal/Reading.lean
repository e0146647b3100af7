/-!
# Reading numbers

A number in a text is an optional sign and then either `inf`, `infinity` or `nan` in any case, or
decimal digits with at most one point among or beside them, and an optional exponent. Nothing else
may stand in the text. The number read is the one nearest to the decimal. A text may hold any number
of digits: `significant` keeps as many as can matter.
-/

namespace RobotScript.Decimal

/-- The number nearest to `digits * 10 ^ exponent`, with a sign. -/
def nearest (negative : Bool) (digits : Nat) (exponent : Int) : Float :=
  let size := Float.ofScientific digits (exponent < 0) exponent.natAbs
  if negative then -size else size

/-- The number nearest to an integer. -/
def ofInt (n : Int) : Float :=
  nearest (n < 0) n.natAbs 0

/-- The value of decimal digits. -/
def digitsValue (digits : List Char) : Nat :=
  digits.foldl (fun n c => 10 * n + (c.toNat - '0'.toNat)) 0

/-- A sign in front of a text, and what follows it. -/
def splitSign : List Char → Bool × List Char
  | '-' :: rest => (true, rest)
  | '+' :: rest => (false, rest)
  | rest => (false, rest)

/-- The digits in front of a text, and what follows them. -/
def splitDigits (text : List Char) : List Char × List Char :=
  text.span Char.isDigit

/-- How many digits of a number count one by one. It takes fewer to write any number that lies
halfway between two neighbours. -/
def precision : Nat := 800

/-- Digits without the zeros in front of them, cut at the precision, and how many were cut off. What
is cut off only matters for not being zero, so a single one stands for it. -/
def significant (digits : List Char) : List Char × Nat :=
  let (kept, rest) := (digits.dropWhile (· == '0')).splitAt precision
  if rest.all (· == '0') then (kept, rest.length) else (kept ++ ['1'], rest.length - 1)

/-- The size of an exponent. Once it has reached 65536, the digits that follow are not counted. -/
def exponentSize (digits : List Char) : Nat :=
  digits.foldl (fun n c => if n < 65536 then 10 * n + (c.toNat - '0'.toNat) else n) 0

/-- An exponent: digits with an optional sign, up to the end of the text. -/
def exponent? (text : List Char) : Option Int :=
  let (negative, digits) := splitSign text
  if digits ≠ [] ∧ digits.all Char.isDigit then
    let size : Int := exponentSize digits
    some (if negative then -size else size)
  else none

/-- What may follow the digits of a number: nothing, or an exponent after an `e`. -/
def scale? : List Char → Option Int
  | [] => some 0
  | c :: rest => if c = 'e' ∨ c = 'E' then exponent? rest else none

/-- A number without its sign, written in digits: the value of the digits and the power of ten of
the last. -/
def decimal? (text : List Char) : Option (Nat × Int) :=
  let (whole, rest) := splitDigits text
  let (places, rest) :=
    match rest with
    | '.' :: rest => splitDigits rest
    | rest => ([], rest)
  if whole = [] ∧ places = [] then none
  else
    let (digits, cut) := significant (whole ++ places)
    (scale? rest).map fun scale => (digitsValue digits, scale - places.length + cut)

/-- A number without its sign that is given by name. -/
def named? (text : List Char) : Option Float :=
  match String.ofList (text.map Char.toLower) with
  | "inf" => some (1.0 / 0.0)
  | "infinity" => some (1.0 / 0.0)
  | "nan" => some (0.0 / 0.0)
  | _ => none

/-- The number that a text is, if it is one. -/
def read? (text : List Char) : Option Float :=
  let (negative, rest) := splitSign text
  match decimal? rest with
  | some (digits, exponent) => some (nearest negative digits exponent)
  | none => (named? rest).map fun size => if negative then -size else size

end RobotScript.Decimal
