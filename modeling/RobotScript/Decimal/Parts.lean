/-!
# The parts of a number

A number is a sign and a magnitude, and a finite magnitude is a mantissa times a power of two.
`parts` reads them off the bits, `integer?` gives the integer that a number is, if it is one.
-/

namespace RobotScript.Decimal

/-- The size of a number: `finite m q` is `m * 2 ^ q`. -/
inductive Magnitude where
  | finite (mantissa : Nat) (exponent : Int)
  | infinite
  | undefined
deriving DecidableEq, Repr

/-- A number taken apart. Zero has a sign too. -/
structure Parts where
  negative : Bool
  magnitude : Magnitude
deriving DecidableEq, Repr

/-- The exponent of the smallest numbers. -/
def leastExponent : Int := -1074

/-- The mantissa of a power of two, except for the smallest numbers. -/
def leadingBit : Nat := Nat.pow 2 52

/-- Sign, exponent field and fraction of the bits, with the leading bit put back. -/
def partsOfBits (bits : Nat) : Parts :=
  let fraction := bits % leadingBit
  let field := bits / leadingBit % Nat.pow 2 11
  { negative := bits / Nat.pow 2 63 % 2 == 1
    magnitude :=
      if field = Nat.pow 2 11 - 1 then
        if fraction = 0 then .infinite else .undefined
      else if field = 0 then .finite fraction leastExponent
      else .finite (leadingBit + fraction) (leastExponent + (field - 1 : Nat)) }

/-- The parts of a number. -/
def parts (x : Float) : Parts :=
  partsOfBits x.toBits.toNat

/-- The natural number that `m * 2 ^ q` is, if it is one. -/
def Magnitude.nat? : Magnitude → Option Nat
  | .finite m q =>
    if 0 ≤ q then some (m * Nat.pow 2 q.toNat)
    else if m % Nat.pow 2 (-q).toNat = 0 then some (m / Nat.pow 2 (-q).toNat)
    else none
  | .infinite => none
  | .undefined => none

/-- The integer that a number is, if it is one. Both zeros are the integer zero. -/
def integer? (x : Float) : Option Int :=
  let p := parts x
  p.magnitude.nat?.map fun n => if p.negative then -(n : Int) else n

end RobotScript.Decimal
