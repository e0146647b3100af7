import RobotScript.Decimal.Shortest

/-!
# Numbers in writing

A number is written with the fewest digits that read back. A `Style` says which powers of ten are
written out and whether a whole number keeps a point.
-/

namespace RobotScript.Decimal

/-- The decisions of a way to write numbers. -/
structure Style where
  /-- A whole number that is written out ends in `.0`. -/
  pointed : Bool
  /-- A number whose first digit stands for this power of ten is written out, without an
  exponent. -/
  writtenOut : Int → Bool

/-- The digits of a decimal, and the power of ten of the last one. -/
structure Digits where
  chars : List Char
  last : Int
deriving DecidableEq, Repr

/-- The digits of a decimal without the zeros at the end. -/
def Scaled.significant (d : Scaled) : Digits :=
  let all := Nat.toDigits 10 d.digits
  let zeros := (all.reverse.takeWhile (· == '0')).length
  ⟨all.take (all.length - zeros), d.exponent + zeros⟩

namespace Digits

/-- The power of ten of the first digit. -/
def first (d : Digits) : Int :=
  d.last + d.chars.length - 1

/-- The digits written out, zeros filling the places up to the point. -/
def positional (pointed : Bool) (d : Digits) : List Char :=
  if 0 ≤ d.last then
    d.chars ++ List.replicate d.last.toNat '0' ++ if pointed then ['.', '0'] else []
  else
    let places := (-d.last).toNat
    let whole := d.chars.length - places
    if d.chars.length ≤ places then
      ['0', '.'] ++ List.replicate (places - d.chars.length) '0' ++ d.chars
    else
      d.chars.take whole ++ ['.'] ++ d.chars.drop whole

/-- One digit before the point, and the power of ten after an `e`. -/
def exponential (d : Digits) : List Char :=
  d.chars.take 1 ++ (if d.chars.length ≤ 1 then [] else '.' :: d.chars.drop 1) ++
    'e' :: (toString d.first).toList

end Digits

/-- A number in writing. -/
def write (style : Style) (x : Float) : String :=
  let p := parts x
  let sign := if p.negative then "-" else ""
  match p.magnitude with
  | .undefined => "NaN"
  | .infinite => sign ++ "inf"
  | .finite m q =>
    if m = 0 then sign ++ if style.pointed then "0.0" else "0"
    else
      let digits := (shortest m q).significant
      sign ++ String.ofList
        (if style.writtenOut digits.first then digits.positional style.pointed
         else digits.exponential)

end RobotScript.Decimal
