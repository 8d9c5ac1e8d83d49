/-
  BranchlessCalc.Decimal.Layout

  How a double is written: its shortest digits, positional in a middle range of
  magnitudes and with an exponent outside it.
-/
import BranchlessCalc.Decimal.Shortest

namespace BranchlessCalc.Decimal

/-- The decisions of a number format. -/
structure Layout where
  /-- Least power of ten of a leading digit that is written positionally. -/
  leastPlain : Int
  /-- Greatest power of ten of a leading digit that is written positionally. -/
  greatestPlain : Int
  /-- Which of two equally near shortest decimals is written. -/
  tie : Tie
  /-- Whether a negative zero keeps its sign. -/
  signedZero : Bool
  /-- Whether an exponent that is not negative has a plus sign. -/
  plusSign : Bool
deriving Repr

/-- Digits with a point, and always at least one digit on each side of it. -/
def plain (digits : List Char) (exponent : Int) : List Char :=
  let point := (digits.length : Int) + exponent
  if 0 ≤ exponent then
    digits ++ List.replicate exponent.toNat '0' ++ ['.', '0']
  else if 0 < point then
    digits.take point.toNat ++ '.' :: digits.drop point.toNat
  else
    '0' :: '.' :: List.replicate (-point).toNat '0' ++ digits

/-- One digit before the point, and no point after a single digit. -/
def scientific (plusSign : Bool) (digits : List Char) (exponent : Int) : List Char :=
  let leading := (digits.length : Int) + exponent - 1
  let fraction := if digits.length ≤ 1 then [] else '.' :: digits.drop 1
  let sign := if plusSign && 0 ≤ leading then ['+'] else []
  digits.take 1 ++ fraction ++ 'e' :: sign ++ (toString leading).toList

/-- The text of a positive decimal in a layout. -/
def Layout.writeDecimal (layout : Layout) (d : Decimal) : List Char :=
  let digits := Nat.toDigits 10 d.digits
  let leading := (digits.length : Int) + d.exponent - 1
  if layout.leastPlain ≤ leading ∧ leading ≤ layout.greatestPlain then
    plain digits d.exponent
  else
    scientific layout.plusSign digits d.exponent

/-- The text of a double in a layout. -/
def Layout.write (layout : Layout) (x : Float) : String :=
  let negative := x.toBits.toNat >>> 63 == 1
  if x.isNaN then
    "NaN"
  else if x == 0 then
    if negative && layout.signedZero then "-0.0" else "0.0"
  else
    let magnitude :=
      if x.isInf then "inf"
      else String.ofList (layout.writeDecimal ((Neighbourhood.ofFloat x).shortest layout.tie))
    if negative then "-" ++ magnitude else magnitude

end BranchlessCalc.Decimal
