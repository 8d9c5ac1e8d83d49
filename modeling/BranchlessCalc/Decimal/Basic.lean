/-
  BranchlessCalc.Decimal.Basic

  Exact decimals `digits · 10 ^ exponent`, how a run of digits with at most one
  point denotes one, and the nearest double.
-/

namespace BranchlessCalc

/-- The number `digits · 10 ^ exponent`, kept exact. -/
structure Decimal where
  digits : Nat
  exponent : Int
deriving DecidableEq, Repr, Inhabited

namespace Decimal

/-- The number that a list of decimal digits denotes, continued from `start`. -/
def ofDigits (start : Nat) (digits : List Char) : Nat :=
  digits.foldl (fun n c => 10 * n + (c.toNat - '0'.toNat)) start

/-- Reads digits with at most one point among them. A point may stand first or
    last, but some digit has to be there. -/
def ofChars? (text : List Char) : Option Decimal :=
  let whole := text.takeWhile Char.isDigit
  let fraction := (text.dropWhile Char.isDigit).drop 1
  let pointed := (text.dropWhile Char.isDigit).take 1
  if (pointed = [] ∨ pointed = ['.']) ∧ fraction.all Char.isDigit ∧ whole ++ fraction ≠ [] then
    some ⟨ofDigits (ofDigits 0 whole) fraction, -(fraction.length : Int)⟩
  else
    none

/-- The double nearest to a decimal, infinity when it is out of range. -/
def toFloat (d : Decimal) : Float :=
  Float.ofScientific d.digits (decide (d.exponent < 0)) d.exponent.natAbs

/-- The rational number that a decimal denotes. -/
def toRat (d : Decimal) : Rat :=
  d.digits * (10 : Rat) ^ d.exponent

end Decimal

end BranchlessCalc
