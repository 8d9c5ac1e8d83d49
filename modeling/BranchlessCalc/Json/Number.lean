/-
  BranchlessCalc.Json.Number

  Numbers of JSON texts: as they are written, and what they are read as.
-/
import BranchlessCalc.Decimal.Basic

namespace BranchlessCalc.Json

/-- A number as it is written. The fraction is empty where there is no point. -/
structure Number where
  negative : Bool
  whole : List Char
  fraction : List Char
  exponent? : Option Int
deriving DecidableEq, Repr

/-- What a written number is read as. -/
inductive Numeric
  | integer (value : Int)
  | double (value : Float)
deriving Repr

namespace Number

/-- The numeral of an integer. -/
def ofInt (value : Int) : Number :=
  ⟨value < 0, Nat.toDigits 10 value.natAbs, [], none⟩

/-- The largest significand: 64 bits. -/
def significandLimit : Nat := Nat.pow 2 64 - 1

/-- Appends digits to a significand as long as it stays within the limit, and
    gives back the digits that were left over. -/
def fitDigits : Nat → List Char → Nat × List Char
  | significand, [] => (significand, [])
  | significand, c :: rest =>
    let next := 10 * significand + (c.toNat - '0'.toNat)
    if next ≤ significandLimit then fitDigits next rest else (significand, c :: rest)

/-- Scales a double by a power of ten, to infinity where the result is too large.
    A power takes one operation, and one more for each `10 ^ 308` that a small
    result is away. -/
def scale (x : Float) (exponent : Int) : Float :=
  if x == 0 then
    x
  else if 0 ≤ exponent then
    x * Float.ofScientific 1 false exponent.toNat
  else if -308 ≤ exponent then
    x / Float.ofScientific 1 false (-exponent).toNat
  else
    scale (x / Float.ofScientific 1 false 308) (exponent + 308)
termination_by (-exponent).toNat
decreasing_by omega

/-- The significand of a numeral, cut to its limit, and the power of ten that
    goes with it. Digits cut before the point raise the power, and those cut
    behind it are lost. -/
def significand (n : Number) : Nat × Int :=
  let (whole, wholeLeft) := fitDigits 0 n.whole
  let (digits, fractionLeft) := fitDigits whole n.fraction
  (digits, wholeLeft.length - (n.fraction.length - fractionLeft.length) + n.exponent?.getD 0)

/-- The double that a numeral is read as. -/
def toDouble (n : Number) : Float :=
  let (digits, exponent) := n.significand
  let magnitude := scale (Float.ofNat digits) exponent
  if n.negative then -magnitude else magnitude

/-- Whether a numeral is read as an integer: it has neither fraction nor
    exponent, and fits 64 bits, as a signed number behind a minus sign and as an
    unsigned one elsewhere. A zero behind a minus sign is no integer. -/
def isInteger (n : Number) : Bool :=
  let magnitude := Decimal.ofDigits 0 n.whole
  n.fraction.isEmpty && n.exponent?.isNone &&
    if n.negative then 0 < magnitude && magnitude ≤ Nat.pow 2 63 else magnitude ≤ significandLimit

/-- What a numeral is read as. -/
def read (n : Number) : Numeric :=
  if n.isInteger then
    let magnitude : Int := Decimal.ofDigits 0 n.whole
    .integer (if n.negative then -magnitude else magnitude)
  else
    .double n.toDouble

/-- Whether a numeral is within the range of doubles. -/
def isFinite (n : Number) : Bool :=
  n.isInteger || !n.toDouble.isInf

end Number

end BranchlessCalc.Json
