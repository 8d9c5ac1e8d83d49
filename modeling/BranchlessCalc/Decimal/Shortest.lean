/-
  BranchlessCalc.Decimal.Shortest

  The decimal with the fewest digits that still reads back as a given double.

  A positive finite double is `m · 2 ^ q`. The reals that round to it form an
  interval around it, whose ends belong to it exactly when `m` is even. The
  shortest decimal is a multiple of the largest power of ten that has a multiple
  in the interval, and of those multiples the one nearest to the double. All
  comparisons are made on natural numbers over one common denominator.
-/
import BranchlessCalc.Decimal.Basic

namespace BranchlessCalc.Decimal

/-- Which of two equally near decimals is taken. -/
inductive Tie
  /-- The larger one. -/
  | up
  /-- The one whose last digit is even. -/
  | even
deriving DecidableEq, Repr

/-- A positive double and the interval of the reals that round to it, as
    numerators over one common denominator. -/
structure Neighbourhood where
  low : Nat
  value : Nat
  high : Nat
  denominator : Nat
  /-- Whether the two ends round to the double as well. -/
  closed : Bool
deriving Repr

namespace Neighbourhood

/-- The neighbourhood of `m · 2 ^ q`. Below the first double of a binade the gap
    is half as wide as above it. -/
def ofBinary (m : Nat) (q : Int) (narrowBelow : Bool) : Neighbourhood :=
  let scale := Nat.pow 2 (q - 2).toNat
  { low := (4 * m - if narrowBelow then 1 else 2) * scale
    value := 4 * m * scale
    high := (4 * m + 2) * scale
    denominator := Nat.pow 2 (2 - q).toNat
    closed := m % 2 == 0 }

/-- The neighbourhood of the magnitude of a double that is neither zero nor
    infinite, read off its bits. -/
def ofFloat (x : Float) : Neighbourhood :=
  let bits : Nat := x.toBits.toNat
  let biased : Nat := (bits >>> 52) % 2048
  let mantissa : Nat := bits % Nat.pow 2 52
  if biased = 0 then
    ofBinary mantissa (-1074) false
  else
    ofBinary (Nat.pow 2 52 + mantissa) ((biased : Int) - 1075) (mantissa == 0 && biased > 1)

/-- Whether `count · 10 ^ exponent` rounds to the double. -/
def holds (n : Neighbourhood) (count : Nat) (exponent : Int) : Bool :=
  let point := count * Nat.pow 10 exponent.toNat * n.denominator
  let low := n.low * Nat.pow 10 (-exponent).toNat
  let high := n.high * Nat.pow 10 (-exponent).toNat
  if n.closed then low ≤ point && point ≤ high else low < point && point < high

/-- The multiple of `10 ^ exponent` that rounds to the double, the nearer one if
    both of its neighbours on that grid do. -/
def onGrid? (n : Neighbourhood) (tie : Tie) (exponent : Int) : Option Decimal :=
  let unit := Nat.pow 10 exponent.toNat * n.denominator
  let value := n.value * Nat.pow 10 (-exponent).toNat
  let below := value / unit
  let rest := 2 * (value % unit)
  let aboveNearer := unit < rest || (unit == rest && (tie == .up || below % 2 == 1))
  match n.holds below exponent, n.holds (below + 1) exponent with
  | false, false => none
  | true, false => some ⟨below, exponent⟩
  | false, true => some ⟨below + 1, exponent⟩
  | true, true => some ⟨if aboveNearer then below + 1 else below, exponent⟩

/-- Powers of ten from the largest that can have a multiple among the doubles
    down to the smallest that is ever needed. -/
def grids : List Int :=
  (List.range 634).map fun (step : Nat) => 309 - (step : Int)

/-- The shortest decimal of a neighbourhood. -/
def shortest (n : Neighbourhood) (tie : Tie) : Decimal :=
  (grids.findSome? (n.onGrid? tie)).getD ⟨0, 0⟩

end Neighbourhood

end BranchlessCalc.Decimal
