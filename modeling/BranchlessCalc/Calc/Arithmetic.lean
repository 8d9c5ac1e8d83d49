/-
  BranchlessCalc.Calc.Arithmetic

  The arithmetics that an expression can be evaluated in.

  An `Arithmetic` is a record of total operations, so that whether an expression
  has a value never depends on its numbers. `double` is the one that programs
  run; `exact` computes on the rationals and `rounded fl` on the rationals with
  a rounding `fl` after each operation. Over the rationals a quotient by zero
  has no value: it is `none`, and so is everything computed from it.
-/
import BranchlessCalc.Decimal.Basic

namespace BranchlessCalc.Calc

/-- How `round` chooses a multiple of its step. -/
inductive Rounding
  /-- To the nearest one, a half away from zero. -/
  | nearest
  | up
  | down
  | toZero
deriving DecidableEq, Repr

/-- The rounding strategy of a name. -/
def Rounding.ofName? : String → Option Rounding
  | "nearest" => some .nearest
  | "up" => some .up
  | "down" => some .down
  | "to-zero" => some .toZero
  | _ => none

/-- Numbers `α` with the operations that expressions use. -/
structure Arithmetic (α : Type) where
  /-- The value of a decimal literal. -/
  literal : Decimal → α
  /-- Pixels in one `rem`. -/
  remPixels : α
  neg : α → α
  abs : α → α
  add : α → α → α
  sub : α → α → α
  mul : α → α → α
  div : α → α → α
  min : α → α → α
  max : α → α → α
  /-- The whole number that a strategy rounds to. -/
  whole : Rounding → α → α

namespace Arithmetic

variable {α : Type}

/-- The value held between two bounds; the lower one wins if they cross. -/
def clamp (A : Arithmetic α) (low value high : α) : α :=
  A.max low (A.min value high)

/-- The multiple of `|step|` that a strategy rounds `value` to. -/
def round (A : Arithmetic α) (strategy : Rounding) (value step : α) : α :=
  A.mul (A.whole strategy (A.div value (A.abs step))) (A.abs step)

/-! ## Doubles -/

/-- The whole number next to `x` in the direction of zero. -/
def truncate (x : Float) : Float :=
  if x < 0 then x.ceil else x.floor

/-- IEEE double precision. When one argument of `min` or `max` is not a number
    the other one is the answer. -/
def double : Arithmetic Float where
  literal := Decimal.toFloat
  remPixels := 16
  neg x := -x
  abs x := x.abs
  add x y := x + y
  sub x y := x - y
  mul x y := x * y
  div x y := x / y
  min x y := if x.isNaN then y else if y < x then y else x
  max x y := if x.isNaN then y else if x < y then y else x
  whole
    | .nearest, x => x.round
    | .up, x => x.ceil
    | .down, x => x.floor
    | .toZero, x => truncate x

/-! ## Rationals -/

/-- The whole number that a strategy rounds a rational to. -/
def wholeRat : Rounding → Rat → Rat
  | .nearest, x => if x < 0 then -((1 / 2 - x).floor : Rat) else ((x + 1 / 2).floor : Rat)
  | .up, x => (x.ceil : Rat)
  | .down, x => (x.floor : Rat)
  | .toZero, x => if x < 0 then (x.ceil : Rat) else (x.floor : Rat)

/-- A binary operation on numbers that may be undefined. -/
def lift₂ (f : Rat → Rat → Option Rat) (x y : Option Rat) : Option Rat :=
  x.bind fun x => y.bind fun y => f x y

/-- The rationals with `fl` applied to every literal and to the result of every
    sum, difference, product and quotient. -/
def rounded (fl : Rat → Rat) : Arithmetic (Option Rat) where
  literal d := some (fl d.toRat)
  remPixels := some 16
  neg x := x.map fun x => -x
  abs x := x.map fun x => if x < 0 then -x else x
  add := lift₂ fun x y => some (fl (x + y))
  sub := lift₂ fun x y => some (fl (x - y))
  mul := lift₂ fun x y => some (fl (x * y))
  div := lift₂ fun x y => if y = 0 then none else some (fl (x / y))
  min := lift₂ fun x y => some (if y < x then y else x)
  max := lift₂ fun x y => some (if x < y then y else x)
  whole strategy x := x.map (wholeRat strategy)

/-- Exact rational arithmetic. -/
def exact : Arithmetic (Option Rat) :=
  rounded id

end Arithmetic

end BranchlessCalc.Calc
