/-
  BranchlessCalc.Proofs.Template

  What the mask templates compute, in any arithmetic.

  Each template is matched by a function on numbers of the same name, besides the
  one on trees. A template filled with texts denotes this function of what the
  texts denote. Only the result of `whenPositive` and the right mask of a sum
  stand bare behind a plus sign, and there the text has to be an `Addend`.
-/
import BranchlessCalc.Proofs.Denotation
import BranchlessCalc.Proofs.TemplateTree

namespace BranchlessCalc

namespace Calc.Arithmetic

variable {α : Type} (A : Arithmetic α)

/-! ## The functions -/

def zero : α := A.literal ⟨0, 0⟩

def one : α := A.literal ⟨1, 0⟩

def two : α := A.literal ⟨2, 0⟩

def minusOne : α := A.neg A.one

def ofBothSigns (function : Extremum) (x : α) : α := function.apply A x (A.mul x A.minusOne)

def magnitude : α → α := A.ofBothSigns .max

def negMagnitude : α → α := A.ofBothSigns .min

def stepFix (result : α) : α :=
  A.clamp A.minusOne (A.sub (A.round .up (A.magnitude result) A.one) A.one) A.zero

def distance (difference result : α) : α :=
  A.clamp A.zero difference (A.magnitude result)

def moved (difference result : α) : α :=
  A.add (A.max A.zero (A.sub result (A.distance difference result)))
    (A.min A.zero (A.add result (A.distance difference result)))

def whenPositive (difference result : α) : α :=
  A.add (A.mul (A.round .toZero (A.moved difference result) (A.add result (A.stepFix result)))
    A.minusOne) result

def whenNonnegative (difference result : α) : α :=
  A.sub result (A.whenPositive (A.mul difference A.minusOne) result)

def ofDifference (difference result : α) (strict : Bool) : α :=
  if strict then A.whenPositive difference result else A.whenNonnegative difference result

def heldSum (left right result : α) : α :=
  A.clamp (A.negMagnitude result) (A.add left right) (A.magnitude result)

def both (left right result : α) : α :=
  A.clamp (A.negMagnitude result)
    (A.round .toZero (A.add left right) (A.add (A.mul result A.two) (A.stepFix result)))
    (A.magnitude result)

def heldDifference (left right result : α) : α :=
  A.clamp (A.min A.zero result) (A.sub left right) (A.max A.zero result)

end Calc.Arithmetic

namespace Mask

open Calc

variable {α : Type} {A : Arithmetic α}

/-! ## Trees

The result is evaluated before the difference, so its error comes first. -/

section Trees

variable (x y z : Expr)

/-- The strategy of `round` is a name, which is never evaluated. -/
theorem eval_round {name : String} {strategy : Rounding}
    (hname : Rounding.ofName? name = some strategy) :
    (Expr.call "round" [.name name, x, y]).eval A =
      do return A.round strategy (← x.eval A) (← y.eval A) := by
  rw [eval_roundBy]
  simp only [roundBy, hname]
  rfl

theorem eval_negated : x.negated.eval A = do return A.mul (← x.eval A) A.minusOne := by
  rw [Expr.negated, Expr.eval]
  cases x.eval A <;> rfl

theorem eval_ofBothSigns (function : Extremum) :
    (x.ofBothSigns function).eval A = do return A.ofBothSigns function (← x.eval A) := by
  rw [Expr.ofBothSigns, eval_extremum, eval_negated]
  cases x.eval A <;> rfl

theorem eval_stepFix : x.stepFix.eval A = do return A.stepFix (← x.eval A) := by
  rw [Expr.stepFix, eval_clamp, Expr.eval, Expr.eval, eval_round _ _ rfl, Expr.magnitude,
    eval_ofBothSigns]
  cases x.eval A <;> rfl

theorem eval_distance : (Expr.distance y x).eval A =
    do let difference ← y.eval A; return A.distance difference (← x.eval A) := by
  rw [Expr.distance, eval_clamp, Expr.magnitude, eval_ofBothSigns]
  cases x.eval A <;> cases y.eval A <;> rfl

theorem eval_moved : (Expr.moved y x).eval A =
    do let result ← x.eval A; return A.moved (← y.eval A) result := by
  rw [Expr.moved, Expr.eval, eval_extremum, eval_extremum, Expr.eval, Expr.eval, eval_distance]
  cases x.eval A <;> cases y.eval A <;> rfl

theorem eval_truncated : (Expr.truncated y x).eval A = do
    let result ← x.eval A
    return A.mul (A.round .toZero (A.moved (← y.eval A) result)
      (A.add result (A.stepFix result))) A.minusOne := by
  rw [Expr.truncated, eval_negated, eval_round _ _ rfl, eval_moved, Expr.eval, eval_stepFix]
  cases x.eval A <;> cases y.eval A <;> rfl

theorem eval_held : (Expr.held y x).eval A = do
    let result ← x.eval A
    return A.clamp (A.negMagnitude result) (← y.eval A) (A.magnitude result) := by
  rw [Expr.held, eval_clamp, Expr.negMagnitude, Expr.magnitude, eval_ofBothSigns, eval_ofBothSigns]
  cases x.eval A <;> cases y.eval A <;> rfl

theorem eval_heldTruncated : (Expr.heldTruncated y x).eval A = do
    let result ← x.eval A
    return A.clamp (A.negMagnitude result) (A.round .toZero (← y.eval A)
      (A.add (A.mul result A.two) (A.stepFix result))) (A.magnitude result) := by
  rw [Expr.heldTruncated, eval_held, eval_round _ _ rfl, Expr.eval, Expr.eval, eval_stepFix]
  cases x.eval A <;> cases y.eval A <;> rfl

theorem eval_heldDifference : (Expr.heldDifference y z x).eval A = do
    let result ← x.eval A
    let left ← y.eval A
    return A.heldDifference left (← z.eval A) result := by
  rw [Expr.heldDifference, eval_clamp, eval_extremum, eval_extremum]
  show (do
    let low ← _
    let value ← (do return A.sub (← y.eval A) (← z.eval A))
    return A.clamp low value (← _)) = _
  cases x.eval A <;> cases y.eval A <;> cases z.eval A <;> rfl

end Trees

/-! ## The sign of a difference -/

section Selector

variable {d r : String} {D R : Except EvalError α}

theorem denotes_whenPositive (hd : Denotes A IsSum d D) (hr : Denotes A IsSum r R)
    (hadd : Addend A r R) :
    Denotes A IsPrimary (whenPositive d r)
      (do let result ← R; return A.whenPositive (← D) result) := by
  obtain ⟨y, hy, rfl⟩ := hd
  obtain ⟨x, hx, rfl⟩ := hr
  -- The result stands bare behind the plus sign, so this takes an addend.
  have h := (hadd ⟨_, spells_truncated hx hy, eval_truncated x y⟩).call_calc
  refine h.congr (whenPositive_eq d r) ?_
  cases x.eval A <;> cases y.eval A <;> rfl

theorem denotes_negated (hd : Denotes A IsSum d D) :
    Denotes A IsSum ("(" ++ d ++ ") * -1") (do return A.mul (← D) A.minusOne) := by
  obtain ⟨y, hy, rfl⟩ := hd
  exact ⟨y.negated, (spells_negated hy).sum, eval_negated y⟩

theorem denotes_whenNonnegative (hd : Denotes A IsSum d D) (hr : Denotes A IsSum r R)
    (hadd : Addend A r R) :
    Denotes A IsPrimary (whenNonnegative d r)
      (do let result ← R; return A.whenNonnegative (← D) result) := by
  have hmask := denotes_whenPositive (denotes_negated hd) hr hadd
  have h := (hr.sub hmask.product).call_calc
  refine h.congr (by unfold whenNonnegative; simp [← String.toList_inj]) ?_
  cases D <;> cases R <;> rfl

theorem denotes_ofDifference (hd : Denotes A IsSum d D) (hr : Denotes A IsSum r R)
    (hadd : Addend A r R) (strict : Bool) :
    Denotes A IsPrimary (ofDifference d r strict)
      (do let result ← R; return A.ofDifference (← D) result strict) := by
  cases strict with
  | true => exact denotes_whenPositive hd hr hadd
  | false => exact denotes_whenNonnegative hd hr hadd

end Selector

/-! ## Thresholds -/

section Thresholds

variable {v t r : String} {V T R : Except EvalError α}

theorem denotes_above (hv : Denotes A IsSum v V) (ht : Denotes A IsSum t T)
    (hr : Denotes A IsSum r R) (hadd : Addend A r R) (strict : Bool) :
    Denotes A IsPrimary (above v t r strict) (do
      let result ← R
      let value ← V
      return A.ofDifference (A.sub value (← T)) result strict) := by
  obtain ⟨x, hx, rfl⟩ := hv
  obtain ⟨y, hy, rfl⟩ := ht
  have h := denotes_ofDifference (A := A) ⟨_, spells_difference hx hy, rfl⟩ hr hadd strict
  refine h.congr rfl ?_
  rw [Expr.eval]
  cases R <;> cases x.eval A <;> cases y.eval A <;> rfl

theorem denotes_below (hv : Denotes A IsSum v V) (ht : Denotes A IsSum t T)
    (hr : Denotes A IsSum r R) (hadd : Addend A r R) (strict : Bool) :
    Denotes A IsPrimary (below v t r strict) (do
      let result ← R
      let threshold ← T
      return A.ofDifference (A.sub threshold (← V)) result strict) :=
  denotes_above ht hv hr hadd strict

end Thresholds

/-! ## Pairs of masks -/

section Pairs

variable {a b r : String} {X Y R : Except EvalError α}

theorem denotes_heldSum (ha : Denotes A IsSum a X) (hb : Addend A b Y) (hr : Denotes A IsSum r R) :
    Denotes A IsPrimary (heldSum a b r) (do
      let result ← R
      let left ← X
      return A.heldSum left (← Y) result) := by
  obtain ⟨x, hx, rfl⟩ := hr
  obtain ⟨sum, hsum, heval⟩ := hb ha
  refine ⟨_, spells_heldSum hx hsum, ?_⟩
  rw [eval_held, heval]
  cases x.eval A <;> cases X <;> cases Y <;> rfl

theorem denotes_both (ha : Denotes A IsSum a X) (hb : Addend A b Y) (hr : Denotes A IsSum r R) :
    Denotes A IsPrimary (both a b r) (do
      let result ← R
      let left ← X
      return A.both left (← Y) result) := by
  obtain ⟨x, hx, rfl⟩ := hr
  obtain ⟨sum, hsum, heval⟩ := hb ha
  refine ⟨_, spells_both hx hsum, ?_⟩
  rw [eval_heldTruncated, heval]
  cases x.eval A <;> cases X <;> cases Y <;> rfl

theorem denotes_heldDifference (ha : Denotes A IsSum a X) (hb : Denotes A IsProduct b Y)
    (hr : Denotes A IsSum r R) :
    Denotes A IsPrimary
      ("clamp(min(" ++ zero ++ ", " ++ r ++ "), calc(" ++ a ++ " - " ++ b ++ "), max(" ++ zero
        ++ ", " ++ r ++ "))")
      (do
        let result ← R
        let left ← X
        return A.heldDifference left (← Y) result) := by
  obtain ⟨x, hx, rfl⟩ := hr
  obtain ⟨y, hy, rfl⟩ := ha
  obtain ⟨z, hz, rfl⟩ := hb
  exact ⟨_, spells_heldDifference hx hy hz, eval_heldDifference x y z⟩

theorem denotes_branch (ha : Denotes A IsSum a X) (hb : Denotes A IsProduct b Y) :
    Denotes A IsPrimary (branch a b) (do return A.add (← X) (← Y)) :=
  (ha.add hb).call_calc.congr (by unfold branch; simp [← String.toList_inj]) rfl

end Pairs

end Mask

end BranchlessCalc
