/-
  BranchlessCalc.Condition.Basic

  Comparisons of two value texts, and trees of them.
-/
import BranchlessCalc.Condition.Operator

namespace BranchlessCalc

/-- `left op right` between two texts that are never looked into. -/
structure Comparison where
  left : String
  op : CompareOp
  right : String
deriving DecidableEq, Repr

namespace Comparison

/-- The comparison that holds exactly where this one fails. -/
def reverse (c : Comparison) : Comparison :=
  { c with op := c.op.reverse }

/-- The comparison as it is read aloud. -/
def display (c : Comparison) : String :=
  c.left ++ " " ++ c.op.symbol ++ " " ++ c.right

end Comparison

/-- A comparison, or two conditions joined by a connective. -/
inductive Condition
  | compare (comparison : Comparison)
  | logic (left : Condition) (op : Connective) (right : Condition)
deriving DecidableEq, Repr

namespace Condition

/-- The condition that holds exactly where this one fails, with the negation
    pushed down to the comparisons. -/
def reverse : Condition → Condition
  | compare c => compare c.reverse
  | logic left op right => logic left.reverse op.dual right.reverse

/-- Levels of the tree; a comparison has one. -/
def depth : Condition → Nat
  | compare _ => 1
  | logic left _ right => 1 + max left.depth right.depth

/-- Whether the condition is a single comparison. -/
def isLeaf : Condition → Bool
  | compare _ => true
  | logic _ _ _ => false

/-- The condition as it is read aloud, with every connective in parentheses. -/
def display : Condition → String
  | compare c => c.display
  | logic left op right => "(" ++ left.display ++ " " ++ op.name ++ " " ++ right.display ++ ")"

end Condition

end BranchlessCalc
