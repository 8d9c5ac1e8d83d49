/-
  BranchlessCalc.Proofs.Truth

  When a condition holds, given the values of its operands.

  A condition is a tree of comparisons, and its truth a function of theirs
  (`Condition.Holds`). What is true of a comparison is left open there, since
  besides the order of the rationals it can also be what a mask makes of it.
  A condition inside a larger one contributes its truth and nothing else
  (`Context.holds_fill_iff`).
-/
import BranchlessCalc.Condition.Basic
import Mathlib.Algebra.Order.Field.Rat
import Mathlib.Order.Lattice

namespace BranchlessCalc

/-! ## Operators -/

/-- The order relation of an operator. -/
def CompareOp.Holds : CompareOp → Rat → Rat → Prop
  | less, x, y => x < y
  | more, x, y => x > y
  | lessEquals, x, y => x ≤ y
  | moreEquals, x, y => x ≥ y

instance (op : CompareOp) (x y : Rat) : Decidable (op.Holds x y) :=
  match op with
  | .less => inferInstanceAs (Decidable (x < y))
  | .more => inferInstanceAs (Decidable (y < x))
  | .lessEquals => inferInstanceAs (Decidable (x ≤ y))
  | .moreEquals => inferInstanceAs (Decidable (y ≤ x))

theorem CompareOp.holds_reverse_iff (op : CompareOp) (x y : Rat) :
    op.reverse.Holds x y ↔ ¬ op.Holds x y := by
  cases op with
  | less | more => exact not_lt.symm
  | lessEquals | moreEquals => exact not_le.symm

/-- The truth of two conditions that a connective joins. -/
def Connective.Joins : Connective → Prop → Prop → Prop
  | and, p, q => p ∧ q
  | or, p, q => p ∨ q

instance (op : Connective) (p q : Prop) [Decidable p] [Decidable q] : Decidable (op.Joins p q) :=
  match op with
  | .and => inferInstanceAs (Decidable (p ∧ q))
  | .or => inferInstanceAs (Decidable (p ∨ q))

theorem Connective.joins_congr (op : Connective) {p p' q q' : Prop} (hp : p ↔ p') (hq : q ↔ q') :
    op.Joins p q ↔ op.Joins p' q' := by
  rw [propext hp, propext hq]

/-- De Morgan's laws. -/
theorem Connective.joins_dual_iff (op : Connective) (p q : Prop) :
    op.dual.Joins (¬ p) (¬ q) ↔ ¬ op.Joins p q := by
  cases op with
  | and => exact (Classical.not_and_iff_not_or_not).symm
  | or => exact not_or.symm

/-! ## Conditions -/

/-- The comparison holds for these values of texts. -/
def Comparison.Holds (value : String → Rat) (c : Comparison) : Prop :=
  c.op.Holds (value c.left) (value c.right)

instance (value : String → Rat) : DecidablePred (Comparison.Holds value) :=
  fun c => inferInstanceAs (Decidable (c.op.Holds (value c.left) (value c.right)))

theorem Comparison.holds_reverse_iff (value : String → Rat) (c : Comparison) :
    c.reverse.Holds value ↔ ¬ c.Holds value :=
  c.op.holds_reverse_iff (value c.left) (value c.right)

namespace Condition

/-- The comparisons of a condition, from left to right. -/
def leaves : Condition → List Comparison
  | compare c => [c]
  | logic left _ right => left.leaves ++ right.leaves

/-- The operand texts of a condition, from left to right. -/
def operands (c : Condition) : List String :=
  c.leaves.flatMap fun leaf => [leaf.left, leaf.right]

/-- The condition holds, given which comparisons do. -/
def Holds (leaf : Comparison → Prop) : Condition → Prop
  | compare c => leaf c
  | logic left op right => op.Joins (left.Holds leaf) (right.Holds leaf)

instance decidableHolds (leaf : Comparison → Prop) [DecidablePred leaf] :
    ∀ c : Condition, Decidable (c.Holds leaf)
  | compare c => inferInstanceAs (Decidable (leaf c))
  | logic left op right =>
    have := decidableHolds leaf left
    have := decidableHolds leaf right
    inferInstanceAs (Decidable (op.Joins (left.Holds leaf) (right.Holds leaf)))

theorem left_mem_operands {c : Condition} {leaf : Comparison} (h : leaf ∈ c.leaves) :
    leaf.left ∈ c.operands :=
  List.mem_flatMap.mpr ⟨leaf, h, by simp⟩

theorem right_mem_operands {c : Condition} {leaf : Comparison} (h : leaf ∈ c.leaves) :
    leaf.right ∈ c.operands :=
  List.mem_flatMap.mpr ⟨leaf, h, by simp⟩

theorem operands_logic (left : Condition) (op : Connective) (right : Condition) :
    (logic left op right).operands = left.operands ++ right.operands :=
  List.flatMap_append

/-- A condition and its reverse have the same operands. -/
theorem operands_reverse (c : Condition) : c.reverse.operands = c.operands := by
  induction c with
  | compare c => rfl
  | logic left op right ihl ihr =>
    rw [reverse, operands_logic, operands_logic, ihl, ihr]

/-- Only the truth of the condition's own comparisons matters. -/
theorem holds_congr {leaf leaf' : Comparison → Prop} {c : Condition}
    (h : ∀ comparison ∈ c.leaves, leaf comparison ↔ leaf' comparison) :
    c.Holds leaf ↔ c.Holds leaf' := by
  induction c with
  | compare c => exact h c (List.mem_singleton_self c)
  | logic left op right ihl ihr =>
    apply op.joins_congr
    · exact ihl fun comparison hmem => h comparison (List.mem_append_left _ hmem)
    · exact ihr fun comparison hmem => h comparison (List.mem_append_right _ hmem)

/-- A condition holds where all its comparisons do. -/
theorem holds_of_forall {leaf : Comparison → Prop} {c : Condition}
    (h : ∀ comparison ∈ c.leaves, leaf comparison) : c.Holds leaf := by
  induction c with
  | compare c => exact h c (List.mem_singleton_self c)
  | logic left op right ihl ihr =>
    have hleft := ihl fun comparison hmem => h comparison (List.mem_append_left _ hmem)
    have hright := ihr fun comparison hmem => h comparison (List.mem_append_right _ hmem)
    cases op with
    | and => exact ⟨hleft, hright⟩
    | or => exact .inl hleft

/-- Where reversing a comparison turns its truth around, reversing a condition does. -/
theorem holds_reverse_of_leaves {leaf : Comparison → Prop}
    (hleaf : ∀ comparison : Comparison, leaf comparison.reverse ↔ ¬ leaf comparison)
    (c : Condition) : c.reverse.Holds leaf ↔ ¬ c.Holds leaf := by
  induction c with
  | compare c => exact hleaf c
  | logic left op right ihl ihr =>
    -- Reversing turns the connective into its dual and goes on into both sides.
    rw [reverse, Holds, op.dual.joins_congr ihl ihr, op.joins_dual_iff, Holds]

/-- The reverse holds exactly where the condition fails. -/
theorem holds_reverse_iff (value : String → Rat) (c : Condition) :
    c.reverse.Holds (Comparison.Holds value) ↔ ¬ c.Holds (Comparison.Holds value) :=
  c.holds_reverse_of_leaves (Comparison.holds_reverse_iff value)

/-! ## Conditions inside larger ones -/

/-- A condition with a place for another one on one of its sides, at any depth. -/
inductive Context
  | hole
  | inLeft (inner : Context) (op : Connective) (right : Condition)
  | inRight (left : Condition) (op : Connective) (inner : Context)

namespace Context

/-- The larger condition, with `c` in the place. -/
def fill (c : Condition) : Context → Condition
  | hole => c
  | inLeft inner op right => logic (inner.fill c) op right
  | inRight left op inner => logic left op (inner.fill c)

/-- The larger condition holds, given the truth of what is in the place. -/
def Holds (leaf : Comparison → Prop) (p : Prop) : Context → Prop
  | hole => p
  | inLeft inner op right => op.Joins (inner.Holds leaf p) (right.Holds leaf)
  | inRight left op inner => op.Joins (left.Holds leaf) (inner.Holds leaf p)

instance decidableHolds (leaf : Comparison → Prop) [DecidablePred leaf] (p : Prop) [Decidable p] :
    ∀ around : Context, Decidable (around.Holds leaf p)
  | hole => inferInstanceAs (Decidable p)
  | inLeft inner op right =>
    have := decidableHolds leaf p inner
    inferInstanceAs (Decidable (op.Joins (inner.Holds leaf p) (right.Holds leaf)))
  | inRight left op inner =>
    have := decidableHolds leaf p inner
    inferInstanceAs (Decidable (op.Joins (left.Holds leaf) (inner.Holds leaf p)))

/-- Nothing but its truth matters of the condition in the place. -/
theorem holds_fill_iff (leaf : Comparison → Prop) (c : Condition) (around : Context) :
    (around.fill c).Holds leaf ↔ around.Holds leaf (c.Holds leaf) := by
  induction around with
  | hole => exact Iff.rfl
  | inLeft inner op right ih => exact op.joins_congr ih Iff.rfl
  | inRight left op inner ih => exact op.joins_congr Iff.rfl ih

end Context

end Condition

end BranchlessCalc
