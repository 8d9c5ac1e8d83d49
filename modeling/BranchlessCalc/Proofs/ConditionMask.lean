/-
  BranchlessCalc.Proofs.ConditionMask

  The masks of whole conditions in rounded rational arithmetic.

  A comparison's mask decides by the rounded difference of its operands
  (`Comparison.Detected`), and may miss a difference that is small beside the
  result. Connectives add no error of their own: the mask of a condition is
  worth the result exactly if the condition holds of what its comparisons'
  masks decided (`Condition.denotes_mask`).
-/
import BranchlessCalc.Condition.Compile
import BranchlessCalc.Proofs.MaskValue
import BranchlessCalc.Proofs.Truth

namespace BranchlessCalc

open Calc
open Calc.Arithmetic (rounded exact lift₂)

variable {fl : Rat → Rat}

/-! ## Result texts -/

/-- A text that masks can be weighted with: it is worth `R`, it can be added as
    a whole, and twice its worth needs no rounding. -/
structure IsResult (fl : Rat → Rat) (text : String) (R : Rat) : Prop where
  denotes : Denotes (rounded fl) IsSum text (.ok (some R))
  addend : Addend (rounded fl) text (.ok (some R))
  double : fl (2 * R) = 2 * R

/-- Without a sum at its top level, a text is added as a whole in any arithmetic. -/
theorem IsResult.of_product {text : String} {R : Rat} (htext : IsProductText text)
    (hvalue : evaluateIn (rounded fl) text = .ok (some R)) (hdouble : fl (2 * R) = 2 * R) :
    IsResult fl text R := by
  have hdenotes := evaluateIn_eq_ok_iff.mp hvalue
  exact ⟨hdenotes, (hdenotes.product_of_isProductText htext).addend_of_product, hdouble⟩

/-- Regrouping carries over to numbers that may be undefined. -/
theorem lift₂_regroup {f g h : Rat → Rat → Rat} (hregroup : ∀ x y z, f x (h y z) = g (f x y) z)
    (u v w : Option Rat) :
    lift₂ (fun x y => some (f x y)) u (lift₂ (fun x y => some (h x y)) v w) =
      lift₂ (fun x y => some (g x y)) (lift₂ (fun x y => some (f x y)) u v) w := by
  cases u with
  | none => rfl
  | some x =>
    cases v with
    | none => rfl
    | some y =>
      cases w with
      | none => rfl
      | some z => exact congrArg some (hregroup x y z)

theorem exact_regroups : exact.Regroups where
  add_add := lift₂_regroup fun x y z => (add_assoc x y z).symm
  add_sub := lift₂_regroup fun x y z => (add_sub_assoc x y z).symm

/-- Without rounding every text with a value is a result text. -/
theorem IsResult.of_exact {text : String} {R : Rat}
    (hvalue : evaluateIn exact text = .ok (some R)) : IsResult id text R := by
  have hdenotes : Denotes (rounded id) IsSum text (.ok (some R)) := evaluateIn_eq_ok_iff.mp hvalue
  exact ⟨hdenotes, hdenotes.addend_of_regroups exact_regroups, rfl⟩

/-- Which of its two values a mask has. Weighted with zero it has both. -/
theorem evaluateIn_mask_iff {text : String} {R : Rat} {p : Prop} [Decidable p]
    (hmask : evaluateIn (rounded fl) text = .ok (some (if p then R else 0))) :
    (evaluateIn (rounded fl) text = .ok (some R) ↔ R = 0 ∨ p) ∧
      (evaluateIn (rounded fl) text = .ok (some 0) ↔ R = 0 ∨ ¬ p) := by
  rw [hmask, Except.ok.injEq, Option.some.injEq, Except.ok.injEq, Option.some.injEq]
  by_cases hp : p
  · simp [hp]
  · simp [hp, eq_comm]

/-! ## Masks in exact arithmetic -/

section Exact

variable {P : List Token → Expr → Prop} {a b : String} {R E : Rat} {p q : Prop} [Decidable p]
  [Decidable q]

/-- A mask weighted with zero is worth zero either way, so what it decides only
    matters for other results. -/
theorem Calc.Denotes.exact_congr
    (ha : Denotes (rounded id) P a (.ok (some (if p then R else 0)))) (hiff : R ≠ 0 → (p ↔ q)) :
    Denotes exact P a (.ok (some (if q then R else 0))) := by
  refine ha.congr rfl (congrArg (fun x => Except.ok (some x)) ?_)
  by_cases hzero : R = 0
  · rw [hzero, ite_self, ite_self]
  · exact if_congr (hiff hzero) rfl rfl

/-- Of two masks for opposite conditions exactly one is there in their sum. -/
theorem Mask.denotes_branch_exact
    (ha : Denotes exact IsPrimary a (.ok (some (if p then R else 0))))
    (hb : Denotes exact IsPrimary b (.ok (some (if q then E else 0)))) (hopposite : q ↔ ¬ p) :
    Denotes exact IsPrimary (Mask.branch a b) (.ok (some (if p then R else E))) := by
  have hbranch := Mask.denotes_branch ha.sum hb.product
  refine hbranch.congr rfl (congrArg (fun x => Except.ok (some x)) ?_)
  rw [id_eq, if_congr hopposite rfl rfl, ite_not]
  by_cases hp : p
  · rw [if_pos hp, if_pos hp, if_pos hp, add_zero]
  · rw [if_neg hp, if_neg hp, if_neg hp, zero_add]

end Exact

/-! ## Comparisons -/

section Thresholds

variable {v t r : String} {V T R : Rat} (h : IsRounding fl) (hr : IsResult fl r R)
  (hv : Denotes (rounded fl) IsSum v (.ok (some V)))
  (ht : Denotes (rounded fl) IsSum t (.ok (some T)))
include h hr hv ht

theorem Mask.rounded_above (strict : Bool) :
    Denotes (rounded fl) IsPrimary (Mask.above v t r strict)
      (.ok (some (if Passes fl strict (fl (V - T)) R then R else 0))) := by
  rw [← rounded_ofDifference h (h.idempotent _) (hr.denotes.kept h)]
  exact Mask.denotes_above hv ht hr.denotes hr.addend strict

theorem Mask.rounded_below (strict : Bool) :
    Denotes (rounded fl) IsPrimary (Mask.below v t r strict)
      (.ok (some (if Passes fl strict (fl (T - V)) R then R else 0))) := by
  rw [← rounded_ofDifference h (h.idempotent _) (hr.denotes.kept h)]
  exact Mask.denotes_below hv ht hr.denotes hr.addend strict

end Thresholds

/-- The difference that is positive if the comparison holds strictly. -/
def CompareOp.difference (fl : Rat → Rat) : CompareOp → Rat → Rat → Rat
  | less, x, y | lessEquals, x, y => fl (y - x)
  | more, x, y | moreEquals, x, y => fl (x - y)

/-- What the mask of a comparison decides, weighted with `R`. -/
def Comparison.Detected (fl : Rat → Rat) (value : String → Rat) (R : Rat) (c : Comparison) : Prop :=
  Passes fl c.op.isStrict (c.op.difference fl (value c.left) (value c.right)) R

instance (fl : Rat → Rat) (value : String → Rat) (R : Rat) :
    DecidablePred (Comparison.Detected fl value R) :=
  fun _ => inferInstanceAs (Decidable (Passes _ _ _ _))

theorem Comparison.denotes_mask (h : IsRounding fl) {r : String} {R : Rat} (hr : IsResult fl r R)
    (value : String → Rat) (c : Comparison)
    (hleft : Denotes (rounded fl) IsSum c.left (.ok (some (value c.left))))
    (hright : Denotes (rounded fl) IsSum c.right (.ok (some (value c.right)))) :
    Denotes (rounded fl) IsPrimary (c.op.mask c.left c.right r)
      (.ok (some (if c.Detected fl value R then R else 0))) := by
  obtain ⟨left, op, right⟩ := c
  cases op with
  | less | lessEquals => exact Mask.rounded_below h hr hleft hright _
  | more | moreEquals => exact Mask.rounded_above h hr hleft hright _

/-! ## Conditions -/

/-- All operands of a condition have the values that are given. -/
def Condition.Valued (A : Arithmetic (Option Rat)) (value : String → Rat) (c : Condition) : Prop :=
  ∀ text ∈ c.operands, evaluateIn A text = .ok (some (value text))

theorem Condition.Valued.denotes_leaf (h : IsRounding fl) {r : String} {R : Rat}
    (hr : IsResult fl r R) {value : String → Rat} {c : Condition}
    (hc : c.Valued (rounded fl) value) {leaf : Comparison} (hleaf : leaf ∈ c.leaves) :
    Denotes (rounded fl) IsPrimary (leaf.op.mask leaf.left leaf.right r)
      (.ok (some (if leaf.Detected fl value R then R else 0))) := by
  apply leaf.denotes_mask h hr value
  · exact evaluateIn_eq_ok_iff.mp (hc leaf.left (left_mem_operands hleaf))
  · exact evaluateIn_eq_ok_iff.mp (hc leaf.right (right_mem_operands hleaf))

theorem Condition.denotes_mask (h : IsRounding fl) {r : String} {R : Rat} (hr : IsResult fl r R)
    (value : String → Rat) (c : Condition) (hc : c.Valued (rounded fl) value) :
    Denotes (rounded fl) IsPrimary (c.mask r)
      (.ok (some (if c.Holds (Comparison.Detected fl value R) then R else 0))) := by
  have hR : fl R = R := hr.denotes.kept h
  -- Both masks that a connective joins are worth the result or zero again.
  induction c with
  | compare c => exact hc.denotes_leaf h hr (List.mem_singleton_self c)
  | logic left op right ihl ihr =>
    rw [Valued, operands_logic] at hc
    have hleft := ihl fun text hmem => hc text (List.mem_append_left _ hmem)
    have hright := ihr fun text hmem => hc text (List.mem_append_right _ hmem)
    -- Every mask is a call, so it can follow a plus sign in any arithmetic.
    have hadd := hright.product.addend_of_product
    cases op with
    | or =>
      refine (Mask.denotes_heldSum hleft.sum hadd hr.denotes).congr rfl ?_
      exact congrArg Except.ok (rounded_heldSum h hR hr.double _ _)
    | and =>
      refine (Mask.denotes_both hleft.sum hadd hr.denotes).congr rfl ?_
      exact congrArg Except.ok (rounded_both h hR hr.double _ _)

end BranchlessCalc
