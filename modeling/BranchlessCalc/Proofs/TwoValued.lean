/-
  BranchlessCalc.Proofs.TwoValued

  Masks stay two-valued in every rounded arithmetic.

  A mask that cannot resolve its comparison is still worth the result or zero,
  never something in between, and it errs to one side only: a strict comparison
  is not reported where it fails, and one that is not strict is not missed where
  it holds.
-/
import BranchlessCalc.Proofs.ConditionMask
import BranchlessCalc.Proofs.Grid

namespace BranchlessCalc

open Calc
open Calc.Arithmetic (rounded)

variable {fl : Rat → Rat}

/-! ## What a comparison's mask can get wrong -/

/-- The mask of a strict comparison is only set where the comparison holds. -/
theorem Comparison.holds_of_detected (h : IsRounding fl) {R : Rat} (hR : fl R = R) (hzero : R ≠ 0)
    {value : String → Rat} {c : Comparison} (hstrict : c.op.isStrict = true)
    (hdetected : c.Detected fl value R) : c.Holds value := by
  obtain ⟨left, op, right⟩ := c
  cases op with
  | less | more =>
    have hresolves : Resolves fl _ R := hdetected
    exact sub_pos.mp (h.pos_of_pos (hresolves.pos h hR hzero))
  | lessEquals | moreEquals => cases hstrict

/-- The mask of a comparison that is not strict is set wherever the comparison holds. -/
theorem Comparison.detected_of_holds (h : IsRounding fl) {R : Rat} (hR : fl R = R) (hzero : R ≠ 0)
    {value : String → Rat} {c : Comparison} (hstrict : c.op.isStrict = false)
    (hholds : c.Holds value) : c.Detected fl value R := by
  obtain ⟨left, op, right⟩ := c
  cases op with
  | less | more => cases hstrict
  | lessEquals | moreEquals =>
    -- It is unset only if the opposite difference is resolved, which is then positive.
    show ¬ Resolves fl (-fl _) R
    intro hresolves
    have hpos := hresolves.pos h hR hzero
    rw [← h.odd] at hpos
    have hdifference := h.pos_of_pos hpos
    rw [neg_sub, sub_pos] at hdifference
    exact absurd hholds (not_le.mpr hdifference)

/-! ## Compiled conditions -/

/-- A condition compiled with a result is worth exactly the result or zero, in
    every rounded arithmetic. It is worth the result exactly if it holds of what
    the masks of its comparisons decide, and those err to one side only. -/
theorem Condition.compile_two_valued (h : IsRounding fl) (c : Condition) (result : String)
    (R : Rat) (value : String → Rat) (htext : IsProductText result)
    (hresult : evaluateIn (rounded fl) result = .ok (some R)) (hdouble : fl (2 * R) = 2 * R)
    (hoperands : ∀ text ∈ c.operands, evaluateIn (rounded fl) text = .ok (some (value text))) :
    (evaluateIn (rounded fl) (c.compile result).value = .ok (some R) ∨
      evaluateIn (rounded fl) (c.compile result).value = .ok (some 0)) ∧
    (evaluateIn (rounded fl) (c.compile result).value = .ok (some R) ↔
      c.Holds fun leaf =>
        evaluateIn (rounded fl) (leaf.op.mask leaf.left leaf.right result) = .ok (some R)) ∧
    (R ≠ 0 → ∀ leaf ∈ c.leaves,
      (leaf.op.isStrict = true →
        evaluateIn (rounded fl) (leaf.op.mask leaf.left leaf.right result) = .ok (some R) →
          leaf.Holds value) ∧
      (leaf.op.isStrict = false →
        evaluateIn (rounded fl) (leaf.op.mask leaf.left leaf.right result) = .ok (some 0) →
          ¬ leaf.Holds value)) := by
  have hr : IsResult fl result R := .of_product htext hresult hdouble
  have hR : fl R = R := hr.denotes.kept h
  have hmask : evaluateIn (rounded fl) (c.compile result).value = _ :=
    evaluateIn_eq_ok_iff.mpr (c.denotes_mask h hr value hoperands).sum
  have hleaf : ∀ leaf ∈ c.leaves,
      evaluateIn (rounded fl) (leaf.op.mask leaf.left leaf.right result) =
        .ok (some (if leaf.Detected fl value R then R else 0)) := fun leaf hmem =>
    evaluateIn_eq_ok_iff.mpr (Valued.denotes_leaf h hr hoperands hmem).sum
  refine ⟨?_, ?_, ?_⟩
  · rw [hmask]
    split
    · exact .inl rfl
    · exact .inr rfl
  · by_cases hzero : R = 0
    · -- Both values are zero, for the condition and for each comparison.
      subst hzero
      simp only [ite_self] at hmask hleaf
      exact iff_of_true hmask (holds_of_forall hleaf)
    · rw [(evaluateIn_mask_iff hmask).1, or_iff_right hzero]
      refine holds_congr fun leaf hmem => ?_
      rw [(evaluateIn_mask_iff (hleaf leaf hmem)).1, or_iff_right hzero]
  · intro hzero leaf hmem
    obtain ⟨hset, hunset⟩ := evaluateIn_mask_iff (hleaf leaf hmem)
    rw [or_iff_right hzero] at hset hunset
    constructor
    · intro hstrict hvalue
      exact leaf.holds_of_detected h hR hzero hstrict (hset.mp hvalue)
    · intro hstrict hvalue hholds
      exact hunset.mp hvalue (leaf.detected_of_holds h hR hzero hstrict hholds)

/-- In quarters, with an operand that is no whole number of them: a strict
    comparison that fails and one that is not strict and holds. -/
theorem Condition.compile_two_valued_quarters :
    IsRounding (grid 4) ∧ IsProductText "2px" ∧
    evaluateIn (rounded (grid 4)) "2px" = .ok (some 2) ∧ grid 4 (2 * 2) = 2 * 2 ∧
    evaluateIn (rounded (grid 4)) "0.3px" = .ok (some (1 / 4)) ∧
    evaluateIn (rounded (grid 4)) "-1px" = .ok (some (-1)) ∧
    (evaluateIn (rounded (grid 4)) ((Condition.logic (.compare ⟨"0.3px", .less, "-1px"⟩) .or
        (.compare ⟨"-1px", .lessEquals, "0.3px"⟩)).compile "2px").value = .ok (some 2) ↔
      evaluateIn (rounded (grid 4)) (CompareOp.less.mask "0.3px" "-1px" "2px") = .ok (some 2) ∨
        evaluateIn (rounded (grid 4)) (CompareOp.lessEquals.mask "-1px" "0.3px" "2px") =
          .ok (some 2)) ∧
    evaluateIn (rounded (grid 4)) (CompareOp.less.mask "0.3px" "-1px" "2px") ≠ .ok (some 2) ∧
    evaluateIn (rounded (grid 4)) (CompareOp.lessEquals.mask "-1px" "0.3px" "2px") ≠
      .ok (some 0) := by
  have hrounding : IsRounding (grid 4) := isRounding_grid (show 4 = 2 * 2 from rfl) two_pos
  have hscan : scan "2px".toList = ⟨[.number ⟨⟨2, 0⟩, .px⟩], none⟩ := by decide +kernel
  have htext : IsProductText "2px" := ⟨_, (Spells.number hscan).signed.product⟩
  have hresult : evaluateIn (rounded (grid 4)) "2px" = .ok (some 2) :=
    evaluateIn_of_toOption (by decide +kernel)
  have hdouble : grid 4 (2 * 2) = 2 * 2 := by decide +kernel
  have hleft : evaluateIn (rounded (grid 4)) "0.3px" = .ok (some (1 / 4)) :=
    evaluateIn_of_toOption (by decide +kernel)
  have hright : evaluateIn (rounded (grid 4)) "-1px" = .ok (some (-1)) :=
    evaluateIn_of_toOption (by decide +kernel)
  let value : String → Rat := fun text => if text = "-1px" then -1 else 1 / 4
  have hoperands : ∀ text ∈ ["0.3px", "-1px", "-1px", "0.3px"],
      (evaluateIn (rounded (grid 4)) text).toOption = some (some (value text)) := by
    decide +kernel
  obtain ⟨-, hholds, hleaves⟩ := Condition.compile_two_valued hrounding
    (.logic (.compare ⟨"0.3px", .less, "-1px"⟩) .or (.compare ⟨"-1px", .lessEquals, "0.3px"⟩))
    "2px" 2 value htext hresult hdouble fun text hmem =>
      evaluateIn_of_toOption (hoperands text hmem)
  refine ⟨hrounding, htext, hresult, hdouble, hleft, hright, hholds, ?_, ?_⟩
  · intro hmask
    have hless := (hleaves (by decide) ⟨"0.3px", .less, "-1px"⟩ (.head _)).1 rfl hmask
    exact absurd hless (by decide +kernel)
  · intro hmask
    have hfails := (hleaves (by decide) ⟨"-1px", .lessEquals, "0.3px"⟩ (.tail _ (.head _))).2
      rfl hmask
    exact hfails (by decide +kernel)

end BranchlessCalc
