/-
  BranchlessCalc.Proofs.ExactCompile

  Compiled conditions are right, from their text to its value, where arithmetic
  is exact.

  Without rounding a mask decides its comparison by the order of the rationals
  (`Comparison.detected_id_iff`), unless the result is zero, and then both of its
  values are the same. The else branch is the mask of the reversed condition for
  every condition alike (`Condition.maskElse_eq`), although comparisons take
  another way to it than connectives.
-/
import BranchlessCalc.Proofs.ConditionMask

namespace BranchlessCalc

open Calc
open Calc.Arithmetic (rounded exact)

/-! ## Masks -/

theorem Comparison.detected_id_iff {R : Rat} (hzero : R ≠ 0) (value : String → Rat)
    (c : Comparison) : c.Detected id value R ↔ c.Holds value := by
  obtain ⟨left, op, right⟩ := c
  rw [Detected, passes_id_iff hzero]
  cases op with
  | less | more => exact sub_pos
  | lessEquals | moreEquals => exact sub_nonneg

/-- The mask of a condition in exact arithmetic. -/
theorem Condition.denotes_mask_exact {r : String} {R : Rat} (value : String → Rat) (c : Condition)
    (hr : evaluateIn exact r = .ok (some R)) (hc : c.Valued exact value) :
    Denotes exact IsPrimary (c.mask r)
      (.ok (some (if c.Holds (Comparison.Holds value) then R else 0))) := by
  have hmask := c.denotes_mask isRounding_id (.of_exact hr) value hc
  apply hmask.exact_congr
  intro hzero
  exact holds_congr fun leaf _ => leaf.detected_id_iff hzero value

/-- The else branch of a condition is the mask of its reverse. -/
theorem Condition.maskElse_eq (c : Condition) (result otherwise : String) :
    c.maskElse result otherwise = Mask.branch (c.mask result) (c.reverse.mask otherwise) := by
  cases c with
  | compare c =>
    obtain ⟨left, op, right⟩ := c
    -- Operands swapped and strictness turned around spell the reversed comparison.
    cases op <;> rfl
  | logic left op right => rfl

/-! ## Compiled texts -/

/-- A compiled condition is worth its result where it holds, and zero elsewhere. -/
theorem Condition.compile_exact (c : Condition) (result : String) (R : Rat)
    (value : String → Rat) (hresult : evaluateIn exact result = .ok (some R))
    (hoperands : ∀ text ∈ c.operands, evaluateIn exact text = .ok (some (value text))) :
    evaluateIn exact (c.compile result).value =
      .ok (some (if c.Holds (Comparison.Holds value) then R else 0)) :=
  evaluateIn_eq_ok_iff.mpr (c.denotes_mask_exact value hresult hoperands).sum

/-- A negative result that is a sum, for two comparisons that hold, one of them
    at equality. -/
theorem Condition.compile_exact_negative_sum :
    evaluateIn exact "1px - 3.5px" = .ok (some (-5 / 2)) ∧
    evaluateIn exact ((Condition.logic (.compare ⟨"1rem", .moreEquals, "16px"⟩) .and
      (.compare ⟨"2px - 3px", .less, "0px"⟩)).compile "1px - 3.5px").value =
        .ok (some (-5 / 2)) := by
  have hresult : evaluateIn exact "1px - 3.5px" = .ok (some (-5 / 2)) :=
    evaluateIn_of_toOption (by decide +kernel)
  let value : String → Rat := fun text =>
    if text = "2px - 3px" then -1 else if text = "0px" then 0 else 16
  have hoperands : ∀ text ∈ ["1rem", "16px", "2px - 3px", "0px"],
      (evaluateIn exact text).toOption = some (some (value text)) := by
    decide +kernel
  refine ⟨hresult, (Condition.compile_exact _ _ _ value hresult ?_).trans ?_⟩
  · intro text hmem
    exact evaluateIn_of_toOption (hoperands text hmem)
  · rw [if_pos (by decide +kernel)]

/-- The mask with both results. The reversed condition has the same operands, and
    holds where this one does not. -/
theorem Condition.denotes_maskElse_exact {result otherwise : String} {R E : Rat}
    {value : String → Rat} {c : Condition} (hresult : evaluateIn exact result = .ok (some R))
    (hotherwise : evaluateIn exact otherwise = .ok (some E)) (hc : c.Valued exact value) :
    Denotes exact IsPrimary (c.maskElse result otherwise)
      (.ok (some (if c.Holds (Comparison.Holds value) then R else E))) := by
  have hreversed : c.reverse.Valued exact value := by
    rw [Valued, operands_reverse]
    exact hc
  rw [maskElse_eq]
  exact Mask.denotes_branch_exact (c.denotes_mask_exact value hresult hc)
    (c.reverse.denotes_mask_exact value hotherwise hreversed) (c.holds_reverse_iff value)

/-- A condition compiled with both results is worth the first where it holds, and
    the second elsewhere. -/
theorem Condition.compileElse_exact (c : Condition) (result otherwise : String) (R E : Rat)
    (value : String → Rat) (hresult : evaluateIn exact result = .ok (some R))
    (hotherwise : evaluateIn exact otherwise = .ok (some E))
    (hoperands : ∀ text ∈ c.operands, evaluateIn exact text = .ok (some (value text))) :
    evaluateIn exact (c.compileElse result otherwise).value =
      .ok (some (if c.Holds (Comparison.Holds value) then R else E)) :=
  evaluateIn_eq_ok_iff.mpr (denotes_maskElse_exact hresult hotherwise hoperands).sum

/-- Operands that tie, a result of zero and a negative one. -/
theorem Condition.compileElse_exact_tie :
    evaluateIn exact "0px" = .ok (some 0) ∧ evaluateIn exact "-2em" = .ok (some (-32)) ∧
    evaluateIn exact ((Condition.compare ⟨"1em", .more, "16px"⟩).compileElse "0px" "-2em").value =
      .ok (some (-32)) := by
  have hresult : evaluateIn exact "0px" = .ok (some 0) := evaluateIn_of_toOption (by decide +kernel)
  have hotherwise : evaluateIn exact "-2em" = .ok (some (-32)) :=
    evaluateIn_of_toOption (by decide +kernel)
  have hoperands : ∀ text ∈ ["1em", "16px"],
      (evaluateIn exact text).toOption = some (some 16) := by
    decide +kernel
  refine ⟨hresult, hotherwise,
    (Condition.compileElse_exact _ _ _ _ _ (fun _ => 16) hresult hotherwise ?_).trans ?_⟩
  · intro text hmem
    exact evaluateIn_of_toOption (hoperands text hmem)
  · rw [if_neg (by decide +kernel)]

end BranchlessCalc
