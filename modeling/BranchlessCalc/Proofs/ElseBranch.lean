/-
  BranchlessCalc.Proofs.ElseBranch

  The two results of a condition in rounded arithmetic.

  A condition compiled with both results is the sum of its own mask for the
  first and of its reverse's mask for the second. For one result such masks
  complement each other, but here the results differ, and so do the smallest
  differences that are told from zero beside them. A difference between the two
  is seen by one mask and missed by the other, and then both results are there
  or neither is. `Condition.compileElse_rounded` gives the value in each case,
  and says exactly when it is one of the two results.
-/
import BranchlessCalc.Proofs.Complement
import BranchlessCalc.Proofs.ExactCompile

namespace BranchlessCalc

open Calc
open Calc.Arithmetic (rounded)

variable {fl : Rat → Rat}

/-! ## Sums of two masks -/

/-- The value of a branch, by whether the condition is taken to hold beside the
    first result and beside the second. -/
def Calc.branchValue (fl : Rat → Rat) (R E : Rat) : Bool → Bool → Rat
  | true, true => R
  | true, false => fl (R + E)
  | false, true => 0
  | false, false => E

/-- A mask weighted with zero counts as set. -/
theorem Calc.ite_mask_eq (R : Rat) (p : Prop) [Decidable p] :
    (if p then R else 0) = if R = 0 ∨ p then R else 0 := by
  by_cases hzero : R = 0
  · rw [hzero, ite_self, ite_self]
  · simp only [hzero, false_or]

theorem Calc.branchValue_masks (h : IsRounding fl) {R E : Rat} (hR : fl R = R) (hE : fl E = E)
    (p q : Prop) [Decidable p] [Decidable q] :
    fl ((if p then R else 0) + (if ¬ q then E else 0)) =
      branchValue fl R E (decide (R = 0 ∨ p)) (decide (E = 0 ∨ q)) := by
  have hsecond : (if ¬ q then E else 0) = if E = 0 ∨ q then 0 else E := by
    by_cases hzero : E = 0
    · rw [hzero, ite_self, ite_self]
    · simp only [hzero, false_or, ite_not]
  rw [ite_mask_eq, hsecond]
  by_cases hp : R = 0 ∨ p
  · by_cases hq : E = 0 ∨ q
    · rw [if_pos hp, if_pos hq, decide_eq_true hp, decide_eq_true hq, add_zero, hR]
      rfl
    · rw [if_pos hp, if_neg hq, decide_eq_true hp, decide_eq_false hq]
      rfl
  · by_cases hq : E = 0 ∨ q
    · rw [if_neg hp, if_pos hq, decide_eq_false hp, decide_eq_true hq, add_zero, h.zero]
      rfl
    · rw [if_neg hp, if_neg hq, decide_eq_false hp, decide_eq_false hq, zero_add, hE]
      rfl

/-- The branch is worth one of its results if both masks are set alike, and else
    only where a zero or the rounding of the sum makes it so. -/
theorem Calc.branchValue_eq_iff {R E : Rat} (hR : fl R = R) (hE : fl E = E) (first second : Bool) :
    (branchValue fl R E first second = R ∨ branchValue fl R E first second = E) ↔
      first = second ∨ R = 0 ∨ E = 0 ∨ (first = true ∧ (fl (R + E) = R ∨ fl (R + E) = E)) := by
  cases first with
  | true =>
    cases second with
    | true => exact iff_of_true (.inl rfl) (.inl rfl)
    | false =>
      show (fl (R + E) = R ∨ fl (R + E) = E) ↔ _
      constructor
      · intro hsum
        exact .inr (.inr (.inr ⟨rfl, hsum⟩))
      · rintro (hne | rfl | rfl | ⟨-, hsum⟩)
        · cases hne
        · exact .inr (by rw [zero_add, hE])
        · exact .inl (by rw [add_zero, hR])
        · exact hsum
  | false =>
    cases second with
    | true =>
      show (0 = R ∨ 0 = E) ↔ _
      constructor
      · rintro (hzero | hzero)
        · exact .inr (.inl hzero.symm)
        · exact .inr (.inr (.inl hzero.symm))
      · rintro (hne | hzero | hzero | ⟨hne, -⟩)
        · cases hne
        · exact .inl hzero.symm
        · exact .inr hzero.symm
        · cases hne
    | false => exact iff_of_true (.inr rfl) (.inl rfl)

/-! ## Compiled conditions -/

/-- Both masks of a branch, each with its own result. -/
theorem Condition.denotes_maskElse (h : IsRounding fl) {result otherwise : String} {R E : Rat}
    (hr : IsResult fl result R) (he : IsResult fl otherwise E) (value : String → Rat)
    (c : Condition) (hc : c.Valued (rounded fl) value) :
    Denotes (rounded fl) IsPrimary (c.maskElse result otherwise)
      (.ok (some (fl ((if c.Holds (Comparison.Detected fl value R) then R else 0) +
        (if ¬ c.Holds (Comparison.Detected fl value E) then E else 0))))) := by
  rw [maskElse_eq]
  exact Mask.denotes_branch (c.denotes_mask h hr value hc).sum
    (c.denotes_mask_reverse h he value hc).product

/-- The value of a condition compiled with both results, in every rounded
    arithmetic. It rests on whether the condition is taken to hold beside each of
    the two results, and is one of them exactly if these decisions agree, or if a
    result of zero or the rounding of the sum hides that they do not. -/
theorem Condition.compileElse_rounded (h : IsRounding fl) (c : Condition)
    (result otherwise : String) (R E : Rat) (hproduct : IsProductText result)
    (hproduct' : IsProductText otherwise)
    (hresult : evaluateIn (rounded fl) result = .ok (some R))
    (hotherwise : evaluateIn (rounded fl) otherwise = .ok (some E))
    (hdouble : fl (2 * R) = 2 * R) (hdouble' : fl (2 * E) = 2 * E)
    (hoperands : ∀ text ∈ c.operands, HasValue (rounded fl) text) :
    ∃ first second : Bool,
      (first = true ↔ evaluateIn (rounded fl) (c.compile result).value = .ok (some R)) ∧
      (second = true ↔ evaluateIn (rounded fl) (c.compile otherwise).value = .ok (some E)) ∧
      evaluateIn (rounded fl) (c.compileElse result otherwise).value =
        .ok (some (branchValue fl R E first second)) ∧
      ((evaluateIn (rounded fl) (c.compileElse result otherwise).value = .ok (some R) ∨
          evaluateIn (rounded fl) (c.compileElse result otherwise).value = .ok (some E)) ↔
        first = second ∨ R = 0 ∨ E = 0 ∨
          (first = true ∧ (fl (R + E) = R ∨ fl (R + E) = E))) := by
  have hr : IsResult fl result R := .of_product hproduct hresult hdouble
  have he : IsResult fl otherwise E := .of_product hproduct' hotherwise hdouble'
  have hR : fl R = R := hr.denotes.kept h
  have hE : fl E = E := he.denotes.kept h
  obtain ⟨value, hvalued⟩ := exists_valued hoperands
  have ⟨hfirst, _⟩ := evaluateIn_mask_iff
    (evaluateIn_eq_ok_iff.mpr (c.denotes_mask h hr value hvalued).sum)
  have ⟨hsecond, _⟩ := evaluateIn_mask_iff
    (evaluateIn_eq_ok_iff.mpr (c.denotes_mask h he value hvalued).sum)
  have hwhole := evaluateIn_eq_ok_iff.mpr (c.denotes_maskElse h hr he value hvalued).sum
  rw [branchValue_masks h hR hE] at hwhole
  refine ⟨_, _, decide_eq_true_iff.trans hfirst.symm, decide_eq_true_iff.trans hsecond.symm,
    hwhole, ?_⟩
  show (evaluateIn _ (c.maskElse result otherwise) = _ ∨
    evaluateIn _ (c.maskElse result otherwise) = _) ↔ _
  simp only [hwhole, Except.ok.injEq, Option.some.injEq]
  exact branchValue_eq_iff hR hE _ _

/-! ## A difference that only one of two results resolves

In units of `1 / 2 ^ 53` the smallest difference is told from zero beside one
pixel, and not beside sixteen. -/

section Hair

/-- The smallest difference against zero. -/
def Condition.hair (op : CompareOp) : Condition :=
  .compare ⟨"0.0000000000000001px", op, "0px"⟩

open Condition (hair)

theorem isRounding_grid_two_pow : IsRounding (grid (2 ^ 53)) :=
  isRounding_grid (show 2 ^ 53 = 2 * 2 ^ 52 from rfl) (by positivity)

/-- The values of `0.0000000000000001px` and `0px`. -/
def hairOperandValue (text : String) : Rat :=
  if text = "0px" then 0 else 1 / 2 ^ 53

theorem evaluateIn_hairOperand : ∀ text ∈ ["0.0000000000000001px", "0px"],
    evaluateIn (rounded (grid (2 ^ 53))) text = .ok (some (hairOperandValue text)) := by
  rw [List.forall_mem_cons, List.forall_mem_singleton]
  exact ⟨by with_unfolding_all rfl, by with_unfolding_all rfl⟩

theorem hasValue_hairOperand (op : CompareOp) :
    ∀ text ∈ (hair op).operands, HasValue (rounded (grid (2 ^ 53))) text :=
  fun text hmem => ⟨_, evaluateIn_hairOperand text hmem⟩

theorem isProductText_onePixel : IsProductText "1px" :=
  isProductText_number ⟨⟨1, 0⟩, .px⟩ (scan_token rfl rfl rfl)

theorem isProductText_oneRem : IsProductText "1rem" :=
  isProductText_number ⟨⟨1, 0⟩, .rem⟩ (scan_token rfl rfl rfl)

theorem evaluateIn_onePixel : evaluateIn (rounded (grid (2 ^ 53))) "1px" = .ok (some 1) := by
  with_unfolding_all rfl

theorem evaluateIn_oneRem : evaluateIn (rounded (grid (2 ^ 53))) "1rem" = .ok (some 16) := by
  with_unfolding_all rfl

theorem grid_one_add_sixteen : grid (2 ^ 53) (1 + 16) = 17 := by with_unfolding_all rfl

theorem grid_two_mul_one : grid (2 ^ 53) (2 * 1) = 2 * 1 := by with_unfolding_all rfl

theorem grid_two_mul_sixteen : grid (2 ^ 53) (2 * 16) = 2 * 16 := by with_unfolding_all rfl

theorem isResult_onePixel : IsResult (grid (2 ^ 53)) "1px" 1 :=
  .of_product isProductText_onePixel evaluateIn_onePixel grid_two_mul_one

theorem isResult_oneRem : IsResult (grid (2 ^ 53)) "1rem" 16 :=
  .of_product isProductText_oneRem evaluateIn_oneRem grid_two_mul_sixteen

theorem evaluateIn_compile_hair {result : String} {R x : Rat} (op : CompareOp)
    (hr : IsResult (grid (2 ^ 53)) result R)
    (hx : (if (hair op).Holds (Comparison.Detected (grid (2 ^ 53)) hairOperandValue R) then R
      else 0) = x) :
    evaluateIn (rounded (grid (2 ^ 53))) ((hair op).compile result).value = .ok (some x) := by
  have hmask := (hair op).denotes_mask isRounding_grid_two_pow hr hairOperandValue
    evaluateIn_hairOperand
  rw [hx] at hmask
  exact evaluateIn_eq_ok_iff.mpr hmask.sum

theorem evaluateIn_compileElse_hair {x y z : Rat} (op : CompareOp)
    (hx : (if (hair op).Holds (Comparison.Detected (grid (2 ^ 53)) hairOperandValue 1) then 1
      else 0) = x)
    (hy : (if ¬ (hair op).Holds (Comparison.Detected (grid (2 ^ 53)) hairOperandValue 16) then 16
      else 0) = y) (hz : grid (2 ^ 53) (x + y) = z) :
    evaluateIn (rounded (grid (2 ^ 53))) ((hair op).compileElse "1px" "1rem").value =
      .ok (some z) := by
  have hbranch := (hair op).denotes_maskElse isRounding_grid_two_pow isResult_onePixel
    isResult_oneRem hairOperandValue evaluateIn_hairOperand
  rw [hx, hy, hz] at hbranch
  exact evaluateIn_eq_ok_iff.mpr hbranch.sum

/-- A comparison that is taken to hold beside one pixel and not beside sixteen is
    worth neither result, as the exact condition says. -/
theorem Condition.compileElse_rounded_hair :
    IsRounding (grid (2 ^ 53)) ∧
    (IsProductText "1px" ∧ evaluateIn (rounded (grid (2 ^ 53))) "1px" = .ok (some 1) ∧
      grid (2 ^ 53) (2 * 1) = 2 * 1) ∧
    (IsProductText "1rem" ∧ evaluateIn (rounded (grid (2 ^ 53))) "1rem" = .ok (some 16) ∧
      grid (2 ^ 53) (2 * 16) = 2 * 16) ∧
    (∀ text ∈ (hair .more).operands, HasValue (rounded (grid (2 ^ 53))) text) ∧
    ¬ (evaluateIn (rounded (grid (2 ^ 53))) ((hair .more).compileElse "1px" "1rem").value =
        .ok (some 1) ∨
      evaluateIn (rounded (grid (2 ^ 53))) ((hair .more).compileElse "1px" "1rem").value =
        .ok (some 16)) := by
  have hdetected : evaluateIn (rounded (grid (2 ^ 53))) ((hair .more).compile "1px").value =
      .ok (some 1) :=
    evaluateIn_compile_hair .more isResult_onePixel (by with_unfolding_all rfl)
  have hmissed : evaluateIn (rounded (grid (2 ^ 53))) ((hair .more).compile "1rem").value =
      .ok (some 0) :=
    evaluateIn_compile_hair .more isResult_oneRem (by with_unfolding_all rfl)
  obtain ⟨first, second, hfirst, hsecond, -, hiff⟩ := Condition.compileElse_rounded
    isRounding_grid_two_pow (hair .more) "1px" "1rem" 1 16 isProductText_onePixel
    isProductText_oneRem evaluateIn_onePixel evaluateIn_oneRem grid_two_mul_one
    grid_two_mul_sixteen (hasValue_hairOperand .more)
  refine ⟨isRounding_grid_two_pow,
    ⟨isProductText_onePixel, evaluateIn_onePixel, grid_two_mul_one⟩,
    ⟨isProductText_oneRem, evaluateIn_oneRem, grid_two_mul_sixteen⟩,
    hasValue_hairOperand .more, ?_⟩
  have htrue : first = true := hfirst.mpr hdetected
  have hfalse : second ≠ true := by
    rw [ne_eq, hsecond, hmissed, Except.ok.injEq, Option.some.injEq]
    norm_num
  rw [hiff, htrue, grid_one_add_sixteen]
  simp [Ne.symm hfalse]

/-- Two conditions compiled with `1px` and `1rem`: the first is worth both results
    at once, the second neither of them. -/
theorem Condition.compileElse_both_or_neither :
    IsRounding (grid (2 ^ 53)) ∧
    (IsProductText "1px" ∧ evaluateIn (rounded (grid (2 ^ 53))) "1px" = .ok (some 1) ∧
      grid (2 ^ 53) (2 * 1) = 2 * 1) ∧
    (IsProductText "1rem" ∧ evaluateIn (rounded (grid (2 ^ 53))) "1rem" = .ok (some 16) ∧
      grid (2 ^ 53) (2 * 16) = 2 * 16) ∧
    (∀ op, ∀ text ∈ (hair op).operands, HasValue (rounded (grid (2 ^ 53))) text) ∧
    evaluateIn (rounded (grid (2 ^ 53))) ((hair .more).compileElse "1px" "1rem").value =
      .ok (some 17) ∧
    evaluateIn (rounded (grid (2 ^ 53))) ((hair .lessEquals).compileElse "1px" "1rem").value =
      .ok (some 0) := by
  refine ⟨isRounding_grid_two_pow,
    ⟨isProductText_onePixel, evaluateIn_onePixel, grid_two_mul_one⟩,
    ⟨isProductText_oneRem, evaluateIn_oneRem, grid_two_mul_sixteen⟩, hasValue_hairOperand, ?_, ?_⟩
  · have hfirst : (hair .more).Holds (Comparison.Detected (grid (2 ^ 53)) hairOperandValue 1) :=
      of_decide_eq_true (by with_unfolding_all rfl)
    have hsecond :
        ¬ (hair .more).Holds (Comparison.Detected (grid (2 ^ 53)) hairOperandValue 16) :=
      of_decide_eq_true (by with_unfolding_all rfl)
    exact evaluateIn_compileElse_hair .more (if_pos hfirst) (if_pos hsecond) grid_one_add_sixteen
  · have hfirst :
        ¬ (hair .lessEquals).Holds (Comparison.Detected (grid (2 ^ 53)) hairOperandValue 1) :=
      of_decide_eq_true (by with_unfolding_all rfl)
    have hsecond :
        (hair .lessEquals).Holds (Comparison.Detected (grid (2 ^ 53)) hairOperandValue 16) :=
      of_decide_eq_true (by with_unfolding_all rfl)
    exact evaluateIn_compileElse_hair .lessEquals (if_neg hfirst) (if_neg (not_not.mpr hsecond))
      (by with_unfolding_all rfl)

end Hair

end BranchlessCalc
