/-
  BranchlessCalc.Proofs.Complement

  Opposite masks complement each other in every rounded arithmetic.

  Near a boundary a mask may decide a comparison wrongly, so this cannot come
  from the order of the rationals. It comes from how opposite masks are made.
  Rounding is odd, so their differences are exact negatives of each other, and a
  boundary that is not strict is decided by the strict one on the negated
  difference (`passes_not_neg_iff`). Whatever one mask takes a comparison for,
  the opposite mask of the same result takes it for the contrary.
-/
import BranchlessCalc.Proofs.Grid
import BranchlessCalc.Proofs.RangeMask

namespace BranchlessCalc

open Calc
open Calc.Arithmetic (rounded)

variable {fl : Rat → Rat}

/-! ## Opposite decisions -/

/-- The mask of the negated difference with the other strictness decides the contrary. -/
theorem Calc.passes_not_neg_iff (strict : Bool) (D R : Rat) :
    Passes fl (!strict) (-D) R ↔ ¬ Passes fl strict D R := by
  cases strict with
  | true =>
    show ¬ Resolves fl (- -D) R ↔ ¬ Resolves fl D R
    rw [neg_neg]
  | false => exact not_not.symm

theorem Calc.IsRounding.sub_swap (h : IsRounding fl) (x y : Rat) : fl (x - y) = -fl (y - x) := by
  rw [← h.odd, neg_sub]

theorem CompareOp.isStrict_reverse (op : CompareOp) : op.reverse.isStrict = !op.isStrict := by
  cases op <;> rfl

/-- An operator takes the difference from the other side than its reverse. -/
theorem CompareOp.difference_reverse (h : IsRounding fl) (op : CompareOp) (x y : Rat) :
    op.reverse.difference fl x y = -op.difference fl x y := by
  cases op with
  | less | lessEquals => exact h.sub_swap x y
  | more | moreEquals => exact h.sub_swap y x

theorem Comparison.detected_reverse_iff (h : IsRounding fl) (value : String → Rat) (R : Rat)
    (c : Comparison) : c.reverse.Detected fl value R ↔ ¬ c.Detected fl value R := by
  show Passes fl c.op.reverse.isStrict (c.op.reverse.difference fl _ _) R ↔ _
  rw [CompareOp.isStrict_reverse, CompareOp.difference_reverse h, passes_not_neg_iff]
  rfl

/-- What the mask of the reverse takes a condition for is the contrary of what its
    own mask for the same result does. -/
theorem Condition.denotes_mask_reverse (h : IsRounding fl) {result : String} {R : Rat}
    (hr : IsResult fl result R) (value : String → Rat) (c : Condition)
    (hc : c.Valued (rounded fl) value) :
    Denotes (rounded fl) IsPrimary (c.reverse.mask result)
      (.ok (some (if ¬ c.Holds (Comparison.Detected fl value R) then R else 0))) := by
  have hreverse : c.reverse.Valued (rounded fl) value := by
    rw [Valued, operands_reverse]
    exact hc
  have hmask := c.reverse.denotes_mask h hr value hreverse
  rw [if_congr (c.holds_reverse_of_leaves (Comparison.detected_reverse_iff h value R)) rfl rfl]
    at hmask
  exact hmask

/-! ## Texts with a value -/

/-- The text has a value, which is a number. -/
def Calc.HasValue (A : Arithmetic (Option Rat)) (text : String) : Prop :=
  ∃ x, evaluateIn A text = .ok (some x)

theorem Condition.exists_valued {A : Arithmetic (Option Rat)} {c : Condition}
    (h : ∀ text ∈ c.operands, HasValue A text) : ∃ value, c.Valued A value :=
  exists_forall_mem h

/-! ## Complementary texts -/

/-- One of the two texts is worth `R`, and the other one zero. -/
def Calc.Complementary (fl : Rat → Rat) (R : Rat) (first second : String) : Prop :=
  (evaluateIn (rounded fl) first = .ok (some R) ∧
      evaluateIn (rounded fl) second = .ok (some 0)) ∨
    (evaluateIn (rounded fl) first = .ok (some 0) ∧
      evaluateIn (rounded fl) second = .ok (some R))

theorem Calc.Complementary.of_masks {first second : String} {R : Rat} {p q : Prop} [Decidable p]
    [Decidable q]
    (hfirst : Denotes (rounded fl) IsPrimary first (.ok (some (if p then R else 0))))
    (hsecond : Denotes (rounded fl) IsPrimary second (.ok (some (if q then R else 0))))
    (hopposite : q ↔ ¬ p) : Complementary fl R first second := by
  by_cases hp : p
  · rw [if_pos hp] at hfirst
    rw [if_neg (fun hq => hopposite.mp hq hp)] at hsecond
    exact .inl ⟨evaluateIn_eq_ok_iff.mpr hfirst.sum, evaluateIn_eq_ok_iff.mpr hsecond.sum⟩
  · rw [if_neg hp] at hfirst
    rw [if_pos (hopposite.mpr hp)] at hsecond
    exact .inr ⟨evaluateIn_eq_ok_iff.mpr hfirst.sum, evaluateIn_eq_ok_iff.mpr hsecond.sum⟩

theorem Condition.mask_complementary (h : IsRounding fl) {result : String} {R : Rat}
    (hr : IsResult fl result R) (c : Condition)
    (hoperands : ∀ text ∈ c.operands, HasValue (rounded fl) text) :
    Complementary fl R (c.mask result) (c.reverse.mask result) := by
  obtain ⟨value, hvalued⟩ := exists_valued hoperands
  exact .of_masks (c.denotes_mask h hr value hvalued) (c.denotes_mask_reverse h hr value hvalued)
    Iff.rfl

theorem Mask.range_complementary (h : IsRounding fl) {result v t₁ t₂ : String} {R : Rat}
    (hr : IsResult fl result R) (s : RangeStrictness) (hv : HasValue (rounded fl) v)
    (h₁ : HasValue (rounded fl) t₁) (h₂ : HasValue (rounded fl) t₂) :
    Complementary fl R (Mask.inside v t₁ t₂ result s)
      (Mask.outside v t₁ t₂ result s.complement) := by
  obtain ⟨V, hV⟩ := hv
  obtain ⟨T₁, hT₁⟩ := h₁
  obtain ⟨T₂, hT₂⟩ := h₂
  rw [evaluateIn_eq_ok_iff] at hV hT₁ hT₂
  refine .of_masks (Mask.rounded_inside h hr hV hT₁ hT₂ s)
    (Mask.rounded_outside h hr hV hT₁ hT₂ s.complement) ?_
  -- The higher end is one mask in both texts, the lower end is seen from two sides.
  rw [not_and_or, not_not, h.sub_swap (min T₁ T₂) V]
  exact or_congr (passes_not_neg_iff s.low _ R) Iff.rfl

/-- A condition and its reverse, as well as the inside and the outside of a range,
    never have the same mask, however close their operands are: one of them is
    worth the result and the other zero. -/
theorem masks_complementary (h : IsRounding fl) (result : String) (R : Rat)
    (htext : IsProductText result) (hresult : evaluateIn (rounded fl) result = .ok (some R))
    (hdouble : fl (2 * R) = 2 * R) :
    (∀ c : Condition, (∀ text ∈ c.operands, HasValue (rounded fl) text) →
      Complementary fl R (c.compile result).value (c.reverse.compile result).value) ∧
    (∀ (v t₁ t₂ : String) (s : Mask.RangeStrictness), HasValue (rounded fl) v →
      HasValue (rounded fl) t₁ → HasValue (rounded fl) t₂ →
      Complementary fl R (Mask.inside v t₁ t₂ result s)
        (Mask.outside v t₁ t₂ result s.complement)) := by
  have hr : IsResult fl result R := .of_product htext hresult hdouble
  constructor
  · intro c hoperands
    exact c.mask_complementary h hr hoperands
  · intro v t₁ t₂ s hv h₁ h₂
    exact Mask.range_complementary h hr s hv h₁ h₂

/-- In quarters, a quarter is too little to be told from zero beside sixteen. -/
theorem masks_complementary_unresolved :
    IsRounding (grid 4) ∧ IsProductText "16px" ∧
    evaluateIn (rounded (grid 4)) "16px" = .ok (some 16) ∧ grid 4 (2 * 16) = 2 * 16 ∧
    ¬ Resolves (grid 4) (1 / 4) 16 ∧ HasValue (rounded (grid 4)) "0.25px" ∧
    HasValue (rounded (grid 4)) "0px" ∧
    Complementary (grid 4) 16 ((Condition.compare ⟨"0.25px", .more, "0px"⟩).compile "16px").value
      ((Condition.compare ⟨"0.25px", .lessEquals, "0px"⟩).compile "16px").value ∧
    Complementary (grid 4) 16 (Mask.inside "0.25px" "0px" "0px" "16px" ⟨false, true⟩)
      (Mask.outside "0.25px" "0px" "0px" "16px" ⟨true, false⟩) := by
  have hgrid : IsRounding (grid 4) := isRounding_grid (show 4 = 2 * 2 from rfl) two_pos
  have htext : IsProductText "16px" :=
    isProductText_number ⟨⟨16, 0⟩, .px⟩ (scan_token rfl rfl rfl)
  have hresult : evaluateIn (rounded (grid 4)) "16px" = .ok (some 16) := by with_unfolding_all rfl
  have hdouble : grid 4 (2 * 16) = 2 * 16 := by with_unfolding_all rfl
  have hquarter : HasValue (rounded (grid 4)) "0.25px" := ⟨1 / 4, by with_unfolding_all rfl⟩
  have hzero : HasValue (rounded (grid 4)) "0px" := ⟨0, by with_unfolding_all rfl⟩
  obtain ⟨hconditions, hranges⟩ := masks_complementary hgrid "16px" 16 htext hresult hdouble
  refine ⟨hgrid, htext, hresult, hdouble, of_decide_eq_true (by with_unfolding_all rfl), hquarter,
    hzero, ?_, ?_⟩
  · apply hconditions (.compare ⟨"0.25px", .more, "0px"⟩)
    exact List.forall_mem_cons.mpr ⟨hquarter, List.forall_mem_singleton.mpr hzero⟩
  · exact hranges "0.25px" "0px" "0px" ⟨false, true⟩ hquarter hzero hzero

end BranchlessCalc
