/-
  BranchlessCalc.Proofs.RangeCondition

  The masks of ranges against compiled conditions on their two ends.

  The outside of a range is spelled as the disjunction of two comparisons is,
  character by character. Its inside is not: one is a held difference of two
  masks, the other a truncated sum. They take the higher end from opposite sides,
  with opposite flags, and so decide it alike in every rounded arithmetic, also
  where it is decided wrongly.
-/
import BranchlessCalc.Proofs.Complement

namespace BranchlessCalc

open Calc
open Calc.Arithmetic (rounded)

/-- The value is above the lower threshold and below the higher one. -/
def Condition.insideRange (value threshold₁ threshold₂ : String) (s : Mask.RangeStrictness) :
    Condition :=
  .logic
    (.compare ⟨value, if s.low then .more else .moreEquals,
      "min(" ++ threshold₁ ++ ", " ++ threshold₂ ++ ")"⟩) .and
    (.compare ⟨value, if s.high then .less else .lessEquals,
      "max(" ++ threshold₁ ++ ", " ++ threshold₂ ++ ")"⟩)

/-- The value is below the lower threshold or above the higher one. -/
def Condition.outsideRange (value threshold₁ threshold₂ : String) (s : Mask.RangeStrictness) :
    Condition :=
  .logic
    (.compare ⟨value, if s.low then .less else .lessEquals,
      "min(" ++ threshold₁ ++ ", " ++ threshold₂ ++ ")"⟩) .or
    (.compare ⟨value, if s.high then .more else .moreEquals,
      "max(" ++ threshold₁ ++ ", " ++ threshold₂ ++ ")"⟩)

namespace Mask

variable {fl : Rat → Rat} {v t₁ t₂ r : String}

theorem outside_eq_mask (v t₁ t₂ r : String) (s : RangeStrictness) :
    outside v t₁ t₂ r s = (Condition.outsideRange v t₁ t₂ s).mask r := by
  obtain ⟨low, high⟩ := s
  cases low <;> cases high <;> rfl

theorem both_eq_mask (v t₁ t₂ r : String) (s : RangeStrictness) :
    both (above v (lower t₁ t₂) r s.low) (below v (higher t₁ t₂) r s.high) r =
      (Condition.insideRange v t₁ t₂ s).mask r := by
  obtain ⟨low, high⟩ := s
  cases low <;> cases high <;> rfl

section Rounded

variable {V T₁ T₂ R : Rat} (h : IsRounding fl) (hr : IsResult fl r R)
  (hv : Denotes (rounded fl) IsSum v (.ok (some V)))
  (h₁ : Denotes (rounded fl) IsSum t₁ (.ok (some T₁)))
  (h₂ : Denotes (rounded fl) IsSum t₂ (.ok (some T₂)))
include h hr hv h₁ h₂

/-- The condition takes the higher end from the value, and not the value from it. -/
theorem rounded_insideRange (s : RangeStrictness) :
    Denotes (rounded fl) IsPrimary ((Condition.insideRange v t₁ t₂ s).mask r)
      (.ok (some (if Passes fl s.low (fl (V - min T₁ T₂)) R ∧
        Passes fl s.high (fl (max T₁ T₂ - V)) R then R else 0))) := by
  have hlow := rounded_above h hr hv (rounded_lower h₁ h₂).sum s.low
  have hhigh := rounded_below h hr hv (rounded_higher h₁ h₂).sum s.high
  rw [← both_eq_mask]
  refine (denotes_both hlow.sum hhigh.product.addend_of_product hr.denotes).congr rfl ?_
  exact congrArg Except.ok (rounded_both h (hr.denotes.kept h) hr.double _ _)

/-- Not above the higher end with the flag turned around is below it. -/
theorem exists_inside_eq (s : RangeStrictness) :
    ∃ x, Denotes (rounded fl) IsPrimary (inside v t₁ t₂ r s) (.ok (some x)) ∧
      Denotes (rounded fl) IsPrimary ((Condition.insideRange v t₁ t₂ s).mask r) (.ok (some x)) := by
  have hhigh : ¬ Passes fl (!s.high) (fl (V - max T₁ T₂)) R ↔
      Passes fl s.high (fl (max T₁ T₂ - V)) R := by
    rw [h.sub_swap V, passes_not_neg_iff, not_not]
  have hinside := rounded_inside h hr hv h₁ h₂ s
  rw [if_congr (and_congr_right fun _ => hhigh) rfl rfl] at hinside
  exact ⟨_, hinside, rounded_insideRange h hr hv h₁ h₂ s⟩

end Rounded

/-- The outside of a range is spelled as the condition on its two ends is. Its inside
    has the same value as the condition has, in every rounded arithmetic. -/
theorem range_compile (v t₁ t₂ r : String) (s : RangeStrictness) :
    outside v t₁ t₂ r s = ((Condition.outsideRange v t₁ t₂ s).compile r).value ∧
    ∀ (fl : Rat → Rat) (R : Rat), IsRounding fl → IsProductText r →
      evaluateIn (rounded fl) r = .ok (some R) → fl (2 * R) = 2 * R →
      HasValue (rounded fl) v → HasValue (rounded fl) t₁ → HasValue (rounded fl) t₂ →
      ∃ x, evaluateIn (rounded fl) (inside v t₁ t₂ r s) = .ok (some x) ∧
        evaluateIn (rounded fl) ((Condition.insideRange v t₁ t₂ s).compile r).value =
          .ok (some x) := by
  refine ⟨outside_eq_mask v t₁ t₂ r s, ?_⟩
  intro fl R h htext hresult hdouble hv h₁ h₂
  have hr : IsResult fl r R := .of_product htext hresult hdouble
  obtain ⟨V, hV⟩ := hv
  obtain ⟨T₁, hT₁⟩ := h₁
  obtain ⟨T₂, hT₂⟩ := h₂
  rw [evaluateIn_eq_ok_iff] at hV hT₁ hT₂
  obtain ⟨x, hinside, hcondition⟩ := exists_inside_eq h hr hV hT₁ hT₂ s
  exact ⟨x, evaluateIn_eq_ok_iff.mpr hinside.sum, evaluateIn_eq_ok_iff.mpr hcondition.sum⟩

/-- In quarters, a quarter above the only point of a range cannot be told from it
    beside sixteen. -/
theorem range_compile_unresolved :
    IsRounding (grid 4) ∧ IsProductText "16px" ∧
    evaluateIn (rounded (grid 4)) "16px" = .ok (some 16) ∧ grid 4 (2 * 16) = 2 * 16 ∧
    ¬ Resolves (grid 4) (1 / 4) 16 ∧ HasValue (rounded (grid 4)) "0.25px" ∧
    HasValue (rounded (grid 4)) "0px" ∧
    ∃ x, evaluateIn (rounded (grid 4)) (inside "0.25px" "0px" "0px" "16px" .inclusive) =
        .ok (some x) ∧
      evaluateIn (rounded (grid 4))
        ((Condition.insideRange "0.25px" "0px" "0px" .inclusive).compile "16px").value =
        .ok (some x) := by
  have hgrid : IsRounding (grid 4) := isRounding_grid (show 4 = 2 * 2 from rfl) two_pos
  have htext : IsProductText "16px" :=
    isProductText_number ⟨⟨16, 0⟩, .px⟩ (scan_token rfl rfl rfl)
  have hresult : evaluateIn (rounded (grid 4)) "16px" = .ok (some 16) := by with_unfolding_all rfl
  have hdouble : grid 4 (2 * 16) = 2 * 16 := by with_unfolding_all rfl
  have hquarter : HasValue (rounded (grid 4)) "0.25px" := ⟨1 / 4, by with_unfolding_all rfl⟩
  have hzero : HasValue (rounded (grid 4)) "0px" := ⟨0, by with_unfolding_all rfl⟩
  obtain ⟨-, hinside⟩ := range_compile "0.25px" "0px" "0px" "16px" .inclusive
  exact ⟨hgrid, htext, hresult, hdouble, of_decide_eq_true (by with_unfolding_all rfl), hquarter,
    hzero, hinside (grid 4) 16 hgrid htext hresult hdouble hquarter hzero hzero⟩

end Mask

end BranchlessCalc
