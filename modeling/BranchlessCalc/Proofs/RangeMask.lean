/-
  BranchlessCalc.Proofs.RangeMask

  Masks of ranges, from their text to its value.

  Both masks are pairs of threshold masks. The outside one is their sum, which
  is twice the result where the ends of an inclusive range meet; the inside one
  is a difference, which is minus the result where those of a strict range do.
  What holds them within bounds makes each the connective of its two parts
  (`Mask.rounded_inside`, `Mask.rounded_outside`), so nothing is left to say
  about the order of the thresholds or the sign of the result.
-/
import BranchlessCalc.Proofs.ConditionMask

namespace BranchlessCalc.Mask

open Calc
open Calc.Arithmetic (rounded exact)

/-! ## Ranges of numbers -/

namespace RangeStrictness

/-- The value lies above the lower end and below the higher one. -/
def Inside (s : RangeStrictness) (low high value : Rat) : Prop :=
  (if s.low then low < value else low ≤ value) ∧ (if s.high then value < high else value ≤ high)

/-- The value lies below the lower end or above the higher one. -/
def Outside (s : RangeStrictness) (low high value : Rat) : Prop :=
  (if s.low then value < low else value ≤ low) ∨ (if s.high then high < value else high ≤ value)

instance (s : RangeStrictness) (low high value : Rat) : Decidable (s.Inside low high value) :=
  inferInstanceAs (Decidable ((if s.low then _ else _) ∧ (if s.high then _ else _)))

instance (s : RangeStrictness) (low high value : Rat) : Decidable (s.Outside low high value) :=
  inferInstanceAs (Decidable ((if s.low then _ else _) ∨ (if s.high then _ else _)))

theorem outside_complement_iff (s : RangeStrictness) (low high value : Rat) :
    s.complement.Outside low high value ↔ ¬ s.Inside low high value := by
  obtain ⟨sl, sh⟩ := s
  rw [Inside, not_and_or]
  cases sl <;> cases sh <;> simp [Outside, complement]

end RangeStrictness

/-! ## Masks in rounded arithmetic -/

section Rounded

variable {fl : Rat → Rat} {v t₁ t₂ r : String} {V T₁ T₂ R : Rat}
  (h : IsRounding fl) (hr : IsResult fl r R)
  (hv : Denotes (rounded fl) IsSum v (.ok (some V)))
  (h₁ : Denotes (rounded fl) IsSum t₁ (.ok (some T₁)))
  (h₂ : Denotes (rounded fl) IsSum t₂ (.ok (some T₂)))

section Ends

include h₁ h₂

theorem rounded_lower :
    Denotes (rounded fl) IsPrimary (lower t₁ t₂) (.ok (some (min T₁ T₂))) := by
  rw [← rounded_min fl]
  exact h₁.extremum .min h₂

theorem rounded_higher :
    Denotes (rounded fl) IsPrimary (higher t₁ t₂) (.ok (some (max T₁ T₂))) := by
  rw [← rounded_max fl]
  exact h₁.extremum .max h₂

end Ends

include h hr hv h₁ h₂

theorem rounded_inside (s : RangeStrictness) :
    Denotes (rounded fl) IsPrimary (inside v t₁ t₂ r s)
      (.ok (some (if Passes fl s.low (fl (V - min T₁ T₂)) R ∧
        ¬ Passes fl (!s.high) (fl (V - max T₁ T₂)) R then R else 0))) := by
  -- Below the higher end is not above it, so the flag is turned around there.
  have hlow := rounded_above h hr hv (rounded_lower h₁ h₂).sum s.low
  have hhigh := rounded_above h hr hv (rounded_higher h₁ h₂).sum (!s.high)
  refine (denotes_heldDifference hlow.sum hhigh.product hr.denotes).congr rfl ?_
  exact congrArg Except.ok (rounded_heldDifference h (hr.denotes.kept h) _ _)

theorem rounded_outside (s : RangeStrictness) :
    Denotes (rounded fl) IsPrimary (outside v t₁ t₂ r s)
      (.ok (some (if Passes fl s.low (fl (min T₁ T₂ - V)) R ∨
        Passes fl s.high (fl (V - max T₁ T₂)) R then R else 0))) := by
  have hlow := rounded_below h hr hv (rounded_lower h₁ h₂).sum s.low
  have hhigh := rounded_above h hr hv (rounded_higher h₁ h₂).sum s.high
  refine (denotes_heldSum hlow.sum hhigh.product.addend_of_product hr.denotes).congr rfl ?_
  exact congrArg Except.ok (rounded_heldSum h (hr.denotes.kept h) hr.double _ _)

end Rounded

/-! ## Masks in exact arithmetic -/

theorem passes_inside_iff {R : Rat} (hzero : R ≠ 0) (s : RangeStrictness) (low high V : Rat) :
    (Passes id s.low (V - low) R ∧ ¬ Passes id (!s.high) (V - high) R) ↔ s.Inside low high V := by
  obtain ⟨sl, sh⟩ := s
  rw [passes_id_iff hzero, passes_id_iff hzero]
  cases sl <;> cases sh <;> simp [RangeStrictness.Inside]

theorem passes_outside_iff {R : Rat} (hzero : R ≠ 0) (s : RangeStrictness) (low high V : Rat) :
    (Passes id s.low (low - V) R ∨ Passes id s.high (V - high) R) ↔ s.Outside low high V := by
  obtain ⟨sl, sh⟩ := s
  rw [passes_id_iff hzero, passes_id_iff hzero]
  cases sl <;> cases sh <;> simp [RangeStrictness.Outside]

section Exact

variable {v t₁ t₂ r : String} {V T₁ T₂ R : Rat} (hv : evaluateIn exact v = .ok (some V))
  (h₁ : evaluateIn exact t₁ = .ok (some T₁)) (h₂ : evaluateIn exact t₂ = .ok (some T₂))
  (hr : evaluateIn exact r = .ok (some R))
include hv h₁ h₂ hr

theorem denotes_inside_exact (s : RangeStrictness) :
    Denotes exact IsPrimary (inside v t₁ t₂ r s)
      (.ok (some (if s.Inside (min T₁ T₂) (max T₁ T₂) V then R else 0))) := by
  have hmask := rounded_inside isRounding_id (.of_exact hr) (evaluateIn_eq_ok_iff.mp hv)
    (evaluateIn_eq_ok_iff.mp h₁) (evaluateIn_eq_ok_iff.mp h₂) s
  exact hmask.exact_congr fun hzero => passes_inside_iff hzero s _ _ _

theorem denotes_outside_exact (s : RangeStrictness) :
    Denotes exact IsPrimary (outside v t₁ t₂ r s)
      (.ok (some (if s.Outside (min T₁ T₂) (max T₁ T₂) V then R else 0))) := by
  have hmask := rounded_outside isRounding_id (.of_exact hr) (evaluateIn_eq_ok_iff.mp hv)
    (evaluateIn_eq_ok_iff.mp h₁) (evaluateIn_eq_ok_iff.mp h₂) s
  exact hmask.exact_congr fun hzero => passes_outside_iff hzero s _ _ _

end Exact

/-- The masks of a range are right for thresholds in either order, also where
    they coincide, and for results of any sign. -/
theorem range_exact (v t₁ t₂ r r₂ : String) (V T₁ T₂ R R₂ : Rat) (s : RangeStrictness)
    (hv : evaluateIn exact v = .ok (some V)) (h₁ : evaluateIn exact t₁ = .ok (some T₁))
    (h₂ : evaluateIn exact t₂ = .ok (some T₂)) (hr : evaluateIn exact r = .ok (some R))
    (hr₂ : evaluateIn exact r₂ = .ok (some R₂)) :
    evaluateIn exact (inside v t₁ t₂ r s) =
        .ok (some (if s.Inside (min T₁ T₂) (max T₁ T₂) V then R else 0)) ∧
      evaluateIn exact (outside v t₁ t₂ r s) =
        .ok (some (if s.Outside (min T₁ T₂) (max T₁ T₂) V then R else 0)) ∧
      evaluateIn exact (insideElse v t₁ t₂ r r₂ s) =
        .ok (some (if s.Inside (min T₁ T₂) (max T₁ T₂) V then R else R₂)) := by
  have hinside := denotes_inside_exact hv h₁ h₂ hr s
  have houtside := denotes_outside_exact hv h₁ h₂ hr₂ s.complement
  refine ⟨evaluateIn_eq_ok_iff.mpr hinside.sum,
    evaluateIn_eq_ok_iff.mpr (denotes_outside_exact hv h₁ h₂ hr s).sum, ?_⟩
  -- The outside mask has the complementary flags, so it is set where the inside one is not.
  exact evaluateIn_eq_ok_iff.mpr
    (denotes_branch_exact hinside houtside (s.outside_complement_iff _ _ _)).sum

/-- A value on the only point of a strict range, with a negative result. The
    thresholds differ as texts, and both threshold masks change there. -/
theorem range_exact_point :
    evaluateIn exact "16px" = .ok (some 16) ∧ evaluateIn exact "1rem" = .ok (some 16) ∧
    evaluateIn exact "-3px" = .ok (some (-3)) ∧ evaluateIn exact "2px" = .ok (some 2) ∧
    evaluateIn exact (inside "16px" "1rem" "16px" "-3px" .strict) = .ok (some 0) ∧
    evaluateIn exact (outside "16px" "1rem" "16px" "-3px" .inclusive) = .ok (some (-3)) ∧
    evaluateIn exact (insideElse "16px" "1rem" "16px" "-3px" "2px" .strict) = .ok (some 2) := by
  have hpixels : evaluateIn exact "16px" = .ok (some 16) :=
    evaluateIn_of_toOption (by decide +kernel)
  have hrem : evaluateIn exact "1rem" = .ok (some 16) := evaluateIn_of_toOption (by decide +kernel)
  have hresult : evaluateIn exact "-3px" = .ok (some (-3)) :=
    evaluateIn_of_toOption (by decide +kernel)
  have hother : evaluateIn exact "2px" = .ok (some 2) := evaluateIn_of_toOption (by decide +kernel)
  obtain ⟨hinside, -, helse⟩ :=
    range_exact _ _ _ _ _ _ _ _ _ _ .strict hpixels hrem hpixels hresult hother
  obtain ⟨-, houtside, -⟩ :=
    range_exact _ _ _ _ _ _ _ _ _ _ .inclusive hpixels hrem hpixels hresult hother
  rw [if_neg (by decide +kernel)] at hinside helse
  rw [if_pos (by decide +kernel)] at houtside
  exact ⟨hpixels, hrem, hresult, hother, hinside, houtside, helse⟩

end BranchlessCalc.Mask
