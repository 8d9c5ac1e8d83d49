/-
  BranchlessCalc.Proofs.MaskValue

  The values of the mask templates in rounded rational arithmetic.

  A mask rests on one quotient: what is left of the result's magnitude when the
  difference is taken away from it, over that magnitude. It lies between zero
  and one, and so does its rounded value. Hence it truncates to zero or to one,
  and all that is computed from there on is exact: a mask is worth its result
  or zero (`rounded_ofDifference`). Which one it is depends on whether the
  rounding tells the quotient from one (`Resolves`); this never happens to a
  difference that is not positive, and without rounding it happens to every
  positive one.
-/
import BranchlessCalc.Proofs.Rounded
import BranchlessCalc.Proofs.Template

namespace BranchlessCalc.Calc

open Arithmetic (rounded wholeRat)

variable {fl : Rat → Rat} {D R : Rat}

/-! ## Constants and magnitudes -/

section Constants

variable (h : IsRounding fl)
include h

theorem rounded_zero : (rounded fl).zero = some 0 := by
  show some (fl ((0 : Nat) * (10 : Rat) ^ (0 : Int))) = some 0
  rw [Nat.cast_zero, zero_mul, h.zero]

theorem rounded_one : (rounded fl).one = some 1 := by
  show some (fl ((1 : Nat) * (10 : Rat) ^ (0 : Int))) = some 1
  rw [Nat.cast_one, one_mul, zpow_zero, h.one]

theorem rounded_two : (rounded fl).two = some 2 := by
  show some (fl ((2 : Nat) * (10 : Rat) ^ (0 : Int))) = some 2
  rw [Nat.cast_two, zpow_zero, mul_one, h.two]

theorem rounded_minusOne : (rounded fl).minusOne = some (-1) := by
  rw [Arithmetic.minusOne, rounded_one h, rounded_neg]

theorem rounded_mul_minusOne {x : Rat} (hx : fl x = x) :
    (rounded fl).mul (some x) (rounded fl).minusOne = some (-x) := by
  rw [rounded_minusOne h, rounded_mul, mul_neg_one, h.neg_fixed hx]

theorem rounded_magnitude (hR : fl R = R) : (rounded fl).magnitude (some R) = some |R| := by
  rw [Arithmetic.magnitude, Arithmetic.ofBothSigns, rounded_mul_minusOne h hR, Extremum.apply,
    rounded_max, abs_eq_max_neg]

theorem rounded_negMagnitude (hR : fl R = R) :
    (rounded fl).negMagnitude (some R) = some (-|R|) := by
  rw [Arithmetic.negMagnitude, Arithmetic.ofBothSigns, rounded_mul_minusOne h hR, Extremum.apply,
    rounded_min]
  rcases le_total 0 R with hsign | hsign
  · rw [abs_of_nonneg hsign, min_eq_right (by linarith)]
  · rw [abs_of_nonpos hsign, min_eq_left (by linarith), neg_neg]

/-- The step fix is minus one at zero, and zero elsewhere however small the result is. -/
theorem rounded_stepFix (hR : fl R = R) :
    (rounded fl).stepFix (some R) = some (if R = 0 then -1 else 0) := by
  rw [Arithmetic.stepFix, rounded_magnitude h hR, rounded_minusOne h, rounded_one h,
    rounded_zero h, rounded_round fl |R| .up one_ne_zero, abs_one, div_one, mul_one, h.abs_fixed hR,
    rounded_sub, rounded_clamp]
  by_cases hzero : R = 0
  · subst hzero
    have hup : wholeRat .up 0 = 0 := rfl
    rw [if_pos rfl, abs_zero, hup, h.zero, zero_sub, h.neg_fixed h.one]
    norm_num
  · -- Rounded up, the magnitude is at least one, and one less is not below zero.
    have hup := one_le_wholeRat_up (abs_pos.mpr hzero)
    have hfl : 1 ≤ fl (wholeRat .up |R|) := h.one ▸ h.monotone hup
    have hdifference : 0 ≤ fl (fl (wholeRat .up |R|) - 1) := h.nonneg (by linarith)
    rw [if_neg hzero, min_eq_right hdifference, max_eq_right (by norm_num)]

/-- Zero is a multiple of every step. -/
theorem rounded_round_zero {step : Rat} (hstep : step ≠ 0) :
    (rounded fl).round .toZero (some 0) (some step) = some 0 := by
  rw [rounded_round fl 0 .toZero hstep, zero_div, h.zero, wholeRat_toZero_zero, zero_mul, h.zero]

/-- The step of a rounding is never zero. -/
theorem rounded_add_stepFix {S : Rat} (hS : fl S = S) (hR : fl R = R) (hzero : S = 0 ↔ R = 0) :
    (rounded fl).add (some S) ((rounded fl).stepFix (some R)) = some (if R = 0 then -1 else S) := by
  rw [rounded_stepFix h hR, rounded_add]
  split
  · next hR0 => rw [hzero.mpr hR0, zero_add, h.neg_fixed h.one]
  · rw [add_zero, hS]

end Constants

/-! ## The quotient that a mask rests on -/

/-- What is left of the magnitude of a result when the difference, held between
    zero and that magnitude, is taken away. -/
def leftover (fl : Rat → Rat) (D R : Rat) : Rat :=
  fl (|R| - max 0 (min D |R|))

/-- The difference is large enough beside the result to be told from zero. -/
def Resolves (fl : Rat → Rat) (D R : Rat) : Prop :=
  fl (leftover fl D R / |R|) < 1

instance (fl : Rat → Rat) (D R : Rat) : Decidable (Resolves fl D R) :=
  inferInstanceAs (Decidable (_ < _))

theorem distance_mem (D R : Rat) : 0 ≤ max 0 (min D |R|) ∧ max 0 (min D |R|) ≤ |R| :=
  ⟨le_max_left _ _, max_le (abs_nonneg R) (min_le_right _ _)⟩

section Quotient

variable (h : IsRounding fl)
include h

theorem leftover_mem (D : Rat) (hR : fl R = R) : 0 ≤ leftover fl D R ∧ leftover fl D R ≤ |R| := by
  obtain ⟨hlow, hhigh⟩ := distance_mem D R
  refine ⟨h.nonneg (by linarith), ?_⟩
  calc leftover fl D R ≤ fl |R| := h.monotone (by linarith)
    _ = |R| := h.abs_fixed hR

theorem quotient_mem (D : Rat) (hR : fl R = R) :
    0 ≤ fl (leftover fl D R / |R|) ∧ fl (leftover fl D R / |R|) ≤ 1 := by
  obtain ⟨hlow, hhigh⟩ := leftover_mem h D hR
  refine ⟨h.nonneg (div_nonneg hlow (abs_nonneg R)), ?_⟩
  calc fl (leftover fl D R / |R|) ≤ fl 1 := h.monotone (div_le_one_of_le₀ hhigh (abs_nonneg R))
    _ = 1 := h.one

/-- The result moved towards zero keeps its sign. -/
theorem rounded_moved (D : Rat) (hR : fl R = R) :
    (rounded fl).moved (some D) (some R) =
      some (if R < 0 then -leftover fl D R else leftover fl D R) := by
  obtain ⟨hlow, hhigh⟩ := distance_mem D R
  obtain ⟨hleft, -⟩ := leftover_mem h D hR
  have hkept : fl (leftover fl D R) = leftover fl D R := h.idempotent _
  rw [Arithmetic.moved, Arithmetic.distance, rounded_magnitude h hR, rounded_zero h, rounded_clamp,
    rounded_sub, rounded_add, rounded_max, rounded_min, rounded_add]
  -- Of the two terms one is the result moved by the distance, and zero cuts off the other.
  by_cases hsign : R < 0
  · rw [abs_of_neg hsign] at hlow hhigh
    have hmax : fl (R - max 0 (min D (-R))) ≤ 0 := h.nonpos (by linarith)
    have hmin : fl (R + max 0 (min D (-R))) = -leftover fl D R := by
      rw [leftover, ← h.odd, abs_of_neg hsign]
      congr 1
      ring
    rw [if_pos hsign, abs_of_neg hsign, max_eq_left hmax, hmin, min_eq_right (by linarith),
      zero_add, h.neg_fixed hkept]
  · have hpos : 0 ≤ R := not_lt.mp hsign
    rw [abs_of_nonneg hpos] at hlow hhigh
    have hmax : fl (R - max 0 (min D R)) = leftover fl D R := by
      rw [leftover, abs_of_nonneg hpos]
    have hmin : 0 ≤ fl (R + max 0 (min D R)) := h.nonneg (by linarith)
    rw [if_neg hsign, abs_of_nonneg hpos, hmax, max_eq_right hleft, min_eq_left hmin, add_zero,
      hkept]

/-- Truncation keeps the result where nothing was taken away, and nothing else. -/
theorem rounded_round_moved (D : Rat) (hR : fl R = R) (hzero : R ≠ 0) :
    (rounded fl).round .toZero ((rounded fl).moved (some D) (some R)) (some R) =
      some (if Resolves fl D R then 0 else R) := by
  obtain ⟨hlow, hhigh⟩ := quotient_mem h D hR
  -- Between zero and one, a quotient truncates to one only if it is one.
  have hwhole : wholeRat .toZero (fl (leftover fl D R / |R|)) =
      if Resolves fl D R then 0 else 1 := by
    split
    · next hresolves => exact wholeRat_toZero_of_lt_one hlow hresolves
    · next hresolves =>
      rw [le_antisymm hhigh (not_lt.mp hresolves), wholeRat_toZero_one]
  rw [rounded_moved h D hR, rounded_round fl _ .toZero hzero]
  by_cases hsign : R < 0
  · rw [if_pos hsign, neg_div, h.odd, wholeRat_toZero_neg, hwhole]
    split
    · rw [neg_zero, zero_mul, h.zero]
    · rw [abs_of_neg hsign, neg_one_mul, neg_neg, hR]
  · rw [if_neg hsign, hwhole]
    split
    · rw [zero_mul, h.zero]
    · rw [abs_of_nonneg (not_lt.mp hsign), one_mul, hR]

theorem rounded_whenPositive (D : Rat) (hR : fl R = R) :
    (rounded fl).whenPositive (some D) (some R) = some (if Resolves fl D R then R else 0) := by
  rw [Arithmetic.whenPositive, rounded_add_stepFix h hR hR Iff.rfl]
  by_cases hzero : R = 0
  · -- The step is minus one here, and nothing is left to be truncated.
    subst hzero
    have hleft : leftover fl D 0 = 0 := by
      obtain ⟨hlow, hhigh⟩ := leftover_mem h D h.zero
      rw [abs_zero] at hhigh
      exact le_antisymm hhigh hlow
    rw [if_pos rfl, rounded_moved h D h.zero, if_neg (lt_irrefl 0), hleft,
      rounded_round_zero h (by norm_num), rounded_mul_minusOne h h.zero, rounded_add, neg_zero,
      add_zero, h.zero, ite_self]
  · rw [if_neg hzero, rounded_round_moved h D hR hzero]
    split
    · rw [rounded_mul_minusOne h h.zero, rounded_add, neg_zero, zero_add, hR]
    · rw [rounded_mul_minusOne h hR, rounded_add, neg_add_cancel, h.zero]

theorem rounded_whenNonnegative (hD : fl D = D) (hR : fl R = R) :
    (rounded fl).whenNonnegative (some D) (some R) =
      some (if Resolves fl (-D) R then 0 else R) := by
  rw [Arithmetic.whenNonnegative, rounded_mul_minusOne h hD, rounded_whenPositive h _ hR,
    rounded_sub]
  split
  · rw [sub_self, h.zero]
  · rw [sub_zero, hR]

/-- Only a positive difference is ever told from zero. -/
theorem Resolves.pos (hR : fl R = R) (hzero : R ≠ 0) (hresolves : Resolves fl D R) : 0 < D := by
  by_contra hD
  -- Nothing is taken away from the result then, and its quotient by itself is one.
  have hmin : min D |R| ≤ 0 := (min_le_left _ _).trans (not_lt.mp hD)
  have hquotient : fl (leftover fl D R / |R|) = 1 := by
    rw [leftover, max_eq_left hmin, sub_zero, h.abs_fixed hR, div_self (abs_ne_zero.mpr hzero),
      h.one]
  exact absurd hquotient (ne_of_lt hresolves)

end Quotient

/-- Without rounding every positive difference is told from zero. -/
theorem resolves_id_iff (hzero : R ≠ 0) : Resolves id D R ↔ 0 < D := by
  refine ⟨fun hresolves => hresolves.pos isRounding_id rfl hzero, fun hD => ?_⟩
  have habs : 0 < |R| := abs_pos.mpr hzero
  have hdistance : 0 < max 0 (min D |R|) := lt_max_of_lt_right (lt_min hD habs)
  show (|R| - max 0 (min D |R|)) / |R| < 1
  rw [div_lt_one habs]
  linarith

/-! ## The two boundaries -/

/-- The mask of a difference is set. A boundary that is not strict is decided by
    the strict one on the negated difference. -/
def Passes (fl : Rat → Rat) (strict : Bool) (D R : Rat) : Prop :=
  if strict then Resolves fl D R else ¬ Resolves fl (-D) R

instance (fl : Rat → Rat) (strict : Bool) (D R : Rat) : Decidable (Passes fl strict D R) :=
  inferInstanceAs (Decidable (if strict then _ else _))

theorem rounded_ofDifference (h : IsRounding fl) (hD : fl D = D) (hR : fl R = R) (strict : Bool) :
    (rounded fl).ofDifference (some D) (some R) strict =
      some (if Passes fl strict D R then R else 0) := by
  cases strict with
  | true => exact rounded_whenPositive h D hR
  | false =>
    show (rounded fl).whenNonnegative (some D) (some R) =
      some (if ¬ Resolves fl (-D) R then R else 0)
    rw [rounded_whenNonnegative h hD hR, ite_not]

theorem passes_id_iff (hzero : R ≠ 0) (strict : Bool) :
    Passes id strict D R ↔ if strict then 0 < D else 0 ≤ D := by
  cases strict with
  | true => exact resolves_id_iff hzero
  | false =>
    show ¬ Resolves id (-D) R ↔ 0 ≤ D
    rw [resolves_id_iff hzero, neg_pos, not_lt]

/-! ## Pairs of masks

Each of the two masks is worth the result or zero. -/

/-- Twice the result, held within its magnitude, is the result. -/
theorem hold_double (R : Rat) : max (-|R|) (min (2 * R) |R|) = R := by
  rcases le_total 0 R with hsign | hsign
  · rw [abs_of_nonneg hsign, min_eq_right (by linarith), max_eq_right (by linarith)]
  · rw [abs_of_nonpos hsign, neg_neg, min_eq_left (by linarith), max_eq_left (by linarith)]

theorem hold_self (R : Rat) : max (-|R|) (min R |R|) = R := by
  rw [min_eq_left (le_abs_self R), max_eq_right (neg_abs_le R)]

theorem hold_zero (R : Rat) : max (-|R|) (min 0 |R|) = 0 := by
  rw [min_eq_left (abs_nonneg R), max_eq_right (neg_nonpos.mpr (abs_nonneg R))]

section Pairs

variable (h : IsRounding fl) (hR : fl R = R) (hdouble : fl (2 * R) = 2 * R)
  (p q : Prop) [Decidable p] [Decidable q]
include h hR

include hdouble in
/-- The sum of two masks is zero, once or twice the result. -/
theorem rounded_add_masks :
    (rounded fl).add (some (if p then R else 0)) (some (if q then R else 0)) =
      some (if p ∧ q then 2 * R else if p ∨ q then R else 0) := by
  rw [rounded_add]
  by_cases hp : p
  · by_cases hq : q
    · rw [if_pos hp, if_pos hq, if_pos ⟨hp, hq⟩, ← two_mul, hdouble]
    · rw [if_pos hp, if_neg hq, if_neg (fun hboth => hq hboth.2), if_pos (.inl hp), add_zero, hR]
  · by_cases hq : q
    · rw [if_neg hp, if_pos hq, if_neg (fun hboth => hp hboth.1), if_pos (.inr hq), zero_add, hR]
    · rw [if_neg hp, if_neg hq, if_neg (fun hboth => hp hboth.1),
        if_neg (fun heither => heither.elim hp hq), add_zero, h.zero]

include hdouble in
theorem rounded_heldSum :
    (rounded fl).heldSum (some (if p then R else 0)) (some (if q then R else 0)) (some R) =
      some (if p ∨ q then R else 0) := by
  rw [Arithmetic.heldSum, rounded_add_masks h hR hdouble, rounded_negMagnitude h hR,
    rounded_magnitude h hR, rounded_clamp]
  by_cases hboth : p ∧ q
  · rw [if_pos hboth, if_pos (.inl hboth.1), hold_double]
  · rw [if_neg hboth]
    split
    · rw [hold_self]
    · rw [hold_zero]

/-- A number is the multiple of itself that it truncates to. -/
theorem rounded_round_self (hzero : R ≠ 0) :
    (rounded fl).round .toZero (some R) (some R) = some R := by
  rw [rounded_round fl R .toZero hzero]
  rcases lt_or_gt_of_ne hzero with hsign | hsign
  · rw [abs_of_neg hsign, div_neg, div_self hzero, h.odd, h.one, wholeRat_toZero_neg,
      wholeRat_toZero_one, neg_one_mul, neg_neg, hR]
  · rw [abs_of_pos hsign, div_self hzero, h.one, wholeRat_toZero_one, one_mul, hR]

omit hR in
/-- Half a step truncates to nothing. This is where the rounding has to keep a half. -/
theorem rounded_round_half (hzero : R ≠ 0) :
    (rounded fl).round .toZero (some R) (some (2 * R)) = some 0 := by
  have hwhole : wholeRat .toZero (1 / 2) = 0 :=
    wholeRat_toZero_of_lt_one (by norm_num) (by norm_num)
  have hhalf : R / (2 * R) = 1 / 2 := by
    rw [div_mul_eq_div_div_swap, div_self hzero]
  rw [rounded_round fl R .toZero (mul_ne_zero two_ne_zero hzero)]
  rcases lt_or_gt_of_ne hzero with hsign | hsign
  · rw [abs_of_neg (by linarith), div_neg, hhalf, h.odd, h.half, wholeRat_toZero_neg, hwhole,
      neg_zero, zero_mul, h.zero]
  · rw [abs_of_pos (by linarith), hhalf, h.half, hwhole, zero_mul, h.zero]

include hdouble in
/-- Truncated to a multiple of twice the result, only the full sum is left. -/
theorem rounded_round_masks :
    (rounded fl).round .toZero (some (if p ∧ q then 2 * R else if p ∨ q then R else 0))
        (some (if R = 0 then -1 else 2 * R)) =
      some (if p ∧ q then 2 * R else 0) := by
  by_cases hzero : R = 0
  · subst hzero
    rw [if_pos rfl, mul_zero, ite_self, ite_self, rounded_round_zero h (by norm_num)]
  · have hstep : 2 * R ≠ 0 := mul_ne_zero two_ne_zero hzero
    rw [if_neg hzero]
    -- The sum is a whole step, half a step or nothing.
    by_cases hboth : p ∧ q
    · rw [if_pos hboth, if_pos hboth, rounded_round_self h hdouble hstep]
    · rw [if_neg hboth, if_neg hboth]
      split
      · exact rounded_round_half h hzero
      · exact rounded_round_zero h hstep

include hdouble in
theorem rounded_both :
    (rounded fl).both (some (if p then R else 0)) (some (if q then R else 0)) (some R) =
      some (if p ∧ q then R else 0) := by
  have hstep : (rounded fl).mul (some R) (rounded fl).two = some (2 * R) := by
    rw [rounded_two h, rounded_mul, mul_comm, hdouble]
  have hzero : 2 * R = 0 ↔ R = 0 := by
    rw [mul_eq_zero, or_iff_right two_ne_zero]
  rw [Arithmetic.both, rounded_add_masks h hR hdouble, hstep,
    rounded_add_stepFix h hdouble hR hzero, rounded_round_masks h hR hdouble,
    rounded_negMagnitude h hR, rounded_magnitude h hR, rounded_clamp]
  split
  · rw [hold_double]
  · rw [hold_zero]

/-- The first mask less the second can be minus the result, and is then held at zero. -/
theorem rounded_heldDifference :
    (rounded fl).heldDifference (some (if p then R else 0)) (some (if q then R else 0)) (some R) =
      some (if p ∧ ¬ q then R else 0) := by
  rw [Arithmetic.heldDifference, rounded_zero h, rounded_min, rounded_max, rounded_sub,
    rounded_clamp]
  have hnothing : max (min 0 R) (min 0 (max 0 R)) = 0 := by
    rw [min_eq_left (le_max_left 0 R), max_eq_right (min_le_left 0 R)]
  by_cases hp : p
  · by_cases hq : q
    · rw [if_pos hp, if_pos hq, if_neg (fun hdifference => hdifference.2 hq), sub_self, h.zero,
        hnothing]
    · rw [if_pos hp, if_neg hq, if_pos ⟨hp, hq⟩, sub_zero, hR, min_eq_left (le_max_right 0 R),
        max_eq_right (min_le_right 0 R)]
  · by_cases hq : q
    · rw [if_neg hp, if_pos hq, if_neg (fun hdifference => hp hdifference.1), zero_sub,
        h.neg_fixed hR]
      -- Minus the result lies on the far side of zero, which is one of the bounds.
      rcases le_total 0 R with hsign | hsign
      · rw [max_eq_right hsign, min_eq_left hsign, min_eq_left (by linarith),
          max_eq_left (by linarith)]
      · rw [max_eq_left hsign, min_eq_right hsign, min_eq_right (by linarith), max_eq_right hsign]
    · rw [if_neg hp, if_neg hq, if_neg (fun hdifference => hp hdifference.1), sub_self, h.zero,
        hnothing]

end Pairs

end BranchlessCalc.Calc
