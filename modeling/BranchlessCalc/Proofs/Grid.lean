/-
  BranchlessCalc.Proofs.Grid

  Roundings to the multiples of a unit.

  A grid has the same unit for numbers of every size, and yet it shows what a
  rounding can do to a mask: a difference of one unit is told from zero beside
  the number one, and no longer beside a large result, where the quotient that
  the mask rests on rounds to one.
-/
import BranchlessCalc.Proofs.Rounded
import Mathlib.Order.Monotone.Odd

namespace BranchlessCalc.Calc

open Arithmetic (wholeRat)

/-! ## The nearest whole number -/

theorem wholeRat_nearest_of_nonneg {x : Rat} (hx : 0 ≤ x) :
    wholeRat .nearest x = ((x + 1 / 2).floor : Rat) := by
  rw [wholeRat, if_neg (not_lt.mpr hx)]

theorem wholeRat_nearest_of_neg {x : Rat} (hx : x < 0) :
    wholeRat .nearest x = -((1 / 2 - x).floor : Rat) := by
  rw [wholeRat, if_pos hx]

theorem wholeRat_nearest_natCast (n : Nat) : wholeRat .nearest n = n := by
  have hlow : (n : Int) ≤ ((n : Rat) + 1 / 2).floor := Rat.le_floor_iff.mpr (by norm_num)
  have hhigh : ((n : Rat) + 1 / 2).floor < n + 1 := Rat.floor_lt_iff.mpr (by norm_num)
  have hfloor : ((n : Rat) + 1 / 2).floor = n := by omega
  rw [wholeRat_nearest_of_nonneg n.cast_nonneg, hfloor, Int.cast_natCast]

theorem wholeRat_nearest_neg_of_pos {x : Rat} (hx : 0 < x) :
    wholeRat .nearest (-x) = -wholeRat .nearest x := by
  rw [wholeRat_nearest_of_neg (neg_lt_zero.mpr hx), wholeRat_nearest_of_nonneg hx.le,
    sub_neg_eq_add, add_comm x]

theorem wholeRat_nearest_neg (x : Rat) : wholeRat .nearest (-x) = -wholeRat .nearest x := by
  rcases lt_trichotomy x 0 with hx | rfl | hx
  · have hmirror := wholeRat_nearest_neg_of_pos (neg_pos.mpr hx)
    rw [neg_neg] at hmirror
    rw [hmirror, neg_neg]
  · have hzero : wholeRat .nearest 0 = 0 := by exact_mod_cast wholeRat_nearest_natCast 0
    rw [neg_zero, hzero, neg_zero]
  · exact wholeRat_nearest_neg_of_pos hx

theorem wholeRat_nearest_monotone : Monotone (wholeRat .nearest) := by
  apply monotone_of_odd_of_monotoneOn_nonneg wholeRat_nearest_neg
  intro x hx y hy hxy
  rw [wholeRat_nearest_of_nonneg hx, wholeRat_nearest_of_nonneg hy]
  exact_mod_cast Rat.floor_monotone (add_le_add_left hxy _)

theorem wholeRat_nearest_intCast (n : Int) : wholeRat .nearest n = n := by
  obtain ⟨m, rfl | rfl⟩ := n.eq_nat_or_neg
  · exact_mod_cast wholeRat_nearest_natCast m
  · rw [Int.cast_neg, Int.cast_natCast, wholeRat_nearest_neg, wholeRat_nearest_natCast]

theorem wholeRat_nearest_whole (x : Rat) :
    wholeRat .nearest (wholeRat .nearest x) = wholeRat .nearest x := by
  rcases lt_or_ge x 0 with hx | hx
  · rw [wholeRat_nearest_of_neg hx, ← Int.cast_neg, wholeRat_nearest_intCast]
  · rw [wholeRat_nearest_of_nonneg hx, wholeRat_nearest_intCast]

/-! ## Grids -/

/-- The nearest multiple of `1 / n`, a half away from zero. -/
def grid (n : Nat) (x : Rat) : Rat :=
  wholeRat .nearest (n * x) / n

/-- Grids with an even number of units in one keep a half. -/
theorem isRounding_grid {n m : Nat} (hn : n = 2 * m) (hm : 0 < m) : IsRounding (grid n) := by
  have hpos : (0 : Rat) < n := by
    rw [hn]
    positivity
  -- A number is kept if it is a whole number of units.
  have hkept {x : Rat} {k : Nat} (hk : n * x = k) : grid n x = x := by
    rw [grid, hk, wholeRat_nearest_natCast, ← hk, mul_div_cancel_left₀ _ hpos.ne']
  constructor
  · intro x y hxy
    have hscaled : n * x ≤ n * y := mul_le_mul_of_nonneg_left hxy hpos.le
    exact div_le_div_of_nonneg_right (wholeRat_nearest_monotone hscaled) hpos.le
  · intro x
    rw [grid, grid, mul_neg, wholeRat_nearest_neg, neg_div]
  · intro x
    rw [grid, grid, mul_div_cancel₀ _ hpos.ne', wholeRat_nearest_whole]
  · have hhalf : (n : Rat) * (1 / 2) = m := by
      rw [hn]
      push_cast
      ring
    exact hkept hhalf
  · exact hkept (mul_one _)
  · have htwo : (n : Rat) * 2 = (n * 2 : Nat) := by
      push_cast
      rfl
    exact hkept htwo

end BranchlessCalc.Calc
