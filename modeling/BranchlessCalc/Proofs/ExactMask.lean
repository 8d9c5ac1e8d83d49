/-
  BranchlessCalc.Proofs.ExactMask

  The selector and the connectives on any texts, where arithmetic is exact.

  Conditions fill these templates with differences and masks of their own, but
  nothing in them asks for that. The selector decides the sign of whatever is
  written as its difference, for a result of any sign and size, and no rounding
  in it has a step of zero. The connectives join any two texts that are worth the
  common result or zero, bare sums among them.
-/
import BranchlessCalc.Proofs.ConditionMask
import BranchlessCalc.Proofs.RoundingStep

namespace BranchlessCalc.Mask

open Calc
open Calc.Arithmetic (exact)

/-! ## The selector -/

theorem denotes_ofDifference_exact {d r : String} {D R : Rat}
    (hd : evaluateIn exact d = .ok (some D)) (hr : evaluateIn exact r = .ok (some R))
    (strict : Bool) :
    Denotes exact IsPrimary (ofDifference d r strict)
      (.ok (some (if (if strict then 0 < D else 0 ≤ D) then R else 0))) := by
  have hresult : IsResult id r R := .of_exact hr
  have hmask := denotes_ofDifference (evaluateIn_eq_ok_iff.mp hd) hresult.denotes hresult.addend
    strict
  have hvalue := rounded_ofDifference (D := D) (R := R) isRounding_id rfl rfl strict
  have hdecided := hmask.congr rfl (congrArg Except.ok hvalue)
  exact hdecided.exact_congr fun hzero => passes_id_iff hzero strict

/-- The selector is worth its result if the difference is positive, or zero where the
    boundary is not strict, and worth zero otherwise. Whatever is rounded on the way,
    in the texts as well, is rounded to a step other than zero. -/
theorem ofDifference_exact (d r : String) (D R : Rat) (strict : Bool)
    (hd : evaluateIn exact d = .ok (some D)) (hr : evaluateIn exact r = .ok (some R)) :
    evaluateIn exact (ofDifference d r strict) =
      .ok (some (if (if strict then 0 < D else 0 ≤ D) then R else 0)) ∧
    ∃ tree, parse (ofDifference d r strict) = .ok tree ∧
      ∀ step ∈ tree.steps, ∃ S, step.eval exact = .ok (some S) ∧ S ≠ 0 := by
  have hmask := (denotes_ofDifference_exact hd hr strict).sum
  refine ⟨evaluateIn_eq_ok_iff.mpr hmask, ?_⟩
  obtain ⟨tree, hspells, heval⟩ := hmask
  exact ⟨tree, parse_eq_ok_iff_spells.mpr hspells, tree.steps_ne_zero ⟨_, heval⟩⟩

/-- A difference that is zero, with a rounding of its own, and a negative result of
    less than a pixel. -/
theorem ofDifference_exact_tie :
    evaluateIn exact "round(down, 3px, 2px) - 2px" = .ok (some 0) ∧
    evaluateIn exact "0.5px - 0.75px" = .ok (some (-1 / 4)) ∧
    evaluateIn exact (ofDifference "round(down, 3px, 2px) - 2px" "0.5px - 0.75px" false) =
      .ok (some (-1 / 4)) ∧
    evaluateIn exact (ofDifference "round(down, 3px, 2px) - 2px" "0.5px - 0.75px" true) =
      .ok (some 0) := by
  have hd : evaluateIn exact "round(down, 3px, 2px) - 2px" = .ok (some 0) := by
    with_unfolding_all rfl
  have hr : evaluateIn exact "0.5px - 0.75px" = .ok (some (-1 / 4)) := by with_unfolding_all rfl
  exact ⟨hd, hr, (ofDifference_exact _ _ _ _ false hd hr).1,
    (ofDifference_exact _ _ _ _ true hd hr).1⟩

/-! ## The connectives -/

/-- A number that is zero or `R` is the value of a mask. -/
theorem eq_ite_of_zero_or {X R : Rat} (h : X = 0 ∨ X = R) : X = if X = R then R else 0 := by
  split
  · next hset => exact hset
  · next hunset => exact h.resolve_right hunset

/-- Two texts that are worth `R` or zero are joined by what they are worth, whatever
    they are made of. -/
theorem connectives_exact (a b r : String) (X Y R : Rat) (ha : evaluateIn exact a = .ok (some X))
    (hb : evaluateIn exact b = .ok (some Y)) (hr : evaluateIn exact r = .ok (some R))
    (hX : X = 0 ∨ X = R) (hY : Y = 0 ∨ Y = R) :
    evaluateIn exact (either a b r) = .ok (some (if X = R ∨ Y = R then R else 0)) ∧
      evaluateIn exact (both a b r) = .ok (some (if X = R ∧ Y = R then R else 0)) := by
  have hleft := evaluateIn_eq_ok_iff.mp ha
  -- The right mask may be a sum as it stands, since exact sums can be regrouped.
  have hright := (evaluateIn_eq_ok_iff.mp hb).addend_of_regroups exact_regroups
  have hresult := evaluateIn_eq_ok_iff.mp hr
  have heither := rounded_heldSum (R := R) isRounding_id rfl rfl (X = R) (Y = R)
  have hboth := rounded_both (R := R) isRounding_id rfl rfl (X = R) (Y = R)
  rw [← eq_ite_of_zero_or hX, ← eq_ite_of_zero_or hY] at heither hboth
  constructor
  · have hmask := (denotes_heldSum hleft hright hresult).sum
    exact evaluateIn_eq_ok_iff.mpr (hmask.congr rfl (congrArg Except.ok heither))
  · have hmask := (denotes_both hleft hright hresult).sum
    exact evaluateIn_eq_ok_iff.mpr (hmask.congr rfl (congrArg Except.ok hboth))

/-- Two bare sums, one of them set, with a negative result. -/
theorem connectives_exact_sums :
    evaluateIn exact "1px - 3px" = .ok (some (-2)) ∧ evaluateIn exact "2px - 2px" = .ok (some 0) ∧
    evaluateIn exact "-2px" = .ok (some (-2)) ∧
    evaluateIn exact (either "2px - 2px" "1px - 3px" "-2px") = .ok (some (-2)) ∧
    evaluateIn exact (both "2px - 2px" "1px - 3px" "-2px") = .ok (some 0) ∧
    evaluateIn exact (both "1px - 3px" "1px - 3px" "-2px") = .ok (some (-2)) := by
  have hset : evaluateIn exact "1px - 3px" = .ok (some (-2)) := by with_unfolding_all rfl
  have hunset : evaluateIn exact "2px - 2px" = .ok (some 0) := by with_unfolding_all rfl
  have hresult : evaluateIn exact "-2px" = .ok (some (-2)) := by with_unfolding_all rfl
  obtain ⟨heither, hboth⟩ :=
    connectives_exact _ _ _ _ _ _ hunset hset hresult (.inl rfl) (.inr rfl)
  obtain ⟨-, htwice⟩ := connectives_exact _ _ _ _ _ _ hset hset hresult (.inr rfl) (.inr rfl)
  exact ⟨hset, hunset, hresult, heither, hboth, htwice⟩

end BranchlessCalc.Mask
