/-
  BranchlessCalc.Proofs.Rounded

  Rational arithmetic with a rounding after each operation.

  Nothing is assumed of the rounding but that it is monotone, odd and idempotent
  and that it keeps a half, one and two (`IsRounding`). Each operation yields a
  number that the rounding keeps, and negation, minimum and maximum lead to no
  other, so all values of texts are kept (`Denotes.kept`).
-/
import BranchlessCalc.Proofs.Denotation
import Mathlib.Algebra.Order.Field.Rat
import Mathlib.Data.Rat.Floor
import Mathlib.Tactic.Linarith

namespace BranchlessCalc.Calc

/-! ## Roundings -/

/-- What is asked of a rounding of the rationals. -/
structure IsRounding (fl : Rat → Rat) : Prop where
  monotone : Monotone fl
  odd : ∀ x, fl (-x) = -fl x
  idempotent : ∀ x, fl (fl x) = fl x
  half : fl (1 / 2) = 1 / 2
  one : fl 1 = 1
  two : fl 2 = 2

/-- Exact arithmetic rounds nothing. -/
theorem isRounding_id : IsRounding id where
  monotone := monotone_id
  odd _ := rfl
  idempotent _ := rfl
  half := rfl
  one := rfl
  two := rfl

namespace IsRounding

variable {fl : Rat → Rat} (h : IsRounding fl)
include h

theorem zero : fl 0 = 0 := by
  have hodd := h.odd 0
  rw [neg_zero] at hodd
  linarith

theorem nonneg {x : Rat} (hx : 0 ≤ x) : 0 ≤ fl x :=
  h.zero ▸ h.monotone hx

theorem nonpos {x : Rat} (hx : x ≤ 0) : fl x ≤ 0 :=
  h.zero ▸ h.monotone hx

theorem neg_fixed {x : Rat} (hx : fl x = x) : fl (-x) = -x := by
  rw [h.odd, hx]

theorem abs_fixed {x : Rat} (hx : fl x = x) : fl |x| = |x| := by
  rcases abs_choice x with habs | habs
  · rw [habs, hx]
  · rw [habs, h.neg_fixed hx]

/-- Rounding makes nothing positive that was not. -/
theorem pos_of_pos {x : Rat} (hx : 0 < fl x) : 0 < x := by
  by_contra hneg
  exact absurd (h.nonpos (not_lt.mp hneg)) (not_le.mpr hx)

end IsRounding

/-! ## The operations on defined numbers -/

open Arithmetic (rounded wholeRat lift₂)

section Operations

variable (fl : Rat → Rat) (x y z : Rat)

@[simp] theorem rounded_neg : (rounded fl).neg (some x) = some (-x) := rfl

@[simp] theorem rounded_add : (rounded fl).add (some x) (some y) = some (fl (x + y)) := rfl

@[simp] theorem rounded_sub : (rounded fl).sub (some x) (some y) = some (fl (x - y)) := rfl

@[simp] theorem rounded_mul : (rounded fl).mul (some x) (some y) = some (fl (x * y)) := rfl

@[simp] theorem rounded_min : (rounded fl).min (some x) (some y) = some (min x y) := by
  rw [min_comm, min_def_lt]
  rfl

@[simp] theorem rounded_max : (rounded fl).max (some x) (some y) = some (max x y) := by
  rw [max_def_lt]
  rfl

@[simp] theorem rounded_abs : (rounded fl).abs (some x) = some |x| := by
  show some (if x < 0 then -x else x) = some |x|
  split
  · next hx => rw [abs_of_neg hx]
  · next hx => rw [abs_of_nonneg (not_lt.mp hx)]

@[simp] theorem rounded_clamp :
    (rounded fl).clamp (some x) (some y) (some z) = some (max x (min y z)) := by
  rw [Arithmetic.clamp, rounded_min, rounded_max]

/-- An operation on two numbers has a result on nothing else. -/
theorem lift₂_eq_some {f : Rat → Rat → Option Rat} {u v : Option Rat} {z : Rat}
    (h : lift₂ f u v = some z) : ∃ x y, u = some x ∧ v = some y ∧ f x y = some z := by
  obtain ⟨x, hx, h⟩ := Option.bind_eq_some_iff.mp h
  obtain ⟨y, hy, h⟩ := Option.bind_eq_some_iff.mp h
  exact ⟨x, y, hx, hy, h⟩

theorem rounded_round (strategy : Rounding) {y : Rat} (hy : y ≠ 0) :
    (rounded fl).round strategy (some x) (some y) =
      some (fl (wholeRat strategy (fl (x / |y|)) * |y|)) := by
  have hdiv : (rounded fl).div (some x) (some |y|) = some (fl (x / |y|)) := by
    show (if |y| = 0 then none else some (fl (x / |y|))) = _
    rw [if_neg (abs_ne_zero.mpr hy)]
  rw [Arithmetic.round, rounded_abs, hdiv]
  rfl

end Operations

/-! ## Truncation near zero -/

theorem wholeRat_toZero_of_nonneg {x : Rat} (hx : 0 ≤ x) : wholeRat .toZero x = x.floor := by
  rw [wholeRat, if_neg (not_lt.mpr hx)]

theorem wholeRat_toZero_of_neg {x : Rat} (hx : x < 0) : wholeRat .toZero x = x.ceil := by
  rw [wholeRat, if_pos hx]

theorem wholeRat_toZero_of_lt_one {x : Rat} (h0 : 0 ≤ x) (h1 : x < 1) : wholeRat .toZero x = 0 := by
  have hlow : 0 ≤ x.floor := Rat.le_floor_iff.mpr (by exact_mod_cast h0)
  have hhigh : x.floor < 1 := Rat.floor_lt_iff.mpr (by exact_mod_cast h1)
  have hfloor : x.floor = 0 := by omega
  rw [wholeRat_toZero_of_nonneg h0, hfloor, Int.cast_zero]

theorem wholeRat_toZero_zero : wholeRat .toZero 0 = 0 := rfl

theorem wholeRat_toZero_one : wholeRat .toZero 1 = 1 := rfl

theorem wholeRat_toZero_neg (x : Rat) : wholeRat .toZero (-x) = -wholeRat .toZero x := by
  rcases lt_trichotomy x 0 with hx | rfl | hx
  · rw [wholeRat_toZero_of_nonneg (neg_nonneg.mpr hx.le), wholeRat_toZero_of_neg hx,
      Rat.ceil_eq_neg_floor_neg, Int.cast_neg, neg_neg]
  · rw [neg_zero, wholeRat_toZero_zero, neg_zero]
  · rw [wholeRat_toZero_of_neg (neg_lt_zero.mpr hx), wholeRat_toZero_of_nonneg hx.le,
      Rat.ceil_eq_neg_floor_neg, neg_neg, Int.cast_neg]

theorem one_le_wholeRat_up {x : Rat} (hx : 0 < x) : 1 ≤ wholeRat .up x := by
  have hceil : 0 < x.ceil := Rat.lt_ceil_iff.mpr (by exact_mod_cast hx)
  have hone : 1 ≤ x.ceil := by omega
  rw [wholeRat]
  exact_mod_cast hone

/-! ## Evaluated numbers are kept by the rounding -/

/-- A number, if there is one, that the rounding keeps. -/
def Kept (fl : Rat → Rat) (value : Option Rat) : Prop :=
  ∀ x, value = some x → fl x = x

/-- An outcome whose number, if there is one, is kept. -/
def KeptOutcome (fl : Rat → Rat) (outcome : Except EvalError (Option Rat)) : Prop :=
  ∀ value, outcome = .ok value → Kept fl value

section Kept

variable {fl : Rat → Rat}

theorem KeptOutcome.ok {value : Option Rat} (h : Kept fl value) : KeptOutcome fl (.ok value) := by
  rintro _ ⟨⟩
  exact h

theorem KeptOutcome.error (e : EvalError) : KeptOutcome fl (.error e) := by
  rintro _ ⟨⟩

theorem KeptOutcome.bind {u : Except EvalError (Option Rat)}
    {f : Option Rat → Except EvalError (Option Rat)} (hu : KeptOutcome fl u)
    (hf : ∀ value, Kept fl value → KeptOutcome fl (f value)) : KeptOutcome fl (u >>= f) := by
  cases u with
  | error e => exact .error e
  | ok value => exact hf value (hu value rfl)

theorem Kept.neg (h : IsRounding fl) {u : Option Rat} (hu : Kept fl u) :
    Kept fl ((rounded fl).neg u) := by
  intro x hx
  obtain ⟨y, rfl, rfl⟩ := Option.map_eq_some_iff.mp hx
  exact h.neg_fixed (hu y rfl)

/-- What a rounded operation yields is kept, whatever it is applied to. -/
theorem Operator.kept_apply (h : IsRounding fl) (op : Operator) (u v : Option Rat) :
    Kept fl (op.apply (rounded fl) u v) := by
  intro z hz
  cases op with
  | add | sub | mul =>
    obtain ⟨x, y, -, -, hz⟩ := lift₂_eq_some hz
    cases hz
    exact h.idempotent _
  | div =>
    obtain ⟨x, y, -, -, hz⟩ := lift₂_eq_some hz
    obtain ⟨-, hz⟩ := Option.ite_none_left_eq_some.mp hz
    cases hz
    exact h.idempotent _

/-- Minimum and maximum are one of two numbers. -/
theorem Extremum.apply_eq_some (function : Extremum) {u v : Option Rat} {z : Rat}
    (h : function.apply (rounded fl) u v = some z) :
    ∃ x y, u = some x ∧ v = some y ∧ (z = x ∨ z = y) := by
  cases function with
  | min | max =>
    obtain ⟨x, y, hx, hy, hz⟩ := lift₂_eq_some h
    cases hz
    exact ⟨x, y, hx, hy, (ite_eq_or_eq _ _ _).symm⟩

theorem Kept.extremum (function : Extremum) {u v : Option Rat} (hu : Kept fl u) (hv : Kept fl v) :
    Kept fl (function.apply (rounded fl) u v) := by
  intro z hz
  obtain ⟨x, y, rfl, rfl, rfl | rfl⟩ := function.apply_eq_some hz
  · exact hu z rfl
  · exact hv z rfl

theorem Dimension.kept_pixels (h : IsRounding fl) (d : Dimension) :
    Kept fl (d.pixels (rounded fl)) := by
  have hliteral : Kept fl ((rounded fl).literal d.number) := by
    rintro _ ⟨⟩
    exact h.idempotent _
  obtain ⟨number, unit⟩ := d
  cases unit with
  | unitless | px => exact hliteral
  | rem | em => exact Operator.kept_apply h .mul _ _

theorem Expr.kept_call (h : IsRounding fl) {function : String} {args : List Expr}
    (hargs : ∀ arg ∈ args, KeptOutcome fl (arg.eval (rounded fl))) :
    KeptOutcome fl ((Expr.call function args).eval (rounded fl)) := by
  cases callForm function args with
  | group x =>
    rw [eval_calc]
    exact hargs x (by simp)
  | extremum function x y =>
    rw [eval_extremum]
    refine (hargs x (by simp)).bind fun u hu => (hargs y (by simp)).bind fun v hv => ?_
    exact .ok (hu.extremum function hv)
  | clamp x y z =>
    rw [eval_clamp]
    refine (hargs x (by simp)).bind fun u hu => (hargs y (by simp)).bind fun v hv =>
      (hargs z (by simp)).bind fun w hw => ?_
    exact .ok (hu.extremum .max (hv.extremum .min hw))
  | round strategy x y =>
    rw [eval_roundBy]
    refine (hargs x (by simp)).bind fun u _ => (hargs y (by simp)).bind fun v _ => ?_
    unfold roundBy
    split
    · exact .ok (Operator.kept_apply h .mul _ _)
    · exact .error _
  | refused error hrefused =>
    rw [hrefused]
    exact .error error

theorem Expr.kept_eval (h : IsRounding fl) (tree : Expr) :
    KeptOutcome fl (tree.eval (rounded fl)) := by
  induction tree using Expr.inductionOnArgs with
  | number value => exact .ok (value.kept_pixels h)
  | name text => exact .error _
  | neg operand ih => exact ih.bind fun _ hvalue => .ok (hvalue.neg h)
  | binary op left right ihl ihr =>
    exact ihl.bind fun _ _ => ihr.bind fun _ _ => .ok (op.kept_apply h _ _)
  | call function args ih => exact Expr.kept_call h ih

end Kept

/-- The value of a text is kept by the rounding. -/
theorem Denotes.kept {fl : Rat → Rat} (h : IsRounding fl) {P : List Token → Expr → Prop}
    {text : String} {x : Rat} (hx : Denotes (rounded fl) P text (.ok (some x))) : fl x = x := by
  obtain ⟨tree, -, heval⟩ := hx
  exact tree.kept_eval h _ heval x rfl

end BranchlessCalc.Calc
