/-
  BranchlessCalc.Proofs.RoundingStep

  The steps that numbers are rounded to while a tree is evaluated.

  Over the rationals a number rounded to a multiple of zero is undefined, and so
  is all that is computed from it. Evaluation has no branches: but for the names
  of strategies it reaches every part of a tree. Hence, where a tree has a value,
  each rounding in it has a step, and no step is zero (`Expr.steps_ne_zero`).
-/
import BranchlessCalc.Proofs.Rounded

namespace BranchlessCalc.Calc

open Arithmetic (rounded lift₂)

/-! ## Steps -/

/-- The step of a call, if it is one of `round`. -/
def callStep : String → List Expr → List Expr
  | "round", [_, _, step] => [step]
  | _, _ => []

mutual

/-- The steps of all calls of `round` in a tree. -/
def Expr.steps : Expr → List Expr
  | .number _ => []
  | .name _ => []
  | .neg operand => operand.steps
  | .binary _ left right => left.steps ++ right.steps
  | .call function args => Expr.stepsEach args ++ callStep function args

/-- The steps of all calls of `round` in a list of trees. -/
def Expr.stepsEach : List Expr → List Expr
  | [] => []
  | arg :: rest => arg.steps ++ Expr.stepsEach rest

end

/-! ## Defined results have defined operands -/

variable {fl : Rat → Rat} {u v : Option Rat} {z : Rat}

/-- The tree has a value, and it is a number. -/
def Expr.Defined (fl : Rat → Rat) (tree : Expr) : Prop :=
  ∃ x, tree.eval (rounded fl) = .ok (some x)

theorem lift₂_defined {f : Rat → Rat → Option Rat} (h : lift₂ f u v = some z) :
    (∃ x, u = some x) ∧ ∃ y, v = some y := by
  obtain ⟨x, y, hx, hy, -⟩ := lift₂_eq_some h
  exact ⟨⟨x, hx⟩, ⟨y, hy⟩⟩

theorem Operator.apply_defined (op : Operator) (h : op.apply (rounded fl) u v = some z) :
    (∃ x, u = some x) ∧ ∃ y, v = some y := by
  cases op with
  | add | sub | mul | div => exact lift₂_defined h

theorem Extremum.apply_defined (function : Extremum)
    (h : function.apply (rounded fl) u v = some z) : (∃ x, u = some x) ∧ ∃ y, v = some y := by
  obtain ⟨x, y, hx, hy, -⟩ := function.apply_eq_some h
  exact ⟨⟨x, hx⟩, ⟨y, hy⟩⟩

/-- A number is only rounded to a step that is not zero. -/
theorem rounded_round_defined {strategy : Rounding} (h : (rounded fl).round strategy u v = some z) :
    (∃ x, u = some x) ∧ ∃ y, v = some y ∧ y ≠ 0 := by
  obtain ⟨⟨whole, hwhole⟩, -⟩ := lift₂_defined h
  obtain ⟨quotient, hquotient, -⟩ := Option.map_eq_some_iff.mp hwhole
  obtain ⟨x, size, hx, hsize, hdiv⟩ := lift₂_eq_some hquotient
  obtain ⟨y, hy, rfl⟩ := Option.map_eq_some_iff.mp hsize
  refine ⟨⟨x, hx⟩, y, hy, ?_⟩
  rintro rfl
  cases hdiv

/-- Both outcomes that a third one is made of are numbers if it is. -/
theorem outcomes_of_ok {ε α β : Type} {u v : Except ε α} {g : α → α → Except ε β} {z : β}
    (h : (do g (← u) (← v)) = .ok z) : ∃ x y, u = .ok x ∧ v = .ok y ∧ g x y = .ok z := by
  cases u with
  | error e => cases h
  | ok x =>
    cases v with
    | error e => cases h
    | ok y => exact ⟨x, y, rfl, rfl, h⟩

namespace Expr

variable {x y s : Expr}

theorem defined_two {f : Option Rat → Option Rat → Option Rat}
    (hf : ∀ {u v z}, f u v = some z → (∃ x, u = some x) ∧ ∃ y, v = some y)
    (h : (do return f (← x.eval (rounded fl)) (← y.eval (rounded fl))) = Except.ok (some z)) :
    x.Defined fl ∧ y.Defined fl := by
  obtain ⟨u, v, hu, hv, hz⟩ := outcomes_of_ok h
  obtain ⟨⟨a, rfl⟩, ⟨b, rfl⟩⟩ := hf (Except.ok.inj hz)
  exact ⟨⟨a, hu⟩, ⟨b, hv⟩⟩

theorem defined_clamp (h : (do
      let low ← x.eval (rounded fl)
      let value ← y.eval (rounded fl)
      return (rounded fl).clamp low value (← s.eval (rounded fl))) = Except.ok (some z)) :
    x.Defined fl ∧ y.Defined fl ∧ s.Defined fl := by
  obtain ⟨low, value, hx, hy, hrest⟩ := outcomes_of_ok h
  cases hs : s.eval (rounded fl) with
  | error e =>
    rw [hs] at hrest
    cases hrest
  | ok high =>
    rw [hs] at hrest
    obtain ⟨⟨a, rfl⟩, held, hheld⟩ := Extremum.max.apply_defined (Except.ok.inj hrest)
    obtain ⟨⟨b, rfl⟩, ⟨c, rfl⟩⟩ := Extremum.min.apply_defined hheld
    exact ⟨⟨a, hx⟩, ⟨b, hy⟩, ⟨c, hs⟩⟩

theorem defined_round {strategy : String}
    (h : (do roundBy (rounded fl) strategy (← x.eval (rounded fl)) (← s.eval (rounded fl))) =
      Except.ok (some z)) :
    x.Defined fl ∧ ∃ y, s.eval (rounded fl) = .ok (some y) ∧ y ≠ 0 := by
  obtain ⟨u, v, hu, hv, hz⟩ := outcomes_of_ok h
  unfold roundBy at hz
  split at hz
  · obtain ⟨⟨a, rfl⟩, b, rfl, hb⟩ := rounded_round_defined (Except.ok.inj hz)
    exact ⟨⟨a, hu⟩, b, hv, hb⟩
  · cases hz

/-! ## Trees -/

/-- The arguments of a call that has a value have one too, or are names. -/
theorem call_defined {function : String} {args : List Expr}
    (h : (Expr.call function args).Defined fl) :
    (∀ arg ∈ args, arg.Defined fl ∨ arg.steps = []) ∧
      ∀ step ∈ callStep function args, ∃ y, step.eval (rounded fl) = .ok (some y) ∧ y ≠ 0 := by
  obtain ⟨z, h⟩ := h
  cases callForm function args with
  | group x =>
    rw [eval_calc] at h
    exact ⟨List.forall_mem_singleton.mpr (.inl ⟨z, h⟩), List.forall_mem_nil _⟩
  | extremum function x y =>
    rw [eval_extremum] at h
    obtain ⟨hx, hy⟩ := defined_two function.apply_defined h
    have hstep : callStep function.name [x, y] = [] := by
      cases function with
      | min | max => rfl
    rw [hstep]
    refine ⟨?_, List.forall_mem_nil _⟩
    simp [hx, hy]
  | clamp x y s =>
    rw [eval_clamp] at h
    obtain ⟨hx, hy, hs⟩ := defined_clamp h
    refine ⟨?_, List.forall_mem_nil _⟩
    simp [hx, hy, hs]
  | round strategy x s =>
    rw [eval_roundBy] at h
    obtain ⟨hx, y, hy, hzero⟩ := defined_round h
    refine ⟨?_, List.forall_mem_singleton.mpr ⟨y, hy, hzero⟩⟩
    have hs : s.Defined fl := ⟨y, hy⟩
    have hname : (Expr.name strategy).steps = [] := by rw [Expr.steps]
    simp [hx, hs, hname]
  | refused error hrefused =>
    rw [hrefused] at h
    cases h

theorem mem_stepsEach_iff {args : List Expr} {step : Expr} :
    step ∈ stepsEach args ↔ ∃ arg ∈ args, step ∈ arg.steps := by
  induction args with
  | nil => simp [stepsEach]
  | cons arg rest ih => rw [stepsEach, List.mem_append, ih, List.exists_mem_cons_iff]

/-- Where a tree has a value, no number in it is rounded to a multiple of zero. -/
theorem steps_ne_zero (tree : Expr) (h : tree.Defined fl) : ∀ step ∈ tree.steps,
    ∃ y, step.eval (rounded fl) = .ok (some y) ∧ y ≠ 0 := by
  intro step hstep
  induction tree using Expr.inductionOnArgs with
  | number value =>
    rw [Expr.steps] at hstep
    cases hstep
  | name text =>
    rw [Expr.steps] at hstep
    cases hstep
  | neg operand ih =>
    obtain ⟨z, h⟩ := h
    rw [Expr.steps] at hstep
    refine ih ?_ hstep
    rw [Expr.eval] at h
    cases hoperand : operand.eval (rounded fl) with
    | error e =>
      rw [hoperand] at h
      cases h
    | ok u =>
      rw [hoperand] at h
      obtain ⟨x, rfl, -⟩ := Option.map_eq_some_iff.mp (Except.ok.inj h)
      exact ⟨x, hoperand⟩
  | binary op left right ihl ihr =>
    obtain ⟨z, h⟩ := h
    rw [Expr.eval] at h
    obtain ⟨hleft, hright⟩ := defined_two op.apply_defined h
    rw [Expr.steps, List.mem_append] at hstep
    rcases hstep with hstep | hstep
    · exact ihl hleft hstep
    · exact ihr hright hstep
  | call function args ih =>
    obtain ⟨hargs, hown⟩ := call_defined h
    rw [Expr.steps, List.mem_append, mem_stepsEach_iff] at hstep
    rcases hstep with ⟨arg, hmem, hstep⟩ | hstep
    · rcases hargs arg hmem with hdefined | hname
      · exact ih arg hmem hdefined hstep
      · rw [hname] at hstep
        cases hstep
    · exact hown step hstep

end Expr

end BranchlessCalc.Calc
