/-
  BranchlessCalc.Proofs.Call

  What a call can do.

  A call that computes has one of four forms, and one equation for each says what
  it computes. Every other call is refused before its arguments are evaluated, with
  an error that is the same in all arithmetics. `callForm` sorts the calls in this
  way, so that no other proof has to go through function names and argument counts.
-/
import BranchlessCalc.Calc.Expr

namespace BranchlessCalc.Calc

/-! ## Minimum and maximum -/

/-- The two functions that choose one of two numbers. -/
inductive Extremum
  | min
  | max

namespace Extremum

/-- The function's name. -/
def name : Extremum → String
  | min => "min"
  | max => "max"

/-- The function in an arithmetic. -/
def apply {α : Type} (A : Arithmetic α) : Extremum → α → α → α
  | min => A.min
  | max => A.max

end Extremum

/-- A call of one of the two. -/
abbrev Expr.extremum (function : Extremum) (left right : Expr) : Expr :=
  .call function.name [left, right]

/-! ## Calls that compute -/

section Values

variable {α : Type} {A : Arithmetic α} (x y z : Expr)

theorem eval_calc : (Expr.call "calc" [x]).eval A = x.eval A := rfl

theorem eval_extremum (function : Extremum) :
    (Expr.extremum function x y).eval A =
      (do return function.apply A (← x.eval A) (← y.eval A)) := by
  cases function with
  | min | max => rfl

theorem eval_clamp :
    (Expr.call "clamp" [x, y, z]).eval A =
      (do return A.clamp (← x.eval A) (← y.eval A) (← z.eval A)) := rfl

theorem eval_roundBy (strategy : String) :
    (Expr.call "round" [.name strategy, x, y]).eval A =
      (do roundBy A strategy (← x.eval A) (← y.eval A)) := rfl

end Values

/-! ## All calls -/

/-- What a call can be. -/
inductive CallForm : Expr → Prop
  | group (x : Expr) : CallForm (.call "calc" [x])
  | extremum (function : Extremum) (x y : Expr) : CallForm (.extremum function x y)
  | clamp (x y z : Expr) : CallForm (.call "clamp" [x, y, z])
  | round (strategy : String) (x y : Expr) : CallForm (.call "round" [.name strategy, x, y])
  /-- An unknown function, or arguments that the function does not take. -/
  | refused {function : String} {args : List Expr} (error : EvalError)
      (h : ∀ {α : Type} (A : Arithmetic α), (Expr.call function args).eval A = .error error) :
      CallForm (.call function args)

theorem callForm_extremum (function : Extremum) (args : List Expr) :
    CallForm (.call function.name args) := by
  rcases args with _ | ⟨x, _ | ⟨y, _ | ⟨z, rest⟩⟩⟩
  case cons.cons.nil => exact .extremum function x y
  all_goals
    cases function with
    | min | max => exact .refused (.wrongArgCount _ 2 _) fun A => rfl

theorem callForm_round (args : List Expr) : CallForm (.call "round" args) := by
  rcases args with _ | ⟨found, _ | ⟨x, _ | ⟨y, _ | ⟨z, rest⟩⟩⟩⟩
  case cons.cons.cons.nil =>
    cases found with
    | name strategy => exact .round strategy x y
    | number _ | neg _ | binary _ _ _ | call _ _ => exact .refused (.noStrategy _) fun A => rfl
  case nil => exact .refused (.wrongArgCount "round" 3 _) fun A => rfl
  all_goals
    cases found with
    | number _ | name _ | neg _ | binary _ _ _ | call _ _ =>
      exact .refused (.wrongArgCount "round" 3 _) fun A => rfl

theorem callForm (function : String) (args : List Expr) : CallForm (.call function args) := by
  by_cases hknown : function ∈ ["calc", "min", "max", "clamp", "round"]
  · simp only [List.mem_cons, List.not_mem_nil, or_false] at hknown
    rcases hknown with rfl | rfl | rfl | rfl | rfl
    · rcases args with _ | ⟨x, _ | ⟨y, rest⟩⟩
      case cons.nil => exact .group x
      all_goals exact .refused (.wrongArgCount "calc" 1 _) fun A => rfl
    · exact callForm_extremum .min args
    · exact callForm_extremum .max args
    · rcases args with _ | ⟨x, _ | ⟨y, _ | ⟨z, _ | ⟨w, rest⟩⟩⟩⟩
      case cons.cons.cons.nil => exact .clamp x y z
      all_goals exact .refused (.wrongArgCount "clamp" 3 _) fun A => rfl
    · exact callForm_round args
  · refine .refused (.unknownFunction function) fun A => ?_
    rw [Expr.eval, applyFunction]
    all_goals
      rintro rfl
      simp at hknown

/-! ## Induction over trees -/

/-- Induction over a tree, with a hypothesis for each argument of a call. -/
@[elab_as_elim]
theorem Expr.inductionOnArgs {motive : Expr → Prop}
    (number : ∀ value, motive (.number value))
    (name : ∀ text, motive (.name text))
    (neg : ∀ operand, motive operand → motive (.neg operand))
    (binary : ∀ op left right, motive left → motive right → motive (.binary op left right))
    (call : ∀ function args, (∀ arg ∈ args, motive arg) → motive (.call function args))
    (tree : Expr) : motive tree :=
  @Expr.rec motive (fun args => ∀ arg ∈ args, motive arg) number name neg binary call
    (List.forall_mem_nil _) (fun _ _ hfirst hrest => List.forall_mem_cons.mpr ⟨hfirst, hrest⟩) tree

end BranchlessCalc.Calc
