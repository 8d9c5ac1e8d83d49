/-
  BranchlessCalc.Proofs.OptionalResult

  Compilation where either result may be missing.

  It ends in one of three ways (`CompileEnding`), and which one depends on the shape
  of the condition and on whether there is a result, never on the other result.
  An expression is worth in exact arithmetic what the condition asks for, with the
  left operand in place of a missing result and zero in place of the other one. A
  tree that is kept has its effect later, inside the larger condition that it is
  put into: there it counts with its truth.
-/
import BranchlessCalc.Proofs.ExactCompile

namespace BranchlessCalc

open Calc
open Calc.Arithmetic (exact)

/-! ## Values of the options -/

/-- What the condition is worth where it holds: the result, or the left operand of a
    comparison that has none. -/
def Condition.weight? (options : CompileOptions) : Condition → Option String
  | compare c => some (options.result?.getD c.left)
  | logic _ _ _ => options.result?

/-- The value where the condition fails, which is zero if it is not given. -/
def CompileOptions.otherwiseValue (value : String → Rat) (options : CompileOptions) : Rat :=
  (options.otherwise?.map value).getD 0

/-- All operands and all results that are given have these values. -/
structure Condition.AllValued (value : String → Rat) (options : CompileOptions) (c : Condition) :
    Prop where
  operands : c.Valued exact value
  result : ∀ text ∈ options.result?, evaluateIn exact text = .ok (some (value text))
  otherwise : ∀ text ∈ options.otherwise?, evaluateIn exact text = .ok (some (value text))

/-- The weight is an operand or the result, so it has its value too. -/
theorem Condition.AllValued.weight {value : String → Rat} {options : CompileOptions}
    {c : Condition} (h : c.AllValued value options) {weight : String}
    (hweight : c.weight? options = some weight) :
    evaluateIn exact weight = .ok (some (value weight)) := by
  cases c with
  | logic left op right => exact h.result weight hweight
  | compare c =>
    obtain rfl := Option.some.inj hweight
    cases hresult : options.result? with
    | some result => exact h.result result hresult
    | none => exact h.operands c.left (left_mem_operands (List.mem_singleton_self c))

/-! ## Expressions -/

/-- The text of an expression does not depend on what its parts are worth. -/
theorem Condition.exists_compileTo (c : Condition) (weight : String) (options : CompileOptions) :
    ∃ text, (c.compileTo weight options.otherwise?).value = .expr text ∧
      ∀ value, c.AllValued value options → evaluateIn exact weight = .ok (some (value weight)) →
        evaluateIn exact text = .ok (some (if c.Holds (Comparison.Holds value) then value weight
          else options.otherwiseValue value)) := by
  obtain ⟨result?, otherwise?⟩ := options
  cases otherwise? with
  | none =>
    refine ⟨c.mask weight, rfl, ?_⟩
    intro value hvalued hweight
    exact evaluateIn_eq_ok_iff.mpr (c.denotes_mask_exact value hweight hvalued.operands).sum
  | some otherwise =>
    refine ⟨c.maskElse weight otherwise, rfl, ?_⟩
    intro value hvalued hweight
    have hotherwise := hvalued.otherwise otherwise rfl
    exact evaluateIn_eq_ok_iff.mpr
      (denotes_maskElse_exact hweight hotherwise hvalued.operands).sum

/-- Where there is a weight, compilation gives an expression for it. -/
theorem Condition.exists_compileWith {c : Condition} {options : CompileOptions} {weight : String}
    (h : c.weight? options = some weight) :
    ∃ text, (c.compileWith options).value = .ok (.expr text) ∧
      ∀ value, c.AllValued value options →
        evaluateIn exact text = .ok (some (if c.Holds (Comparison.Holds value) then value weight
          else options.otherwiseValue value)) := by
  have hcompile : (c.compileWith options).value =
      .ok (c.compileTo weight options.otherwise?).value := by
    obtain ⟨result?, otherwise?⟩ := options
    cases c with
    | compare c =>
      obtain rfl := Option.some.inj h
      cases result? <;> rfl
    | logic left op right =>
      obtain rfl : result? = some weight := h
      rfl
  obtain ⟨text, htext, hvalue⟩ := c.exists_compileTo weight options
  refine ⟨text, ?_, ?_⟩
  · rw [hcompile, htext]
  · intro value hvalued
    exact hvalue value hvalued (hvalued.weight h)

/-! ## The three ways to end -/

/-- How a compilation can end. -/
inductive CompileEnding
  | missing
  | kept
  | worth

/-- What each way to end means. -/
def Condition.EndsAs (c : Condition) (options : CompileOptions) : CompileEnding → Prop
  | .missing =>
    options.result? = none ∧
    (∃ left op right, c = logic left op right ∧ (left.isLeaf = true ∨ right.isLeaf = true)) ∧
    ∃ error, (c.compileWith options).value = .error error ∧
      error.message = "compound condition `" ++ c.display ++ "` needs a result expression"
  | .kept =>
    options.result? = none ∧
    (∃ left op right, c = logic left op right ∧ left.isLeaf = false ∧ right.isLeaf = false) ∧
    (c.compileWith options).value = .ok (.tree c)
  | .worth =>
    ∃ weight text, c.weight? options = some weight ∧
      (c.compileWith options).value = .ok (.expr text) ∧
      ∀ value, c.AllValued value options →
        evaluateIn exact text = .ok (some (if c.Holds (Comparison.Holds value) then value weight
          else options.otherwiseValue value))

/-- The way to end that an outcome shows. -/
def CompileEnding.ofOutcome : Except MissingResult Compiled → CompileEnding
  | .error _ => .missing
  | .ok (.tree _) => .kept
  | .ok (.expr _) => .worth

theorem Condition.EndsAs.eq_ofOutcome {c : Condition} {options : CompileOptions}
    {ending : CompileEnding} (h : c.EndsAs options ending) :
    ending = .ofOutcome (c.compileWith options).value := by
  cases ending with
  | missing =>
    obtain ⟨-, -, error, houtcome, -⟩ := h
    rw [houtcome]
    rfl
  | kept =>
    obtain ⟨-, -, houtcome⟩ := h
    rw [houtcome]
    rfl
  | worth =>
    obtain ⟨weight, text, -, houtcome, -⟩ := h
    rw [houtcome]
    rfl

theorem Condition.exists_endsAs (c : Condition) (options : CompileOptions) :
    ∃ ending, c.EndsAs options ending := by
  cases hweight : c.weight? options with
  | some weight =>
    obtain ⟨text, houtcome, hvalue⟩ := exists_compileWith hweight
    exact ⟨.worth, weight, text, hweight, houtcome, hvalue⟩
  | none =>
    -- Only a connective without a result has no weight.
    cases c with
    | compare c => cases hweight
    | logic left op right =>
      obtain ⟨result?, otherwise?⟩ := options
      obtain rfl : result? = none := hweight
      by_cases hleaf : left.isLeaf = true ∨ right.isLeaf = true
      · refine ⟨.missing, rfl, ⟨left, op, right, rfl, hleaf⟩, ⟨logic left op right⟩, ?_, rfl⟩
        simp only [compileWith]
        rw [if_pos (by simpa using hleaf)]
      · rw [not_or, Bool.not_eq_true, Bool.not_eq_true] at hleaf
        refine ⟨.kept, rfl, ⟨left, op, right, rfl, hleaf⟩, ?_⟩
        simp only [compileWith]
        rw [if_neg (by simp [hleaf])]

/-- What is kept is the condition itself. -/
theorem Condition.eq_of_compileWith_tree {c kept : Condition} {options : CompileOptions}
    (h : (c.compileWith options).value = .ok (.tree kept)) : kept = c := by
  obtain ⟨ending, hending⟩ := c.exists_endsAs options
  have hkept := hending.eq_ofOutcome
  rw [h] at hkept
  subst hkept
  obtain ⟨-, -, houtcome⟩ := hending
  rw [h] at houtcome
  cases houtcome
  rfl

/-! ## Compilation with options -/

theorem Condition.weight?_of_result (c : Condition) (result : String)
    (otherwise? : Option String) : c.weight? ⟨some result, otherwise?⟩ = some result := by
  cases c <;> rfl

/-- Compilation ends in exactly one of the three ways. A tree that it keeps is the
    condition as it was. It counts with its truth, and with nothing else, wherever it
    is put into a condition that is compiled with a result. -/
theorem Condition.compileWith_exact (c : Condition) (options : CompileOptions) :
    (∃! ending, c.EndsAs options ending) ∧
    ∀ kept, (c.compileWith options).value = .ok (.tree kept) → kept = c ∧
      ∀ (around : Context) (result : String) (otherwise? : Option String) (value : String → Rat),
        (around.fill kept).AllValued value ⟨some result, otherwise?⟩ →
        ∃ text, ((around.fill kept).compileWith ⟨some result, otherwise?⟩).value =
            .ok (.expr text) ∧
          evaluateIn exact text = .ok (some
            (if around.Holds (Comparison.Holds value) (kept.Holds (Comparison.Holds value))
              then value result
              else CompileOptions.otherwiseValue value ⟨some result, otherwise?⟩)) := by
  constructor
  · obtain ⟨ending, hending⟩ := c.exists_endsAs options
    refine ⟨ending, hending, ?_⟩
    intro other hother
    exact hother.eq_ofOutcome.trans hending.eq_ofOutcome.symm
  · intro kept hkept
    refine ⟨eq_of_compileWith_tree hkept, ?_⟩
    intro around result otherwise? value hvalued
    have hweight := (around.fill kept).weight?_of_result result otherwise?
    obtain ⟨text, houtcome, hvalue⟩ := exists_compileWith hweight
    refine ⟨text, houtcome, ?_⟩
    rw [hvalue value hvalued, if_congr (around.holds_fill_iff _ kept) rfl rfl]

/-- A tree that is kept although the other result is given, on the right of a
    comparison that fails, with a negative result. -/
theorem Condition.compileWith_exact_kept :
    ∃ kept : Condition, (kept.compileWith ⟨none, some "1em"⟩).value = .ok (.tree kept) ∧
      ∃ text, ((logic (compare ⟨"2px", .less, "1px"⟩) .or kept).compileWith
          ⟨some "-3px", none⟩).value = .ok (.expr text) ∧
        evaluateIn exact text = .ok (some (-3)) := by
  let kept : Condition :=
    .logic
      (.logic (.compare ⟨"1px", .less, "2px"⟩) .and (.compare ⟨"1px", .lessEquals, "1px"⟩)) .and
      (.logic (.compare ⟨"2px", .less, "1px"⟩) .or (.compare ⟨"2px", .moreEquals, "1px"⟩))
  let value : String → Rat := fun text => if text = "1px" then 1 else if text = "2px" then 2 else -3
  have htexts : ∀ text ∈ ["1px", "2px", "-3px"],
      evaluateIn exact text = .ok (some (value text)) := by
    simp only [List.forall_mem_cons]
    exact ⟨by with_unfolding_all rfl, by with_unfolding_all rfl, by with_unfolding_all rfl,
      List.forall_mem_nil _⟩
  have hkept : (kept.compileWith ⟨none, some "1em"⟩).value = .ok (.tree kept) := rfl
  have hvalued : (Context.fill kept (.inRight (.compare ⟨"2px", .less, "1px"⟩) .or .hole)).AllValued
      value ⟨some "-3px", none⟩ := by
    refine ⟨?_, ?_, ?_⟩
    · intro text hmem
      have hsubset : ∀ text ∈ Condition.operands (.logic (.compare ⟨"2px", .less, "1px"⟩) .or kept),
          text ∈ ["1px", "2px", "-3px"] := by decide
      exact htexts text (hsubset text hmem)
    · intro text hmem
      cases hmem
      exact htexts "-3px" (by decide)
    · intro text hmem
      cases hmem
  obtain ⟨-, hcounts⟩ := (Condition.compileWith_exact kept ⟨none, some "1em"⟩).2 kept hkept
  obtain ⟨text, houtcome, hvalue⟩ := hcounts _ "-3px" none value hvalued
  refine ⟨kept, hkept, text, houtcome, hvalue.trans ?_⟩
  rw [if_pos (of_decide_eq_true (by with_unfolding_all rfl))]
  rfl

end BranchlessCalc
