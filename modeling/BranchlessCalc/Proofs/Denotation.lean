/-
  BranchlessCalc.Proofs.Denotation

  Texts with a value in an arithmetic, and how values are put together as the
  texts are.

  `Denotes A P text outcome` says that the text is a phrase of kind `P` and what
  its evaluation in `A` gives: a number or the error it stops with. The lemmas
  below follow the evaluator and keep errors as they are. A sum may follow a
  plus sign as a whole (`Addend`) if it is a product, or if the arithmetic lets
  sums be regrouped.
-/
import BranchlessCalc.Calc.Eval
import BranchlessCalc.Proofs.Phrase

namespace BranchlessCalc.Calc

variable {α : Type} {A : Arithmetic α}

/-- A phrase of kind `P` whose evaluation in `A` has this outcome. -/
def Denotes (A : Arithmetic α) (P : List Token → Expr → Prop) (text : String)
    (outcome : Except EvalError α) : Prop :=
  ∃ tree, Spells P text tree ∧ tree.eval A = outcome

/-- A text has a value exactly if it is a sum that denotes this value. -/
theorem evaluateIn_eq_ok_iff {text : String} {value : α} :
    evaluateIn A text = .ok value ↔ Denotes A IsSum text (.ok value) := by
  constructor
  · intro h
    rw [evaluateIn] at h
    cases hparse : parse text with
    | error error => simp [hparse] at h
    | ok tree =>
      simp only [hparse] at h
      refine ⟨tree, parse_eq_ok_iff_spells.mp hparse, ?_⟩
      cases heval : tree.eval A with
      | error error =>
        rw [heval] at h
        cases h
      | ok value' =>
        rw [heval] at h
        exact congrArg Except.ok (Except.ok.inj h)
  · rintro ⟨tree, hspells, heval⟩
    rw [evaluateIn, parse_eq_ok_iff_spells.mpr hspells]
    show (tree.eval A).mapError CalcError.eval = .ok value
    rw [heval]
    rfl

/-- The value of a text can be checked without a look at errors. -/
theorem evaluateIn_of_toOption {text : String} {value : α}
    (h : (evaluateIn A text).toOption = some value) : evaluateIn A text = .ok value := by
  cases heval : evaluateIn A text with
  | error error =>
    rw [heval] at h
    cases h
  | ok value' =>
    rw [heval] at h
    exact congrArg Except.ok (Option.some.inj h)

/-- Where each of some texts has what is asked of it, there is one function that
    gives it for all of them. -/
theorem exists_forall_mem {β : Type} [Nonempty β] {P : String → β → Prop} {texts : List String}
    (h : ∀ text ∈ texts, ∃ x, P text x) : ∃ f : String → β, ∀ text ∈ texts, P text (f text) := by
  have hchoice : ∀ text, ∃ x, text ∈ texts → P text x := by
    intro text
    by_cases hmem : text ∈ texts
    · obtain ⟨x, hx⟩ := h text hmem
      exact ⟨x, fun _ => hx⟩
    · exact ⟨Classical.ofNonempty, fun hmem' => absurd hmem' hmem⟩
  exact Classical.skolem.mp hchoice

namespace Denotes

variable {a b c text : String} {u v w : Except EvalError α}

theorem congr {P : List Token → Expr → Prop} (h : Denotes A P a u) (htext : text = a)
    (houtcome : u = v) : Denotes A P text v :=
  htext ▸ houtcome ▸ h

/-! ## Kinds of phrases -/

theorem signed (h : Denotes A IsPrimary a u) : Denotes A IsSigned a u :=
  h.imp fun _ h => ⟨h.1.signed, h.2⟩

theorem product (h : Denotes A IsPrimary a u) : Denotes A IsProduct a u :=
  h.imp fun _ h => ⟨h.1.signed.product, h.2⟩

theorem sum_of_product (h : Denotes A IsProduct a u) : Denotes A IsSum a u :=
  h.imp fun _ h => ⟨h.1.sum, h.2⟩

theorem sum (h : Denotes A IsPrimary a u) : Denotes A IsSum a u :=
  h.product.sum_of_product

/-! ## Operators and functions -/

theorem group (h : Denotes A IsSum a u) : Denotes A IsPrimary ("(" ++ a ++ ")") u := by
  obtain ⟨tree, hspells, rfl⟩ := h
  exact ⟨_, hspells.group, rfl⟩

theorem add (ha : Denotes A IsSum a u) (hb : Denotes A IsProduct b v) :
    Denotes A IsSum (a ++ " + " ++ b) (do return A.add (← u) (← v)) := by
  obtain ⟨x, hx, rfl⟩ := ha
  obtain ⟨y, hy, rfl⟩ := hb
  exact ⟨.binary .add x y, hx.chain_sum .add rfl hy, rfl⟩

theorem sub (ha : Denotes A IsSum a u) (hb : Denotes A IsProduct b v) :
    Denotes A IsSum (a ++ " - " ++ b) (do return A.sub (← u) (← v)) := by
  obtain ⟨x, hx, rfl⟩ := ha
  obtain ⟨y, hy, rfl⟩ := hb
  exact ⟨.binary .sub x y, hx.chain_sum .sub rfl hy, rfl⟩

theorem call_calc (h : Denotes A IsSum a u) : Denotes A IsPrimary ("calc(" ++ a ++ ")") u := by
  obtain ⟨x, hx, rfl⟩ := h
  exact ⟨.call "calc" [x], hx.call_calc, rfl⟩

theorem extremum (function : Extremum) (ha : Denotes A IsSum a u) (hb : Denotes A IsSum b v) :
    Denotes A IsPrimary (function.name ++ "(" ++ a ++ ", " ++ b ++ ")")
      (do return function.apply A (← u) (← v)) := by
  obtain ⟨x, hx, rfl⟩ := ha
  obtain ⟨y, hy, rfl⟩ := hb
  exact ⟨.extremum function x y, hx.extremum function hy, eval_extremum x y function⟩

end Denotes

/-! ## Sums behind a plus sign -/

/-- A text that is added as a whole to whatever sum stands in front of it. -/
def Addend (A : Arithmetic α) (text : String) (outcome : Except EvalError α) : Prop :=
  ∀ ⦃first : String⦄ ⦃u : Except EvalError α⦄, Denotes A IsSum first u →
    Denotes A IsSum (first ++ " + " ++ text) (do return A.add (← u) (← outcome))

/-- Adding a sum is adding its terms one by one. -/
structure Arithmetic.Regroups (A : Arithmetic α) : Prop where
  add_add : ∀ x y z, A.add x (A.add y z) = A.add (A.add x y) z
  add_sub : ∀ x y z, A.add x (A.sub y z) = A.sub (A.add x y) z

/-- Regrouping carries over to outcomes: the three operands are evaluated in one
    order on both sides, so the first error is the same. -/
theorem regroup_outcomes {f g h : α → α → α} (hregroup : ∀ x y z, f x (h y z) = g (f x y) z)
    (u v w : Except EvalError α) :
    (do return g (← (do return f (← u) (← v))) (← w)) =
      (do return f (← u) (← (do return h (← v) (← w))) : Except EvalError α) := by
  cases u with
  | error e => rfl
  | ok x =>
    cases v with
    | error e => rfl
    | ok y =>
      cases w with
      | error e => rfl
      | ok z => exact congrArg Except.ok (hregroup x y z).symm

theorem AddsOnto.eval (hA : A.Regroups) {first sum tree : Expr} (h : AddsOnto first sum tree) :
    tree.eval A = do return A.add (← first.eval A) (← sum.eval A) := by
  -- By induction on the terms of the sum, whose last one stands outermost in both trees.
  induction h with
  | product tree => rfl
  | @chain op left right tree hop hadds ih =>
    cases op with
    | add =>
      simp only [Expr.eval, ih]
      exact regroup_outcomes hA.add_add _ _ _
    | sub =>
      simp only [Expr.eval, ih]
      exact regroup_outcomes hA.add_sub _ _ _
    | mul | div => cases hop

/-- A sum that is spelled as a product denotes as one. -/
theorem Denotes.product_of_isProductText {text : String} {u : Except EvalError α}
    (h : Denotes A IsSum text u) (htext : IsProductText text) : Denotes A IsProduct text u := by
  obtain ⟨tree, hspells, heval⟩ := h
  obtain ⟨tree', hproduct⟩ := htext
  -- A text has one tree, so the product is the sum that was evaluated.
  obtain rfl := hspells.unique hproduct.sum
  exact ⟨tree, hproduct, heval⟩

theorem Denotes.addend_of_product {text : String} {u : Except EvalError α}
    (h : Denotes A IsProduct text u) : Addend A text u :=
  fun _ _ hfirst => hfirst.add h

theorem Denotes.addend_of_regroups (hA : A.Regroups) {text : String} {u : Except EvalError α}
    (h : Denotes A IsSum text u) : Addend A text u := by
  rintro first v ⟨x, hx, rfl⟩
  obtain ⟨y, hy, rfl⟩ := h
  obtain ⟨attach, hattach⟩ := hy.attaches
  exact ⟨attach x, hattach.spells hx, (hattach.addsOnto x).eval hA⟩

end BranchlessCalc.Calc
