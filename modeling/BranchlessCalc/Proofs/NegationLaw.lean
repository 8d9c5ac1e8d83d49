/-
  BranchlessCalc.Proofs.NegationLaw

  To reverse a condition and to exchange its two results is to exchange the two
  terms of a sum.

  Comparisons and connectives take different ways to an else branch, but both
  spell the same sum of masks, and reversing twice changes nothing. So the two
  texts have the same two terms, character by character, and their values agree
  wherever addition commutes. It does for doubles, infinite ones included.
-/
import BranchlessCalc.Proofs.ErrorOrder

namespace BranchlessCalc

open Calc
open Calc.Arithmetic (erased double)

/-! ## Reversing twice -/

theorem CompareOp.reverse_reverse (op : CompareOp) : op.reverse.reverse = op := by
  cases op <;> rfl

theorem Connective.dual_dual (op : Connective) : op.dual.dual = op := by
  cases op <;> rfl

theorem Comparison.reverse_reverse (c : Comparison) : c.reverse.reverse = c := by
  obtain ⟨left, op, right⟩ := c
  show Comparison.mk left op.reverse.reverse right = _
  rw [CompareOp.reverse_reverse]

theorem Condition.reverse_reverse (c : Condition) : c.reverse.reverse = c := by
  induction c with
  | compare c => rw [reverse, reverse, Comparison.reverse_reverse]
  | logic left op right ihl ihr => rw [reverse, reverse, ihl, ihr, Connective.dual_dual]

/-! ## Addition of doubles -/

open Float.Model in
theorem Calc.unpackedFloat_add_comm (format : Format) (x y : UnpackedFloat) :
    UnpackedFloat.add format x y = UnpackedFloat.add format y x := by
  cases x with
  | notANumber => cases y <;> rfl
  | infinity s =>
    cases y with
    | infinity t => cases s <;> cases t <;> rfl
    | notANumber | zero _ | finite _ _ _ _ => rfl
  | zero s =>
    cases y with
    | zero t => cases s <;> cases t <;> rfl
    | notANumber | infinity _ | finite _ _ _ _ => rfl
  | finite s m e hm =>
    cases y with
    | finite t n k hn =>
      -- Both mantissas are brought to the smaller exponent before they are added.
      show UnpackedFloat.normalize format (s.apply _ + t.apply _) (min e k) _ =
        UnpackedFloat.normalize format (t.apply _ + s.apply _) (min k e) _
      rw [min_comm e k, add_comm (s.apply _)]
    | notANumber | infinity _ | zero _ => rfl

theorem Calc.double_add_comm (x y : Float) : double.add x y = double.add y x := by
  show Float.ofModel (.pack (.add .binary64 x.toModel.unpack y.toModel.unpack)) =
    Float.ofModel (.pack (.add .binary64 y.toModel.unpack x.toModel.unpack))
  rw [unpackedFloat_add_comm]

/-! ## Values -/

section Values

variable {α : Type} {A : Arithmetic α} {P : List Token → Expr → Prop} {text : String}

theorem Calc.Denotes.erase {u : Except EvalError α} (h : Denotes A P text u) :
    Denotes erased P text (Calc.erase u) := by
  obtain ⟨tree, hspells, rfl⟩ := h
  exact ⟨tree, hspells, (tree.eval_erase A).symm⟩

/-- What evaluates without an error has a value in every arithmetic. -/
theorem Calc.Denotes.exists_of_erased (h : Denotes erased P text (.ok ())) :
    ∃ x, Denotes A P text (.ok x) := by
  obtain ⟨tree, hspells, heval⟩ := h
  rw [← tree.eval_erase A, erase_eq_ok_iff] at heval
  obtain ⟨x, hx⟩ := heval
  exact ⟨x, tree, hspells, hx⟩

theorem Condition.exists_denotes_mask {result : String} (c : Condition)
    (hresult : ∃ x, evaluateIn A result = .ok x)
    (hoperands : ∀ text ∈ c.operands, ∃ x, evaluateIn A text = .ok x) :
    ∃ x, Denotes A IsPrimary (c.mask result) (.ok x) := by
  have herase : ∀ {text}, (∃ x, evaluateIn A text = .ok x) → Denotes erased IsSum text (.ok ()) := by
    rintro text ⟨x, hx⟩
    exact (evaluateIn_eq_ok_iff.mp hx).erase
  have hmask : Denotes erased IsPrimary (c.mask result)
      (forM (result :: c.evaluated) fun _ => .ok ()) :=
    c.denotes_mask_erased (herase hresult) fun text hmem => herase (hoperands text hmem)
  rw [forM_eq_ok_iff.mpr fun _ _ => rfl] at hmask
  exact hmask.exists_of_erased

/-- The two terms are the same on both sides, each with its value. -/
theorem Condition.exists_evaluateIn_compileElse (hcomm : ∀ x y, A.add x y = A.add y x)
    {result otherwise : String} (c : Condition)
    (htexts : ∀ text ∈ result :: otherwise :: c.operands, ∃ x, evaluateIn A text = .ok x) :
    ∃ x, evaluateIn A (c.compileElse result otherwise).value = .ok x ∧
      evaluateIn A (c.reverse.compileElse otherwise result).value = .ok x := by
  obtain ⟨hresult, hrest⟩ := List.forall_mem_cons.mp htexts
  obtain ⟨hotherwise, hoperands⟩ := List.forall_mem_cons.mp hrest
  obtain ⟨x, hx⟩ := c.exists_denotes_mask hresult hoperands
  obtain ⟨y, hy⟩ := c.reverse.exists_denotes_mask hotherwise (by rwa [operands_reverse])
  have hdirect := Mask.denotes_branch hx.sum hy.product
  have hreversed := Mask.denotes_branch hy.sum hx.product
  refine ⟨A.add x y, ?_, ?_⟩
  · rw [compileElse, maskElse_eq]
    exact evaluateIn_eq_ok_iff.mpr hdirect.sum
  · rw [compileElse, maskElse_eq, reverse_reverse]
    exact evaluateIn_eq_ok_iff.mpr (hreversed.sum.congr rfl (congrArg Except.ok (hcomm y x)))

end Values

/-- The else branch is the sum of two masks, and reversing the condition while
    exchanging its results exchanges them, character by character. Hence the two
    have the same value in every arithmetic whose addition commutes, and in
    particular in doubles. -/
theorem Condition.compileElse_reverse (c : Condition) (result otherwise : String) :
    (c.compileElse result otherwise).value =
      "calc(" ++ (c.compile result).value ++ " + " ++ (c.reverse.compile otherwise).value ++ ")" ∧
    (c.reverse.compileElse otherwise result).value =
      "calc(" ++ (c.reverse.compile otherwise).value ++ " + " ++ (c.compile result).value ++ ")" ∧
    (∀ {α : Type} (A : Arithmetic α), (∀ x y, A.add x y = A.add y x) →
      (∀ text ∈ result :: otherwise :: c.operands, ∃ x, evaluateIn A text = .ok x) →
      ∃ x, evaluateIn A (c.compileElse result otherwise).value = .ok x ∧
        evaluateIn A (c.reverse.compileElse otherwise result).value = .ok x) ∧
    ((∀ text ∈ result :: otherwise :: c.operands, ∃ x, evaluate text = .ok x) →
      ∃ x, evaluate (c.compileElse result otherwise).value = .ok x ∧
        evaluate (c.reverse.compileElse otherwise result).value = .ok x) := by
  refine ⟨c.maskElse_eq result otherwise, ?_, ?_, ?_⟩
  · have hreverse := c.reverse.maskElse_eq otherwise result
    rw [reverse_reverse] at hreverse
    exact hreverse
  · intro α A hcomm htexts
    exact c.exists_evaluateIn_compileElse hcomm htexts
  · intro htexts
    exact c.exists_evaluateIn_compileElse double_add_comm htexts

/-- Doubles with an infinite result and a difference too small to be resolved. -/
theorem Condition.compileElse_reverse_infinite :
    (∀ text ∈ ["1px / 0", "1rem", "0.0000000000000001px", "0px"], ∃ x, evaluate text = .ok x) ∧
    ∃ x, evaluate ((Condition.compare ⟨"0.0000000000000001px", .more, "0px"⟩).compileElse
        "1px / 0" "1rem").value = .ok x ∧
      evaluate ((Condition.compare ⟨"0.0000000000000001px", .lessEquals, "0px"⟩).compileElse
        "1rem" "1px / 0").value = .ok x := by
  -- Whether a text has a value does not depend on the numbers.
  have hvalue : ∀ {text : String}, evaluateIn erased text = .ok () → ∃ x, evaluate text = .ok x := by
    intro text htext
    rw [← evaluateIn_erase double, erase_eq_ok_iff] at htext
    exact htext
  have htexts : ∀ text ∈ ["1px / 0", "1rem", "0.0000000000000001px", "0px"],
      ∃ x, evaluate text = .ok x := by
    simp only [List.forall_mem_cons]
    exact ⟨hvalue (by with_unfolding_all rfl), hvalue (by with_unfolding_all rfl),
      hvalue (by with_unfolding_all rfl), hvalue (by with_unfolding_all rfl), nofun⟩
  obtain ⟨-, -, -, hdouble⟩ := Condition.compileElse_reverse
    (.compare ⟨"0.0000000000000001px", .more, "0px"⟩) "1px / 0" "1rem"
  exact ⟨htexts, hdouble htexts⟩

end BranchlessCalc
