/-
  BranchlessCalc.Proofs.Hygiene

  Which of the texts that a compiled condition embeds stay whole in its tree.

  The operands of the comparisons always do, so that parentheses around them
  change nothing. The result does wherever it is an argument, stands in brackets
  or comes first in a sum. But each selector ends with it, bare behind a plus
  sign, and there a result that is itself a sum falls apart into its products.
  So parentheses around the result leave the tree as it is exactly if the result
  has no plus or minus sign at its top level (`Condition.parse_mask_eq_iff`).
-/
import BranchlessCalc.Condition.Compile
import BranchlessCalc.Proofs.Denotation
import BranchlessCalc.Proofs.TemplateTree
import BranchlessCalc.Proofs.Truth

namespace BranchlessCalc

open Calc

/-! ## The trees of conditions -/

/-- The difference that the mask of a comparison decides by. -/
def CompareOp.differenceTree (op : CompareOp) (left right : Expr) : Expr :=
  match op with
  | less | lessEquals => .binary .sub right left
  | more | moreEquals => .binary .sub left right

def Connective.tree (op : Connective) (left right result : Expr) : Expr :=
  match op with
  | or => Expr.held (.binary .add left right) result
  | and => Expr.heldTruncated (.binary .add left right) result

/-- The tree of a condition's mask, from the trees of its operands and of the result
    and from how the result is added. -/
def Condition.tree (operand : String → Expr) (attach : Expr → Expr) (result : Expr) :
    Condition → Expr
  | compare c =>
    Expr.ofDifference attach (c.op.differenceTree (operand c.left) (operand c.right)) result
      c.op.isStrict
  | logic left op right =>
    op.tree (left.tree operand attach result) (right.tree operand attach result) result

/-- The condition with its operands written in another way. -/
def Condition.map (f : String → String) : Condition → Condition
  | compare c => compare ⟨f c.left, c.op, f c.right⟩
  | logic left op right => logic (left.map f) op (right.map f)

theorem Condition.map_id (c : Condition) : c.map id = c := by
  induction c with
  | compare c => rfl
  | logic left op right ihl ihr => rw [map, ihl, ihr]

section Masks

variable {result : String} {x : Expr} {attach : Expr → Expr} (hresult : Spells IsSum result x)
  (hattach : Attaches result x attach)
include hresult hattach

theorem CompareOp.spells_mask {left right : String} {l r : Expr} (op : CompareOp)
    (hleft : Spells IsSum left l) (hright : Spells IsSum right r) :
    Spells IsPrimary (op.mask left right result)
      (Expr.ofDifference attach (op.differenceTree l r) x op.isStrict) := by
  cases op with
  | less | lessEquals => exact Mask.spells_below hleft hright hresult hattach _
  | more | moreEquals => exact Mask.spells_above hleft hright hresult hattach _

/-- The mask is parsed to the tree of the condition, however its operands are written. -/
theorem Condition.spells_mask {f : String → String} {operand : String → Expr} (c : Condition)
    (hoperands : ∀ text ∈ c.operands, Spells IsSum (f text) (operand text)) :
    Spells IsPrimary ((c.map f).mask result) (c.tree operand attach x) := by
  induction c with
  | compare c =>
    have hmem := List.mem_singleton_self c
    apply c.op.spells_mask hresult hattach
    · exact hoperands c.left (left_mem_operands hmem)
    · exact hoperands c.right (right_mem_operands hmem)
  | logic left op right ihl ihr =>
    rw [operands_logic] at hoperands
    have hleft := ihl fun text hmem => hoperands text (List.mem_append_left _ hmem)
    have hright := ihr fun text hmem => hoperands text (List.mem_append_right _ hmem)
    -- Every mask is a call, so the right one is a whole behind the plus sign.
    have hsum := hleft.sum_of_primary.chain_sum .add rfl hright.product_of_primary
    cases op with
    | or => exact Mask.spells_heldSum hresult hsum
    | and => exact Mask.spells_both hresult hsum

theorem Condition.parse_mask_map {f : String → String} {operand : String → Expr} (c : Condition)
    (hoperands : ∀ text ∈ c.operands, Spells IsSum (f text) (operand text)) :
    parse ((c.map f).mask result) = .ok (c.tree operand attach x) :=
  parse_eq_ok_iff_spells.mpr (c.spells_mask hresult hattach hoperands).sum_of_primary

theorem Condition.parse_mask {operand : String → Expr} (c : Condition)
    (hoperands : ∀ text ∈ c.operands, Spells IsSum text (operand text)) :
    parse (c.mask result) = .ok (c.tree operand attach x) := by
  have hmap := c.parse_mask_map (f := id) hresult hattach hoperands
  rwa [map_id] at hmap

end Masks

/-! ## How the result is added

A tree of masks shows what becomes of the result behind a plus sign. -/

theorem Calc.Expr.exists_attach_eq {attach attach' : Expr → Expr} {difference result : Expr}
    {strict : Bool} (h : Expr.ofDifference attach difference result strict =
      Expr.ofDifference attach' difference result strict) :
    ∃ first, attach first = attach' first := by
  cases strict with
  | true =>
    have hargs := (Expr.call.inj h).2
    exact ⟨_, (List.cons.inj hargs).1⟩
  | false =>
    have hdifference := (List.cons.inj (Expr.call.inj h).2).1
    have hargs := (Expr.call.inj (Expr.binary.inj hdifference).2.2).2
    exact ⟨_, (List.cons.inj hargs).1⟩

theorem Connective.left_eq_of_tree_eq {op : Connective} {left left' right right' result : Expr}
    (h : op.tree left right result = op.tree left' right' result) : left = left' := by
  cases op with
  | or =>
    have hsum := (List.cons.inj (List.cons.inj (Expr.call.inj h).2).2).1
    exact (Expr.binary.inj hsum).2.1
  | and =>
    have hround := (List.cons.inj (List.cons.inj (Expr.call.inj h).2).2).1
    have hsum := (List.cons.inj (List.cons.inj (Expr.call.inj hround).2).2).1
    exact (Expr.binary.inj hsum).2.1

/-- Down the left side of a condition there is a comparison, whose mask ends with
    the result. -/
theorem Condition.exists_attach_eq {operand : String → Expr} {attach attach' : Expr → Expr}
    {x : Expr} {c : Condition} (h : c.tree operand attach x = c.tree operand attach' x) :
    ∃ first, attach first = attach' first := by
  induction c with
  | compare c => exact Expr.exists_attach_eq h
  | logic left op right ihl ihr => exact ihl (Connective.left_eq_of_tree_eq h)

/-! ## Parentheses -/

/-- A text in parentheses. -/
def Calc.bracketed (text : String) : String :=
  "(" ++ text ++ ")"

theorem Calc.Spells.bracketed {text : String} {x : Expr} (h : Spells IsSum text x) :
    Spells IsSum (bracketed text) x :=
  h.group.sum_of_primary

theorem Calc.isProductText_bracketed {text : String} {x : Expr} (h : Spells IsSum text x) :
    IsProductText (bracketed text) :=
  ⟨x, h.group.product_of_primary⟩

theorem Condition.parse_mask_eq_iff {result : String} {x : Expr} {operand : String → Expr}
    (c : Condition) (hresult : Spells IsSum result x)
    (hoperands : ∀ text ∈ c.operands, Spells IsSum text (operand text)) :
    parse (c.mask result) = parse ((c.map bracketed).mask (bracketed result)) ↔
      IsProductText result := by
  obtain ⟨attach, hattach⟩ := hresult.attaches
  obtain ⟨attach', hattach'⟩ := hresult.bracketed.attaches
  -- In parentheses the result is added as a whole.
  have hwhole : ∀ first, attach' first = .binary .add first x := fun first =>
    (hattach'.whole_iff first).mpr (isProductText_bracketed hresult)
  have hbracketed : ∀ text ∈ c.operands, Spells IsSum (Calc.bracketed text) (operand text) :=
    fun text hmem => (hoperands text hmem).bracketed
  rw [c.parse_mask hresult hattach hoperands,
    c.parse_mask_map hresult.bracketed hattach' hbracketed, Except.ok.injEq]
  constructor
  · intro htree
    obtain ⟨first, hfirst⟩ := exists_attach_eq htree
    exact (hattach.whole_iff first).mp (hfirst.trans (hwhole first))
  · intro hproduct
    have hequal : attach = attach' := by
      funext first
      rw [hwhole first, (hattach.whole_iff first).mpr hproduct]
    rw [hequal]

/-! ## Compiled conditions -/

/-- The tree of a compiled condition. All operands are whole in it, so that
    parentheses around them change nothing, and so is the result but where it is
    added. Parentheses around the result change nothing exactly if the result has
    no plus or minus sign at its top level. -/
theorem Condition.compile_hygienic_iff (c : Condition) (result : String)
    (hresult : ∃ tree, parse result = .ok tree)
    (hoperands : ∀ text ∈ c.operands, ∃ tree, parse text = .ok tree) :
    (∃ operand attach x, (∀ text ∈ c.operands, parse text = .ok (operand text)) ∧
      parse result = .ok x ∧ (∀ first, AddsOnto first x (attach first)) ∧
      parse (c.compile result).value = .ok (c.tree operand attach x) ∧
      parse ((c.map bracketed).compile result).value = .ok (c.tree operand attach x)) ∧
    (parse (c.compile result).value =
        parse ((c.map bracketed).compile (bracketed result)).value ↔
      IsProductText result) := by
  obtain ⟨x, hx⟩ := hresult
  obtain ⟨operand, hoperand⟩ := exists_forall_mem hoperands
  have hresult' : Spells IsSum result x := parse_eq_ok_iff_spells.mp hx
  have hspells : ∀ text ∈ c.operands, Spells IsSum text (operand text) := fun text hmem =>
    parse_eq_ok_iff_spells.mp (hoperand text hmem)
  obtain ⟨attach, hattach⟩ := hresult'.attaches
  refine ⟨⟨operand, attach, x, hoperand, hx, hattach.addsOnto, ?_, ?_⟩, ?_⟩
  · exact c.parse_mask hresult' hattach hspells
  · exact c.parse_mask_map hresult' hattach fun text hmem => (hspells text hmem).bracketed
  · exact c.parse_mask_eq_iff hresult' hspells

/-- Operands that are sums, and a result that is a product. -/
theorem Condition.compile_hygienic_product :
    (∃ tree, parse "2px * 3" = .ok tree) ∧
    (∀ text ∈ ["1px + 2px", "4px - 1px", "-(1px)", "0px"], ∃ tree, parse text = .ok tree) ∧
    parse ((Condition.logic (.compare ⟨"1px + 2px", .lessEquals, "4px - 1px"⟩) .and
        (.compare ⟨"-(1px)", .more, "0px"⟩)).compile "2px * 3").value =
      parse ((Condition.logic (.compare ⟨"(1px + 2px)", .lessEquals, "(4px - 1px)"⟩) .and
        (.compare ⟨"(-(1px))", .more, "(0px)"⟩)).compile "(2px * 3)").value := by
  have hresult : ∃ tree, parse "2px * 3" = .ok tree :=
    ⟨.binary .mul (.number ⟨⟨2, 0⟩, .px⟩) (.number ⟨⟨3, 0⟩, .unitless⟩), by with_unfolding_all rfl⟩
  have hoperands : ∀ text ∈ ["1px + 2px", "4px - 1px", "-(1px)", "0px"],
      ∃ tree, parse text = .ok tree := by
    simp only [List.forall_mem_cons]
    exact ⟨
      ⟨.binary .add (.number ⟨⟨1, 0⟩, .px⟩) (.number ⟨⟨2, 0⟩, .px⟩), by with_unfolding_all rfl⟩,
      ⟨.binary .sub (.number ⟨⟨4, 0⟩, .px⟩) (.number ⟨⟨1, 0⟩, .px⟩), by with_unfolding_all rfl⟩,
      ⟨.neg (.number ⟨⟨1, 0⟩, .px⟩), by with_unfolding_all rfl⟩,
      ⟨.number ⟨⟨0, 0⟩, .px⟩, by with_unfolding_all rfl⟩,
      List.forall_mem_nil _⟩
  have htwo : Spells IsPrimary "2px" (.number ⟨⟨2, 0⟩, .px⟩) := .number (scan_token rfl rfl rfl)
  have hthree : Spells IsPrimary "3" (.number ⟨⟨3, 0⟩, .unitless⟩) :=
    .number (scan_token rfl rfl rfl)
  have hproduct : IsProductText "2px * 3" :=
    ⟨_, htwo.product_of_primary.chain_product .mul rfl hthree.signed⟩
  refine ⟨hresult, hoperands, ?_⟩
  exact (Condition.compile_hygienic_iff
    (.logic (.compare ⟨"1px + 2px", .lessEquals, "4px - 1px"⟩) .and
      (.compare ⟨"-(1px)", .more, "0px"⟩)) "2px * 3" hresult hoperands).2.mpr hproduct

/-- A result that is a sum is taken apart, and parentheses around it keep it whole. -/
theorem Condition.compile_sum_taken_apart :
    (∃ tree, parse "0.1px + 0.2px" = .ok tree) ∧
    (∀ text ∈ ["0px", "1px"], ∃ tree, parse text = .ok tree) ∧
    parse ((Condition.compare ⟨"0px", .more, "1px"⟩).compile "0.1px + 0.2px").value ≠
      parse ((Condition.compare ⟨"(0px)", .more, "(1px)"⟩).compile "(0.1px + 0.2px)").value := by
  have hzero : Spells IsPrimary "0px" (.number ⟨⟨0, 0⟩, .px⟩) := .number (scan_token rfl rfl rfl)
  have hone : Spells IsPrimary "1px" (.number ⟨⟨1, 0⟩, .px⟩) := .number (scan_token rfl rfl rfl)
  have hleft : Spells IsPrimary "0.1px" (.number ⟨⟨1, -1⟩, .px⟩) :=
    .number (scan_token rfl rfl rfl)
  have hright : Spells IsPrimary "0.2px" (.number ⟨⟨2, -1⟩, .px⟩) :=
    .number (scan_token rfl rfl rfl)
  have hsum := hleft.sum_of_primary.chain_sum .add rfl hright.product_of_primary
  have hoperands : ∀ text ∈ ["0px", "1px"], ∃ tree, Spells IsSum text tree := by
    simp only [List.forall_mem_cons]
    exact ⟨⟨_, hzero.sum_of_primary⟩, ⟨_, hone.sum_of_primary⟩, List.forall_mem_nil _⟩
  obtain ⟨operand, hoperand⟩ := exists_forall_mem hoperands
  refine ⟨⟨_, parse_eq_ok_iff_spells.mpr hsum⟩, ?_, ?_⟩
  · intro text hmem
    exact ⟨_, parse_eq_ok_iff_spells.mpr (hoperand text hmem)⟩
  · intro hequal
    have hproduct := (Condition.parse_mask_eq_iff (.compare ⟨"0px", .more, "1px"⟩) hsum
      hoperand).mp hequal
    exact not_isProductText_chain .add rfl hleft.sum_of_primary hright.product_of_primary hproduct

end BranchlessCalc
