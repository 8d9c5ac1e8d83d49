/-
  BranchlessCalc.Proofs.ErrorOrder

  Whether a compiled text can be evaluated, and which error it stops with.

  No error depends on a number. So errors are studied in an arithmetic that has
  no numbers at all (`Arithmetic.erased`): evaluation there says what is left of
  an evaluation in any other arithmetic when its numbers are erased
  (`Expr.eval_erase`). A compiled text embeds each of its parts many times, yet
  its outcome is that of the parts evaluated once each, one after the other
  (`Condition.denotes_mask_erased`): what was evaluated before is never the
  first to fail.
-/
import BranchlessCalc.Proofs.ExactCompile

namespace BranchlessCalc

namespace Calc

/-! ## Evaluation without numbers -/

/-- The arithmetic that computes nothing. -/
def Arithmetic.erased : Arithmetic Unit where
  literal _ := ()
  remPixels := ()
  neg _ := ()
  abs _ := ()
  add _ _ := ()
  sub _ _ := ()
  mul _ _ := ()
  div _ _ := ()
  min _ _ := ()
  max _ _ := ()
  whole _ _ := ()

open Arithmetic (erased)

theorem erased_regroups : erased.Regroups where
  add_add _ _ _ := rfl
  add_sub _ _ _ := rfl

/-- An outcome without its number. -/
def erase {ε α : Type} : Except ε α → Except ε Unit
  | .ok _ => .ok ()
  | .error error => .error error

theorem erase_eq_ok_iff {ε α : Type} {outcome : Except ε α} :
    erase outcome = .ok () ↔ ∃ x, outcome = .ok x := by
  cases outcome with
  | ok x => exact iff_of_true rfl ⟨x, rfl⟩
  | error error =>
    refine iff_of_false (fun h => by cases h) ?_
    rintro ⟨x, ⟨⟩⟩

theorem erase_eq_error_iff {ε α : Type} {outcome : Except ε α} {error : ε} :
    erase outcome = .error error ↔ outcome = .error error := by
  cases outcome with
  | ok x => exact iff_of_false (fun h => by cases h) (fun h => by cases h)
  | error error' => rw [erase, Except.error.injEq, Except.error.injEq]

section Erase

variable {α : Type} (A : Arithmetic α)

theorem erase_two (f : α → α → α) (g : Unit → Unit → Unit) (u v : Except EvalError α) :
    erase (do return f (← u) (← v)) = (do return g (← erase u) (← erase v)) := by
  cases u <;> cases v <;> rfl

theorem erase_roundBy (strategy : String) (u v : Except EvalError α) :
    erase (do roundBy A strategy (← u) (← v)) =
      (do roundBy erased strategy (← erase u) (← erase v)) := by
  cases u with
  | error error => rfl
  | ok x =>
    cases v with
    | error error => rfl
    | ok y =>
      show erase (roundBy A strategy x y) = roundBy erased strategy () ()
      unfold roundBy
      cases Rounding.ofName? strategy <;> rfl

theorem Expr.call_erase {function : String} {args : List Expr}
    (hargs : ∀ arg ∈ args, erase (arg.eval A) = arg.eval erased) :
    erase ((Expr.call function args).eval A) = (Expr.call function args).eval erased := by
  cases callForm function args with
  | group x =>
    rw [eval_calc, eval_calc]
    exact hargs x (by simp)
  | extremum function x y =>
    rw [eval_extremum, eval_extremum, ← hargs x (by simp), ← hargs y (by simp)]
    exact erase_two (function.apply A) (function.apply erased) _ _
  | clamp x y z =>
    rw [eval_clamp, eval_clamp, ← hargs x (by simp), ← hargs y (by simp), ← hargs z (by simp)]
    cases x.eval A <;> cases y.eval A <;> cases z.eval A <;> rfl
  | round strategy x y =>
    rw [eval_roundBy, eval_roundBy, ← hargs x (by simp), ← hargs y (by simp)]
    exact erase_roundBy A strategy _ _
  | refused error hrefused =>
    rw [hrefused, hrefused]
    rfl

theorem Expr.eval_erase (tree : Expr) : erase (tree.eval A) = tree.eval erased := by
  induction tree using Expr.inductionOnArgs with
  | number value => rfl
  | name text => rfl
  | neg operand ih =>
    rw [Expr.eval, Expr.eval, ← ih]
    cases operand.eval A <;> rfl
  | binary op left right ihl ihr =>
    rw [Expr.eval, Expr.eval, ← ihl, ← ihr]
    exact erase_two (op.apply A) (op.apply erased) _ _
  | call function args ih => exact Expr.call_erase A ih

end Erase

/-! ## Texts one after the other -/

section Sequence

variable {ε : Type} {f : String → Except ε Unit}

theorem forM_cons_of_ok {text : String} (h : f text = .ok ()) (rest : List String) :
    forM (text :: rest) f = forM rest f := by
  rw [List.forM_cons, h]
  rfl

theorem forM_cons_of_error {text : String} {error : ε} (h : f text = .error error)
    (rest : List String) : forM (text :: rest) f = .error error := by
  rw [List.forM_cons, h]
  rfl

theorem forM_eq_ok_iff {texts : List String} :
    forM texts f = .ok () ↔ ∀ text ∈ texts, f text = .ok () := by
  induction texts with
  | nil => exact iff_of_true rfl nofun
  | cons text rest ih =>
    rw [List.forall_mem_cons]
    cases htext : f text with
    | error error =>
      rw [forM_cons_of_error htext]
      exact iff_of_false nofun (fun h => nomatch h.1)
    | ok _ =>
      rw [forM_cons_of_ok htext, ih]
      exact (and_iff_right rfl).symm

/-- The first text that fails decides. -/
theorem forM_eq_error_iff {texts : List String} {error : ε} :
    forM texts f = .error error ↔ ∃ before text after, texts = before ++ text :: after ∧
      (∀ earlier ∈ before, f earlier = .ok ()) ∧ f text = .error error := by
  constructor
  · intro h
    induction texts with
    | nil => cases h
    | cons text rest ih =>
      cases htext : f text with
      | error error' =>
        rw [forM_cons_of_error htext] at h
        exact ⟨[], text, rest, rfl, nofun, htext.trans h⟩
      | ok _ =>
        rw [forM_cons_of_ok htext] at h
        obtain ⟨before, next, after, rfl, hbefore, hnext⟩ := ih h
        exact ⟨text :: before, next, after, rfl, List.forall_mem_cons.mpr ⟨htext, hbefore⟩, hnext⟩
  · rintro ⟨before, text, after, rfl, hbefore, htext⟩
    rw [List.forM_append, forM_eq_ok_iff.mpr hbefore]
    exact forM_cons_of_error htext after

/-- A text that was evaluated before is not the first to fail. -/
theorem forM_absorb {first again : List String} (h : ∀ text ∈ again, text ∈ first)
    (rest : List String) : forM (first ++ (again ++ rest)) f = forM (first ++ rest) f := by
  rw [List.forM_append, List.forM_append, List.forM_append]
  cases hfirst : forM first f with
  | error error => rfl
  | ok _ =>
    have hagain : forM again f = .ok () :=
      forM_eq_ok_iff.mpr fun text hmem => forM_eq_ok_iff.mp hfirst text (h text hmem)
    rw [hagain]
    rfl

theorem forM_mapError {ε' : Type} {k : ε → ε'} {g : String → Except ε' Unit}
    {texts : List String} (h : ∀ text ∈ texts, g text = (f text).mapError k) :
    forM texts g = (forM texts f).mapError k := by
  induction texts with
  | nil => rfl
  | cons text rest ih =>
    obtain ⟨htext, hrest⟩ := List.forall_mem_cons.mp h
    cases hf : f text with
    | error error =>
      rw [hf] at htext
      rw [forM_cons_of_error hf, forM_cons_of_error htext]
      rfl
    | ok _ =>
      rw [hf] at htext
      rw [forM_cons_of_ok hf, forM_cons_of_ok htext, ih hrest]

end Sequence

/-! ## Transparent texts -/

section Transparent

variable {α : Type} {A : Arithmetic α} {text : String} {parts : List String}

/-- What the evaluation of a text in any arithmetic comes to without its number. -/
theorem evaluateIn_erase (A : Arithmetic α) (text : String) :
    erase (evaluateIn A text) = evaluateIn erased text := by
  rw [evaluateIn, evaluateIn]
  cases parse text with
  | error error => rfl
  | ok tree =>
    show erase ((tree.eval A).mapError CalcError.eval) = (tree.eval erased).mapError .eval
    rw [← tree.eval_erase A]
    cases tree.eval A <;> rfl

theorem Denotes.erase_evaluateIn {u : Except EvalError Unit} (h : Denotes erased IsSum text u) :
    erase (evaluateIn A text) = u.mapError .eval := by
  obtain ⟨tree, hspells, rfl⟩ := h
  rw [evaluateIn_erase, evaluateIn, parse_eq_ok_iff_spells.mpr hspells]

/-- The errors of a text are the same in all arithmetics. -/
theorem evaluateIn_eq_error_iff {β : Type} (A : Arithmetic α) (B : Arithmetic β) {text : String}
    {error : CalcError} : evaluateIn A text = .error error ↔ evaluateIn B text = .error error := by
  rw [← erase_eq_error_iff, evaluateIn_erase, ← evaluateIn_erase B, erase_eq_error_iff]

/-- The text can be parsed. It has a value exactly if all its parts do, and else
    its error is that of the first part that fails. -/
structure Transparent (A : Arithmetic α) (text : String) (parts : List String) : Prop where
  parses : ∃ tree, parse text = .ok tree
  value_iff : (∃ x, evaluateIn A text = .ok x) ↔ ∀ part ∈ parts, ∃ x, evaluateIn A part = .ok x
  error_iff : ∀ error, evaluateIn A text = .error error ↔
    ∃ before part after, parts = before ++ part :: after ∧
      (∀ earlier ∈ before, ∃ x, evaluateIn A earlier = .ok x) ∧
      evaluateIn A part = .error error

theorem Transparent.of_denotes {outcome : String → Except EvalError Unit}
    (hparts : ∀ part ∈ parts, Denotes erased IsSum part (outcome part))
    (htext : Denotes erased IsSum text (forM parts outcome)) : Transparent A text parts := by
  have hsequence : erase (evaluateIn A text) =
      forM parts fun part => erase (evaluateIn A part) := by
    rw [htext.erase_evaluateIn]
    exact (forM_mapError fun part hmem => (hparts part hmem).erase_evaluateIn).symm
  obtain ⟨tree, hspells, -⟩ := htext
  constructor
  · exact ⟨tree, parse_eq_ok_iff_spells.mpr hspells⟩
  · rw [← erase_eq_ok_iff, hsequence, forM_eq_ok_iff]
    simp only [erase_eq_ok_iff]
  · intro error
    rw [← erase_eq_error_iff, hsequence, forM_eq_error_iff]
    simp only [erase_eq_ok_iff, erase_eq_error_iff]

end Transparent

end Calc

/-! ## The order of evaluation -/

open Calc
open Calc.Arithmetic (erased exact)

/-- The operands as the mask of a comparison evaluates them: first what the other
    one is subtracted from. -/
def Comparison.evaluated (c : Comparison) : List String :=
  match c.op with
  | .less | .lessEquals => [c.right, c.left]
  | .more | .moreEquals => [c.left, c.right]

theorem Comparison.mem_evaluated_iff {text : String} (c : Comparison) :
    text ∈ c.evaluated ↔ text ∈ [c.left, c.right] := by
  obtain ⟨left, op, right⟩ := c
  cases op with
  | less | lessEquals => simp [evaluated, or_comm]
  | more | moreEquals => rfl

namespace Condition

/-- The operands of a condition as its mask evaluates them. -/
def evaluated (c : Condition) : List String :=
  c.leaves.flatMap Comparison.evaluated

theorem evaluated_compare (c : Comparison) : (compare c).evaluated = c.evaluated :=
  List.flatMap_singleton ..

theorem evaluated_logic (left : Condition) (op : Connective) (right : Condition) :
    (logic left op right).evaluated = left.evaluated ++ right.evaluated :=
  List.flatMap_append

theorem mem_evaluated_iff {text : String} (c : Condition) :
    text ∈ c.evaluated ↔ text ∈ c.operands := by
  simp only [evaluated, operands, List.mem_flatMap, Comparison.mem_evaluated_iff]

end Condition

/-! ## Masks -/

section Masks

variable {outcome : String → Except EvalError Unit} {result otherwise : String}

theorem Comparison.denotes_mask_erased (hresult : Denotes erased IsSum result (outcome result))
    (c : Comparison) (hleft : Denotes erased IsSum c.left (outcome c.left))
    (hright : Denotes erased IsSum c.right (outcome c.right)) :
    Denotes erased IsPrimary (c.op.mask c.left c.right result)
      (forM (result :: c.evaluated) outcome) := by
  have hadd : Addend erased result _ := hresult.addend_of_regroups erased_regroups
  have hsequence (first second : String) (strict : Bool) :
      (do
        let result ← outcome result
        let value ← outcome first
        return erased.ofDifference (erased.sub value (← outcome second)) result strict) =
      forM [result, first, second] outcome := by
    show _ = (do outcome result; outcome first; outcome second; pure ())
    cases outcome result <;> cases outcome first <;> cases outcome second <;> rfl
  obtain ⟨left, op, right⟩ := c
  cases op with
  | less | lessEquals =>
    exact (Mask.denotes_below hleft hright hresult hadd _).congr rfl (hsequence right left _)
  | more | moreEquals =>
    exact (Mask.denotes_above hleft hright hresult hadd _).congr rfl (hsequence left right _)

/-- The two sides of a connective follow the result, which both of them begin with. -/
theorem Condition.forM_evaluated_logic (left : Condition) (op : Connective) (right : Condition)
    (f : Unit → Unit → Unit → Unit) :
    (do
      let r ← outcome result
      let x ← forM (result :: left.evaluated) outcome
      return f x (← forM (result :: right.evaluated) outcome) r) =
    forM (result :: (logic left op right).evaluated) outcome := by
  have htwice : ∀ text ∈ [result], text ∈ [result] := fun _ hmem => hmem
  have hthrice : ∀ text ∈ [result], text ∈ result :: left.evaluated := by simp
  calc (do
      let r ← outcome result
      let x ← forM (result :: left.evaluated) outcome
      return f x (← forM (result :: right.evaluated) outcome) r)
    _ = forM ([result] ++ ([result] ++ (left.evaluated ++ ([result] ++ right.evaluated))))
        outcome := by
      rw [← List.append_assoc [result] left.evaluated, List.forM_append, List.forM_append]
      show _ = (do
        outcome result >>= fun _ => pure ()
        forM (result :: left.evaluated) outcome
        forM (result :: right.evaluated) outcome)
      cases outcome result <;> cases forM (result :: left.evaluated) outcome <;>
        cases forM (result :: right.evaluated) outcome <;> rfl
    _ = forM ((result :: left.evaluated) ++ ([result] ++ right.evaluated)) outcome :=
      forM_absorb htwice _
    _ = forM (result :: (left.evaluated ++ right.evaluated)) outcome := forM_absorb hthrice _
    _ = forM (result :: (logic left op right).evaluated) outcome := by rw [evaluated_logic]

/-- Each text that a mask embeds counts once in its outcome. -/
theorem Condition.denotes_mask_erased (hresult : Denotes erased IsSum result (outcome result))
    (c : Condition) (hoperands : ∀ text ∈ c.operands, Denotes erased IsSum text (outcome text)) :
    Denotes erased IsPrimary (c.mask result) (forM (result :: c.evaluated) outcome) := by
  induction c with
  | compare c =>
    have hmem := List.mem_singleton_self c
    rw [evaluated_compare]
    exact c.denotes_mask_erased hresult (hoperands c.left (left_mem_operands hmem))
      (hoperands c.right (right_mem_operands hmem))
  | logic left op right ihl ihr =>
    rw [operands_logic] at hoperands
    have hleft := ihl fun text hmem => hoperands text (List.mem_append_left _ hmem)
    have hright := ihr fun text hmem => hoperands text (List.mem_append_right _ hmem)
    have hadd := hright.product.addend_of_product
    cases op with
    | or =>
      exact (Mask.denotes_heldSum hleft.sum hadd hresult).congr rfl
        (forM_evaluated_logic left .or right erased.heldSum)
    | and =>
      exact (Mask.denotes_both hleft.sum hadd hresult).congr rfl
        (forM_evaluated_logic left .and right erased.both)

/-- The mask of the reverse only adds the other result, as its operands have been
    evaluated by then. -/
theorem Condition.denotes_maskElse_erased (hresult : Denotes erased IsSum result (outcome result))
    (hotherwise : Denotes erased IsSum otherwise (outcome otherwise)) (c : Condition)
    (hoperands : ∀ text ∈ c.operands, Denotes erased IsSum text (outcome text)) :
    Denotes erased IsPrimary (c.maskElse result otherwise)
      (forM (result :: c.evaluated ++ [otherwise]) outcome) := by
  have hmask := c.denotes_mask_erased hresult hoperands
  have hreverse := c.reverse.denotes_mask_erased hotherwise (by rwa [operands_reverse])
  have hagain : ∀ text ∈ c.reverse.evaluated, text ∈ result :: c.evaluated ++ [otherwise] := by
    intro text hmem
    rw [mem_evaluated_iff, operands_reverse, ← mem_evaluated_iff] at hmem
    simp [hmem]
  rw [maskElse_eq]
  refine (Mask.denotes_branch hmask.sum hreverse.product).congr rfl ?_
  calc (do
      return erased.add (← forM (result :: c.evaluated) outcome)
        (← forM (otherwise :: c.reverse.evaluated) outcome))
    _ = forM ((result :: c.evaluated) ++ (otherwise :: c.reverse.evaluated)) outcome := by
      rw [List.forM_append]
      cases forM (result :: c.evaluated) outcome <;>
        cases forM (otherwise :: c.reverse.evaluated) outcome <;> rfl
    _ = forM ((result :: c.evaluated ++ [otherwise]) ++ (c.reverse.evaluated ++ [])) outcome := by
      simp
    _ = forM (result :: c.evaluated ++ [otherwise]) outcome := by
      rw [forM_absorb hagain, List.append_nil]

end Masks

/-! ## Compiled texts -/

/-- A compiled condition can be parsed if the texts that it is made of can. It has a
    value exactly if they all do, and else its error is that of the first one that
    fails: the result, then the operands from left to right, then the other result.
    In all of this the arithmetic does not matter. -/
theorem Condition.compile_transparent {α : Type} (A : Arithmetic α) (c : Condition)
    (result otherwise : String) (hresult : ∃ tree, parse result = .ok tree)
    (hotherwise : ∃ tree, parse otherwise = .ok tree)
    (hoperands : ∀ text ∈ c.operands, ∃ tree, parse text = .ok tree) :
    Transparent A (c.compile result).value (result :: c.evaluated) ∧
    Transparent A (c.compileElse result otherwise).value (result :: c.evaluated ++ [otherwise]) ∧
    ∀ {β : Type} (B : Arithmetic β) (text : String) (error : CalcError),
      evaluateIn A text = .error error ↔ evaluateIn B text = .error error := by
  have hparses : ∀ text ∈ result :: otherwise :: c.operands,
      ∃ u, Denotes erased IsSum text u := by
    intro text hmem
    have hparse : ∃ tree, parse text = .ok tree := by
      rcases List.mem_cons.mp hmem with rfl | hmem
      · exact hresult
      · rcases List.mem_cons.mp hmem with rfl | hmem
        · exact hotherwise
        · exact hoperands text hmem
    obtain ⟨tree, htree⟩ := hparse
    exact ⟨_, tree, parse_eq_ok_iff_spells.mp htree, rfl⟩
  obtain ⟨outcome, houtcome⟩ := exists_forall_mem hparses
  obtain ⟨hresult', hrest⟩ := List.forall_mem_cons.mp houtcome
  obtain ⟨hotherwise', hoperands'⟩ := List.forall_mem_cons.mp hrest
  have hparts : ∀ part ∈ result :: c.evaluated, Denotes erased IsSum part (outcome part) := by
    refine List.forall_mem_cons.mpr ⟨hresult', fun text hmem => ?_⟩
    exact hoperands' text (c.mem_evaluated_iff.mp hmem)
  refine ⟨.of_denotes hparts (c.denotes_mask_erased hresult' hoperands').sum, ?_,
    fun B _ _ => evaluateIn_eq_error_iff A B⟩
  refine .of_denotes ?_ (c.denotes_maskElse_erased hresult' hotherwise' hoperands').sum
  exact List.forall_mem_append.mpr ⟨hparts, List.forall_mem_singleton.mpr hotherwise'⟩

/-- Of three texts that fail, the threshold of a comparison with `<` comes first. -/
theorem Condition.compile_transparent_threshold :
    (∃ tree, parse "1px + 2px" = .ok tree) ∧ (∃ tree, parse "min(1px)" = .ok tree) ∧
    (∃ tree, parse "a" = .ok tree) ∧ (∃ tree, parse "foo(1px)" = .ok tree) ∧
    evaluateIn exact ((Condition.compare ⟨"a", .less, "foo(1px)"⟩).compileElse "1px + 2px"
      "min(1px)").value = .error (.eval (.unknownFunction "foo")) := by
  have hresult : parse "1px + 2px" =
      .ok (.binary .add (.number ⟨⟨1, 0⟩, .px⟩) (.number ⟨⟨2, 0⟩, .px⟩)) := by
    with_unfolding_all rfl
  have hotherwise : parse "min(1px)" = .ok (.call "min" [.number ⟨⟨1, 0⟩, .px⟩]) := by
    with_unfolding_all rfl
  have hvalue : parse "a" = .ok (.name "a") := by with_unfolding_all rfl
  have hthreshold : parse "foo(1px)" = .ok (.call "foo" [.number ⟨⟨1, 0⟩, .px⟩]) := by
    with_unfolding_all rfl
  obtain ⟨-, htransparent, -⟩ := Condition.compile_transparent exact
    (.compare ⟨"a", .less, "foo(1px)"⟩) "1px + 2px" "min(1px)" ⟨_, hresult⟩ ⟨_, hotherwise⟩
    (List.forall_mem_cons.mpr ⟨⟨_, hvalue⟩, List.forall_mem_singleton.mpr ⟨_, hthreshold⟩⟩)
  refine ⟨⟨_, hresult⟩, ⟨_, hotherwise⟩, ⟨_, hvalue⟩, ⟨_, hthreshold⟩,
    (htransparent.error_iff _).mpr ⟨["1px + 2px"], "foo(1px)", ["a", "min(1px)"], rfl, ?_,
      by with_unfolding_all rfl⟩⟩
  exact List.forall_mem_singleton.mpr ⟨some 3, by with_unfolding_all rfl⟩

end BranchlessCalc
