/-
  BranchlessCalc.Proofs.Grammar

  The grammar of expressions as relations between tokens and trees, and that the
  parser's machine accepts exactly this grammar.

  Completeness (`IsSum.run` and its companions) runs the machine along a
  derivation. It is stated from any state in which the phrase may begin, so that
  the machine's stack never enters the induction. Soundness goes the other way,
  one token at a time: `State.Reads` says how the tokens taken so far divide into
  phrases that the state still holds apart, and each step keeps it.
-/
import BranchlessCalc.Calc.Parser

namespace BranchlessCalc.Calc

/-! ## The grammar -/

/-- Whether an operator joins products to a sum, rather than operands to a product. -/
def Operator.isAdditive : Operator → Bool
  | .add | .sub => true
  | .mul | .div => false

/-- The token that an operator is written by. -/
def Operator.token : Operator → Token
  | .add => .plus
  | .sub => .minus
  | .mul => .star
  | .div => .slash

mutual

/-- `sum = product (("+" | "-") product)*`, grouped to the left. -/
inductive IsSum : List Token → Expr → Prop
  | product {tokens : List Token} {tree : Expr} : IsProduct tokens tree → IsSum tokens tree
  | chain {op : Operator} {ls rs : List Token} {left right : Expr} : op.isAdditive = true →
      IsSum ls left → IsProduct rs right → IsSum (ls ++ op.token :: rs) (.binary op left right)

/-- `product = signed (("*" | "/") signed)*`, grouped to the left. -/
inductive IsProduct : List Token → Expr → Prop
  | signed {tokens : List Token} {tree : Expr} : IsSigned tokens tree → IsProduct tokens tree
  | chain {op : Operator} {ls rs : List Token} {left right : Expr} : op.isAdditive = false →
      IsProduct ls left → IsSigned rs right →
      IsProduct (ls ++ op.token :: rs) (.binary op left right)

/-- `signed = ("-" | "+") signed | primary`. -/
inductive IsSigned : List Token → Expr → Prop
  | minus {tokens : List Token} {tree : Expr} :
      IsSigned tokens tree → IsSigned (.minus :: tokens) (.neg tree)
  | plus {tokens : List Token} {tree : Expr} :
      IsSigned tokens tree → IsSigned (.plus :: tokens) tree
  | primary {tokens : List Token} {tree : Expr} : IsPrimary tokens tree → IsSigned tokens tree

/-- `primary = number | name | name "(" arguments ")" | "(" sum ")"`. -/
inductive IsPrimary : List Token → Expr → Prop
  | number (value : Dimension) : IsPrimary [.number value] (.number value)
  | name (text : String) : IsPrimary [.name text] (.name text)
  | call (function : String) {tokens : List Token} {args : List Expr} : IsArguments tokens args →
      IsPrimary (.name function :: .leftParen :: (tokens ++ [.rightParen])) (.call function args)
  | group {tokens : List Token} {tree : Expr} : IsSum tokens tree →
      IsPrimary (.leftParen :: (tokens ++ [.rightParen])) tree

/-- `arguments = sum ("," sum)*`. -/
inductive IsArguments : List Token → List Expr → Prop
  | one {tokens : List Token} {tree : Expr} : IsSum tokens tree → IsArguments tokens [tree]
  | cons {tokens rest : List Token} {tree : Expr} {trees : List Expr} : IsSum tokens tree →
      IsArguments rest trees → IsArguments (tokens ++ .comma :: rest) (tree :: trees)

end

/-! ## Runs of the machine -/

theorem State.run_nil (state : State) : state.run [] = .ok state := rfl

theorem State.run_cons (state : State) (token : Token) (tokens : List Token) :
    state.run (token :: tokens) = state.step token >>= fun next => next.run tokens := by
  simp only [State.run, List.foldlM_cons]

/-- A run over appended tokens is one run after the other. -/
theorem State.run_append (state : State) (first second : List Token) :
    state.run (first ++ second) = state.run first >>= fun next => next.run second := by
  simp only [State.run, List.foldlM_append]

theorem State.run_append_of_ok {state next : State} {first : List Token}
    (h : state.run first = .ok next) (second : List Token) :
    state.run (first ++ second) = next.run second := by
  rw [State.run_append, h]
  rfl

theorem State.run_cons_of_ok {state next : State} {token : Token}
    (h : state.step token = .ok next) (tokens : List Token) :
    state.run (token :: tokens) = next.run tokens := by
  rw [State.run_cons, h]
  rfl

/-! ## A name at the end of what was read

Behind a name the machine still waits for a bracket. Any other token, and the
end of the text, treats it as an operand. -/

/-- The state with a trailing name taken for an operand. -/
def State.settle : State → State
  | .name text before levels => .operator (before.take (.name text)) levels
  | state => state

theorem State.step_of_settle {state : State} {last : Product} {levels : List Level} {token : Token}
    (h : state.settle = .operator last levels) (htoken : token ≠ .leftParen) :
    state.step token = stepOperator last levels token := by
  cases state with
  | operand before levels' => cases h
  | name text before levels' =>
    obtain ⟨rfl, rfl⟩ := State.operator.inj h
    -- The equation for a name, which leaves an opening bracket out.
    rw [State.step]
    exact htoken
  | operator last' levels' =>
    obtain ⟨rfl, rfl⟩ := State.operator.inj h
    rfl

theorem State.finish_of_settle {state : State} {last : Product}
    (h : state.settle = .operator last []) : state.finish = .ok last.close := by
  cases state with
  | operand before levels => cases h
  | name text before levels =>
    obtain ⟨rfl, rfl⟩ := State.operator.inj h
    rfl
  | operator last' levels =>
    obtain ⟨rfl, rfl⟩ := State.operator.inj h
    rfl

/-- The machine takes all the tokens and has a complete operand behind them. -/
def State.Completes (state : State) (tokens : List Token) (last : Product)
    (levels : List Level) : Prop :=
  ∃ next, state.run tokens = .ok next ∧ next.settle = .operator last levels

theorem State.Completes.run_cons {state : State} {tokens : List Token} {last : Product}
    {levels : List Level} (h : state.Completes tokens last levels) {token : Token}
    (htoken : token ≠ .leftParen) {next : State}
    (hstep : stepOperator last levels token = .ok next) (rest : List Token) :
    state.run (tokens ++ token :: rest) = next.run rest := by
  obtain ⟨middle, hrun, hsettle⟩ := h
  rw [State.run_append_of_ok hrun, State.run_cons_of_ok]
  rw [State.step_of_settle hsettle htoken, hstep]

/-- The phrase after an operator continues a complete one. -/
theorem State.Completes.append {state next : State} {tokens rest : List Token}
    {last last' : Product} {levels : List Level} (h : state.Completes tokens last levels)
    {token : Token} (htoken : token ≠ .leftParen)
    (hstep : stepOperator last levels token = .ok next)
    (hrest : next.Completes rest last' levels) :
    state.Completes (tokens ++ token :: rest) last' levels := by
  obtain ⟨final, hrun, hsettle⟩ := hrest
  exact ⟨final, (h.run_cons htoken hstep rest).trans hrun, hsettle⟩

/-- The machine ends in one state only. -/
theorem State.Completes.unique {state : State} {tokens : List Token} {last last' : Product}
    {levels levels' : List Level} (h : state.Completes tokens last levels)
    (h' : state.Completes tokens last' levels') : last = last' := by
  obtain ⟨next, hrun, hsettle⟩ := h
  obtain ⟨next', hrun', hsettle'⟩ := h'
  obtain rfl : next = next' := Except.ok.inj (hrun.symm.trans hrun')
  exact (State.operator.inj (hsettle.symm.trans hsettle')).1

theorem stepOperator_additive {op : Operator} (hop : op.isAdditive = true) (last : Product)
    (levels : List Level) :
    stepOperator last levels op.token = .ok (.operand ⟨some ⟨last.close, op⟩, none, 0⟩ levels) := by
  cases op with
  | add | sub => rfl
  | mul | div => cases hop

theorem stepOperator_multiplicative {op : Operator} (hop : op.isAdditive = false) (last : Product)
    (levels : List Level) :
    stepOperator last levels op.token =
      .ok (.operand ⟨last.sum?, some ⟨last.product, op⟩, 0⟩ levels) := by
  cases op with
  | add | sub => cases hop
  | mul | div => rfl

theorem Operator.token_ne_leftParen (op : Operator) : op.token ≠ .leftParen := by
  cases op <;> decide

/-! ## Completeness

Each phrase is run from every state that it can begin in: a sum with nothing
before it, a product behind any waiting sum, a signed operand behind anything. -/

theorem negate_neg (n : Nat) (tree : Expr) : negate n (.neg tree) = negate (n + 1) tree := by
  induction n with
  | zero => rfl
  | succ n ih => rw [negate, ih]; rfl

mutual

theorem IsSum.run {tokens : List Token} {tree : Expr} (levels : List Level) :
    IsSum tokens tree → ∃ last : Product, last.close = tree ∧
      State.Completes (.operand .nothing levels) tokens last levels
  | .product h => ⟨⟨none, tree⟩, rfl, h.run none levels⟩
  | .chain hop hleft hright => by
    obtain ⟨last, rfl, hrun⟩ := hleft.run levels
    exact ⟨⟨some ⟨last.close, _⟩, _⟩, rfl,
      hrun.append (Operator.token_ne_leftParen _) (stepOperator_additive hop last levels)
        (hright.run _ levels)⟩

theorem IsProduct.run {tokens : List Token} {tree : Expr} (sum? : Option Waiting)
    (levels : List Level) : IsProduct tokens tree →
      State.Completes (.operand ⟨sum?, none, 0⟩ levels) tokens ⟨sum?, tree⟩ levels
  | .signed h => h.run ⟨sum?, none, 0⟩ levels
  | .chain hop hleft hright =>
    (hleft.run sum? levels).append (Operator.token_ne_leftParen _)
      (stepOperator_multiplicative hop _ levels) (hright.run _ levels)

theorem IsSigned.run {tokens : List Token} {tree : Expr} (before : Before) (levels : List Level) :
    IsSigned tokens tree →
      State.Completes (.operand before levels) tokens (before.take tree) levels
  | .minus h => by
    -- The machine counts the sign first and applies it to the operand last.
    obtain ⟨next, hrun, hsettle⟩ := h.run { before with minuses := before.minuses + 1 } levels
    refine ⟨next, ?_, ?_⟩
    · rw [State.run_cons_of_ok rfl, hrun]
    · rw [hsettle, Before.take, Before.take, negate_neg]
  | .plus h => by
    obtain ⟨next, hrun, hsettle⟩ := h.run before levels
    exact ⟨next, by rw [State.run_cons_of_ok rfl, hrun], hsettle⟩
  | .primary h => h.run before levels

theorem IsPrimary.run {tokens : List Token} {tree : Expr} (before : Before) (levels : List Level) :
    IsPrimary tokens tree →
      State.Completes (.operand before levels) tokens (before.take tree) levels
  | .number value => ⟨_, rfl, rfl⟩
  | .name text => ⟨_, rfl, rfl⟩
  | .call function h => by
    -- The name and its bracket open a level with no arguments yet.
    refine ⟨.operator (before.take _) levels, ?_, rfl⟩
    rw [State.run_cons_of_ok rfl, State.run_cons_of_ok rfl]
    exact h.run function [] before levels
  | .group h => by
    obtain ⟨last, rfl, hrun⟩ := h.run (⟨.group, before⟩ :: levels)
    refine ⟨.operator (before.take last.close) levels, ?_, rfl⟩
    rw [State.run_cons_of_ok rfl, hrun.run_cons (by decide) rfl]
    rfl

theorem IsArguments.run {tokens : List Token} {trees : List Expr} (function : String)
    (done : List Expr) (before : Before) (levels : List Level) : IsArguments tokens trees →
      State.run (.operand .nothing (⟨.call function done, before⟩ :: levels))
          (tokens ++ [.rightParen]) =
        .ok (.operator (before.take (.call function (done.reverse ++ trees))) levels)
  | .one h => by
    obtain ⟨last, rfl, hrun⟩ := h.run (⟨.call function done, before⟩ :: levels)
    rw [hrun.run_cons (by decide) rfl, State.run_nil, List.reverse_cons]
  | .cons h hrest => by
    -- The comma stores the argument, so the rest runs with one more of them done.
    obtain ⟨last, rfl, hrun⟩ := h.run (⟨.call function done, before⟩ :: levels)
    rw [List.append_assoc, List.cons_append, hrun.run_cons (by decide) rfl,
      hrest.run function (last.close :: done) before levels, List.reverse_cons,
      List.append_assoc, List.singleton_append]

end

/-! ## What a state has read -/

/-- An operator that waits behind its left operand, a phrase `P`. -/
def Waiting.Reads (P : List Token → Expr → Prop) (additive : Bool) (tokens : List Token) :
    Option Waiting → Prop
  | none => tokens = []
  | some waiting => waiting.op.isAdditive = additive ∧
      ∃ left, tokens = left ++ [waiting.op.token] ∧ P left waiting.left

/-- Signs in front of an operand, with the number of minus signs among them. -/
inductive IsSigns : List Token → Nat → Prop
  | nil : IsSigns [] 0
  | plus {tokens : List Token} {n : Nat} : IsSigns tokens n → IsSigns (tokens ++ [.plus]) n
  | minus {tokens : List Token} {n : Nat} : IsSigns tokens n → IsSigns (tokens ++ [.minus]) (n + 1)

/-- What stands before an operand: a waiting sum, a waiting product and signs. -/
def Before.Reads (before : Before) (tokens : List Token) : Prop :=
  ∃ sum product signs, tokens = sum ++ product ++ signs ∧
    Waiting.Reads IsSum true sum before.sum? ∧
    Waiting.Reads IsProduct false product before.product? ∧ IsSigns signs before.minuses

/-- A waiting sum and the product behind it. -/
def Product.Reads (last : Product) (tokens : List Token) : Prop :=
  ∃ sum product, tokens = sum ++ product ∧ Waiting.Reads IsSum true sum last.sum? ∧
    IsProduct product last.product

/-- Complete arguments with a comma behind each, the last one first. -/
inductive ReadsArguments : List Token → List Expr → Prop
  | nil : ReadsArguments [] []
  | snoc {tokens arg : List Token} {trees : List Expr} {tree : Expr} : ReadsArguments tokens trees →
      IsSum arg tree → ReadsArguments (tokens ++ arg ++ [.comma]) (tree :: trees)

/-- An open bracket up to the argument that is being read. -/
def Bracket.Reads (tokens : List Token) : Bracket → Prop
  | .group => tokens = [.leftParen]
  | .call function args =>
    ∃ complete, tokens = .name function :: .leftParen :: complete ∧ ReadsArguments complete args

/-- The open brackets, each with what stands before it. -/
inductive ReadsLevels : List Token → List Level → Prop
  | nil : ReadsLevels [] []
  | cons {outer inner opening : List Token} {bracket : Bracket} {before : Before}
      {levels : List Level} : ReadsLevels outer levels → before.Reads inner →
      bracket.Reads opening → ReadsLevels (outer ++ inner ++ opening) (⟨bracket, before⟩ :: levels)

/-- The tokens taken so far, divided into what the state still holds apart. -/
def State.Reads (tokens : List Token) : State → Prop
  | .operand before levels =>
    ∃ outer inner, tokens = outer ++ inner ∧ ReadsLevels outer levels ∧ before.Reads inner
  | .name text before levels =>
    ∃ outer inner, tokens = outer ++ inner ++ [.name text] ∧ ReadsLevels outer levels ∧
      before.Reads inner
  | .operator last levels =>
    ∃ outer inner, tokens = outer ++ inner ∧ ReadsLevels outer levels ∧ last.Reads inner

/-! ### Phrases that are complete -/

theorem IsSigns.append {signs tokens : List Token} {n : Nat} {tree : Expr} (h : IsSigns signs n)
    (hoperand : IsSigned tokens tree) : IsSigned (signs ++ tokens) (negate n tree) := by
  induction h generalizing tokens tree with
  | nil => exact hoperand
  | plus _ ih =>
    rw [List.append_assoc, List.singleton_append]
    exact ih (.plus hoperand)
  | minus _ ih =>
    rw [List.append_assoc, List.singleton_append, ← negate_neg]
    exact ih (.minus hoperand)

/-- Whatever was waiting, it makes a phrase `P` together with the operand that it
    waited for. -/
theorem Waiting.Reads.join {P Q : List Token → Expr → Prop} {additive : Bool}
    (hone : ∀ {tokens tree}, Q tokens tree → P tokens tree)
    (hchain : ∀ {op : Operator} {ls rs left right}, op.isAdditive = additive → P ls left →
      Q rs right → P (ls ++ op.token :: rs) (.binary op left right))
    {tokens operand : List Token} {waiting : Option Waiting} {tree : Expr}
    (h : Waiting.Reads P additive tokens waiting) (hoperand : Q operand tree) :
    P (tokens ++ operand) (Waiting.join? waiting tree) := by
  cases waiting with
  | none =>
    obtain rfl : tokens = [] := h
    exact hone hoperand
  | some waiting =>
    obtain ⟨hop, left, rfl, hleft⟩ := h
    rw [List.append_assoc, List.singleton_append]
    exact hchain hop hleft hoperand

theorem Before.Reads.take {before : Before} {tokens operand : List Token} {tree : Expr}
    (h : before.Reads tokens) (hoperand : IsPrimary operand tree) :
    (before.take tree).Reads (tokens ++ operand) := by
  obtain ⟨sum, product, signs, rfl, hsum, hproduct, hsigns⟩ := h
  refine ⟨sum, product ++ (signs ++ operand), by simp, hsum, ?_⟩
  exact hproduct.join .signed .chain (hsigns.append (.primary hoperand))

theorem Product.Reads.close {last : Product} {tokens : List Token} (h : last.Reads tokens) :
    IsSum tokens last.close := by
  obtain ⟨sum, product, rfl, hsum, hproduct⟩ := h
  exact hsum.join .product .chain hproduct

theorem ReadsArguments.append {complete rest : List Token} {done trees : List Expr}
    (h : ReadsArguments complete done) (hrest : IsArguments rest trees) :
    IsArguments (complete ++ rest) (done.reverse ++ trees) := by
  induction h generalizing rest trees with
  | nil => exact hrest
  | snoc _ harg ih =>
    simp only [List.append_assoc, List.singleton_append, List.reverse_cons]
    exact ih (.cons harg hrest)

theorem Before.nothing_reads : Before.nothing.Reads [] :=
  ⟨[], [], [], rfl, rfl, rfl, .nil⟩

/-! ### Steps -/

/-- A closing bracket makes an operand of the level that it closes. -/
theorem ReadsLevels.close {outer inner operand : List Token} {before : Before}
    {levels : List Level} {tree : Expr} (houter : ReadsLevels outer levels)
    (hbefore : before.Reads inner) (hoperand : IsPrimary operand tree) :
    State.Reads (outer ++ inner ++ operand) (.operator (before.take tree) levels) :=
  ⟨outer, inner ++ operand, by simp, houter, hbefore.take hoperand⟩

/-- Everything that one token can do after a complete operand. -/
theorem stepOperator_cases {last : Product} {levels : List Level} {token : Token} {next : State}
    (h : stepOperator last levels token = .ok next) :
    (∃ op : Operator, op.isAdditive = true ∧ token = op.token ∧
      next = .operand ⟨some ⟨last.close, op⟩, none, 0⟩ levels) ∨
    (∃ op : Operator, op.isAdditive = false ∧ token = op.token ∧
      next = .operand ⟨last.sum?, some ⟨last.product, op⟩, 0⟩ levels) ∨
    (∃ before rest, token = .rightParen ∧ levels = ⟨.group, before⟩ :: rest ∧
      next = .operator (before.take last.close) rest) ∨
    (∃ function args before rest, token = .rightParen ∧
      levels = ⟨.call function args, before⟩ :: rest ∧
      next = .operator (before.take (.call function (last.close :: args).reverse)) rest) ∨
    (∃ function args before rest, token = .comma ∧
      levels = ⟨.call function args, before⟩ :: rest ∧
      next = .operand .nothing (⟨.call function (last.close :: args), before⟩ :: rest)) := by
  unfold stepOperator at h
  split at h
  · exact .inr (.inl ⟨.mul, rfl, rfl, (Except.ok.inj h).symm⟩)
  · exact .inr (.inl ⟨.div, rfl, rfl, (Except.ok.inj h).symm⟩)
  · exact .inl ⟨.add, rfl, rfl, (Except.ok.inj h).symm⟩
  · exact .inl ⟨.sub, rfl, rfl, (Except.ok.inj h).symm⟩
  · exact .inr (.inr (.inl ⟨_, _, rfl, rfl, (Except.ok.inj h).symm⟩))
  · exact .inr (.inr (.inr (.inl ⟨_, _, _, _, rfl, rfl, (Except.ok.inj h).symm⟩)))
  · exact .inr (.inr (.inr (.inr ⟨_, _, _, _, rfl, rfl, (Except.ok.inj h).symm⟩)))
  · cases h

theorem stepOperator_reads {outer inner : List Token} {last : Product} {levels : List Level}
    {token : Token} {next : State} (houter : ReadsLevels outer levels) (hlast : last.Reads inner)
    (hstep : stepOperator last levels token = .ok next) :
    next.Reads (outer ++ inner ++ [token]) := by
  obtain ⟨op, hop, rfl, rfl⟩ | ⟨op, hop, rfl, rfl⟩ | ⟨before, rest, rfl, rfl, rfl⟩ |
    ⟨function, args, before, rest, rfl, rfl, rfl⟩ |
    ⟨function, args, before, rest, rfl, rfl, rfl⟩ := stepOperator_cases hstep
  · -- An operator of sums: all of the product joins the sum, which then waits.
    refine ⟨outer, inner ++ [op.token], by simp, houter, inner ++ [op.token], [], [], by simp, ?_⟩
    exact ⟨⟨hop, inner, rfl, hlast.close⟩, rfl, .nil⟩
  · -- An operator of products: the product waits, and the sum before it still does.
    obtain ⟨sum, product, rfl, hsum, hproduct⟩ := hlast
    refine ⟨outer, sum ++ (product ++ [op.token]), by simp, houter, sum, product ++ [op.token], [],
      by simp, ?_⟩
    exact ⟨hsum, ⟨hop, product, rfl, hproduct⟩, .nil⟩
  · -- The end of a group.
    cases houter with
    | cons hlevels hbefore hbracket =>
      obtain rfl := hbracket
      simpa using hlevels.close hbefore (.group hlast.close)
  · -- The end of a call, with its last argument.
    cases houter with
    | cons hlevels hbefore hbracket =>
      obtain ⟨complete, rfl, hargs⟩ := hbracket
      have hcall := IsPrimary.call function (hargs.append (.one hlast.close))
      simpa using hlevels.close hbefore hcall
  · -- The end of an argument that another one follows.
    cases houter with
    | cons hlevels hbefore hbracket =>
      obtain ⟨complete, rfl, hargs⟩ := hbracket
      have hopen : Bracket.Reads _ (.call function (last.close :: args)) :=
        ⟨_, rfl, hargs.snoc hlast.close⟩
      exact ⟨_, [], by simp, hlevels.cons hbefore hopen, Before.nothing_reads⟩

theorem stepOperand_reads {outer inner : List Token} {before : Before} {levels : List Level}
    {token : Token} {next : State} (houter : ReadsLevels outer levels)
    (hbefore : before.Reads inner) (hstep : stepOperand before levels token = .ok next) :
    next.Reads (outer ++ inner ++ [token]) := by
  cases token with
  | minus =>
    cases hstep
    obtain ⟨sum, product, signs, rfl, hsum, hproduct, hsigns⟩ := hbefore
    exact ⟨outer, sum ++ product ++ (signs ++ [.minus]), by simp, houter, sum, product, _, rfl,
      hsum, hproduct, hsigns.minus⟩
  | plus =>
    cases hstep
    obtain ⟨sum, product, signs, rfl, hsum, hproduct, hsigns⟩ := hbefore
    exact ⟨outer, sum ++ product ++ (signs ++ [.plus]), by simp, houter, sum, product, _, rfl,
      hsum, hproduct, hsigns.plus⟩
  | number value =>
    cases hstep
    exact ⟨outer, inner ++ [.number value], by simp, houter, hbefore.take (.number value)⟩
  | name text =>
    cases hstep
    exact ⟨outer, inner, rfl, houter, hbefore⟩
  | leftParen =>
    cases hstep
    have hopen : Bracket.Reads [.leftParen] .group := rfl
    exact ⟨_, [], by simp, houter.cons hbefore hopen, Before.nothing_reads⟩
  | star | slash | rightParen | comma => cases hstep

/-- A step keeps the account of the tokens taken so far. -/
theorem State.Reads.step {tokens : List Token} {state next : State} {token : Token}
    (h : state.Reads tokens) (hstep : state.step token = .ok next) :
    next.Reads (tokens ++ [token]) := by
  cases state with
  | operand before levels =>
    obtain ⟨outer, inner, rfl, houter, hbefore⟩ := h
    exact stepOperand_reads houter hbefore hstep
  | name text before levels =>
    obtain ⟨outer, inner, rfl, houter, hbefore⟩ := h
    -- Only here does the name turn out to be a function's or an operand.
    by_cases hparen : token = .leftParen
    · subst hparen
      cases hstep
      have hopen : Bracket.Reads [.name text, .leftParen] (.call text []) := ⟨[], rfl, .nil⟩
      exact ⟨_, [], by simp, houter.cons hbefore hopen, Before.nothing_reads⟩
    · rw [State.step_of_settle rfl hparen] at hstep
      simpa using stepOperator_reads houter (hbefore.take (.name text)) hstep
  | operator last levels =>
    obtain ⟨outer, inner, rfl, houter, hlast⟩ := h
    exact stepOperator_reads houter hlast hstep

/-- A run keeps the account of the tokens taken so far. -/
theorem State.Reads.run {tokens rest : List Token} {state next : State}
    (h : state.Reads tokens) (hrun : state.run rest = .ok next) : next.Reads (tokens ++ rest) := by
  induction rest generalizing tokens state with
  | nil =>
    cases hrun
    simpa using h
  | cons token rest ih =>
    cases hstep : state.step token with
    | error _ =>
      rw [State.run_cons, hstep] at hrun
      cases hrun
    | ok middle =>
      rw [State.run_cons_of_ok hstep] at hrun
      simpa using ih (h.step hstep) hrun

theorem State.start_reads : State.start.Reads [] :=
  ⟨[], [], rfl, .nil, Before.nothing_reads⟩

/-- A state that may stop has read a sum. -/
theorem State.Reads.finish {tokens : List Token} {state : State} {tree : Expr}
    (h : state.Reads tokens) (hfinish : state.finish = .ok tree) : IsSum tokens tree := by
  cases state with
  | operand before levels => cases hfinish
  | name text before levels =>
    obtain ⟨outer, inner, rfl, houter, hbefore⟩ := h
    -- With a bracket still open the machine does not stop.
    cases houter with
    | nil =>
      cases hfinish
      simpa using (hbefore.take (.name text)).close
    | cons _ _ _ => cases hfinish
  | operator last levels =>
    obtain ⟨outer, inner, rfl, houter, hlast⟩ := h
    cases houter with
    | nil =>
      cases hfinish
      simpa using hlast.close
    | cons _ _ _ => cases hfinish

/-! ## Texts -/

/-- The parser accepts the texts whose tokens derive a sum, and gives their tree. -/
theorem parse_eq_ok_iff {text : String} {tree : Expr} :
    parse text = .ok tree ↔ ∃ tokens, scan text.toList = ⟨tokens, none⟩ ∧ IsSum tokens tree := by
  constructor
  · intro h
    rw [parse, Scan.parse] at h
    cases hrun : State.start.run (scan text.toList).tokens with
    | error token => simp [hrun] at h
    | ok state =>
      cases herror : (scan text.toList).error? with
      | some error => simp [hrun, herror] at h
      | none =>
        simp only [hrun, herror] at h
        refine ⟨(scan text.toList).tokens, by rw [← herror], ?_⟩
        simpa using (State.start_reads.run hrun).finish h
  · rintro ⟨tokens, hscan, hsum⟩
    obtain ⟨last, rfl, state, hrun, hsettle⟩ := hsum.run []
    rw [parse, Scan.parse, hscan, State.start]
    simp only [hrun, State.finish_of_settle hsettle]

/-- No list of tokens derives two trees: both derivations drive the machine along
    the same tokens, so it ends in one state. -/
theorem IsSum.unique {tokens : List Token} {first second : Expr} (hfirst : IsSum tokens first)
    (hsecond : IsSum tokens second) : first = second := by
  obtain ⟨last, rfl, hrun⟩ := hfirst.run []
  obtain ⟨last', rfl, hrun'⟩ := hsecond.run []
  rw [hrun.unique hrun']

/-- The parser answers every text: with the one tree that its tokens derive, or
    with an error if the scan stops early or the tokens derive no tree. -/
theorem parse_iff_derives (text : String) :
    (∀ tree, parse text = .ok tree ↔
      ∃ tokens, scan text.toList = ⟨tokens, none⟩ ∧ IsSum tokens tree) ∧
    (∀ tokens first second, IsSum tokens first → IsSum tokens second → first = second) ∧
    ((∃ error, parse text = .error error) ↔
      ¬ ∃ tokens tree, scan text.toList = ⟨tokens, none⟩ ∧ IsSum tokens tree) := by
  refine ⟨fun tree => parse_eq_ok_iff, fun tokens first second => IsSum.unique, ?_⟩
  constructor
  · rintro ⟨error, herror⟩ ⟨tokens, tree, hderives⟩
    have hok : parse text = .ok tree := parse_eq_ok_iff.mpr ⟨tokens, hderives⟩
    rw [herror] at hok
    cases hok
  · intro hnone
    cases hparse : parse text with
    | error error => exact ⟨error, rfl⟩
    | ok tree =>
      obtain ⟨tokens, hderives⟩ := parse_eq_ok_iff.mp hparse
      exact absurd ⟨tokens, tree, hderives⟩ hnone

/-! ## A sum behind a plus sign -/

/-- The tree of `first + sum`, where the products of `sum` are added one by one. -/
inductive AddsOnto (first : Expr) : Expr → Expr → Prop
  | product (tree : Expr) : AddsOnto first tree (.binary .add first tree)
  | chain {op : Operator} {left right tree : Expr} : op.isAdditive = true →
      AddsOnto first left tree → AddsOnto first (.binary op left right) (.binary op tree right)

/-- With a plus or minus sign at its top level a sum is no product: the machine ends
    with a sum that waited for its last product. -/
theorem IsProduct.not_chain {op : Operator} {ls rs : List Token} {left right tree : Expr}
    (hop : op.isAdditive = true) (hleft : IsSum ls left) (hright : IsProduct rs right) :
    ¬ IsProduct (ls ++ op.token :: rs) tree := by
  intro hproduct
  obtain ⟨last, -, hrun⟩ := hleft.run []
  have hchain := hrun.append (Operator.token_ne_leftParen op) (stepOperator_additive hop last [])
    (hright.run _ [])
  have hlast := hchain.unique (hproduct.run none [])
  cases (Product.mk.inj hlast).1

theorem Expr.right_ne_binary (op : Operator) (left right : Expr) : right ≠ .binary op left right := by
  intro hequal
  have hsize := congrArg sizeOf hequal
  rw [Expr.binary.sizeOf_spec] at hsize
  omega

/-- A sum behind a plus sign hangs its products on whatever stands in front, one by
    one. It hangs there as a whole only if it is a single product. -/
theorem IsSum.add_sum {tokens : List Token} {sum : Expr} : IsSum tokens sum →
    ∃ attach : Expr → Expr,
      (∀ {ls : List Token} {first : Expr}, IsSum ls first →
        IsSum (ls ++ .plus :: tokens) (attach first)) ∧
      (∀ first, AddsOnto first sum (attach first)) ∧
      ∀ first, attach first = .binary .add first sum ↔ IsProduct tokens sum
  | .product h => by
    refine ⟨fun first => .binary .add first sum, ?_, fun first => .product sum, ?_⟩
    · intro ls first hfirst
      exact .chain (show Operator.add.isAdditive = true from rfl) hfirst h
    · intro first
      exact iff_of_true rfl h
  | @IsSum.chain op ls rs left right hop hleft hright => by
    obtain ⟨attach, hderives, hadds, -⟩ := hleft.add_sum
    refine ⟨fun first => .binary op (attach first) right, ?_, fun first => .chain hop (hadds first),
      fun first => iff_of_false ?_ (IsProduct.not_chain hop hleft hright)⟩
    · intro outer first hfirst
      simpa using IsSum.chain hop (hderives hfirst) hright
    · -- The last product ends the whole tree here, and the whole sum would end it there.
      intro hequal
      exact Expr.right_ne_binary op left right (Expr.binary.inj hequal).2.2

end BranchlessCalc.Calc
