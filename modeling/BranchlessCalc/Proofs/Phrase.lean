/-
  BranchlessCalc.Proofs.Phrase

  Texts that spell a phrase of the grammar, and how larger ones are put together.

  A text is embedded into another one by writing it between separators. What it
  becomes there depends on the kind of phrase it is: a sum may stand alone, as an
  argument, in brackets, or in front of an operator of sums, and a product also
  behind one. The one place where a whole sum follows a plus sign is covered by
  `Spells.attaches`: it hangs its products on the text in front, one by one.
-/
import BranchlessCalc.Proofs.Call
import BranchlessCalc.Proofs.Grammar
import BranchlessCalc.Proofs.Scan

namespace BranchlessCalc.Calc

/-! ## Scans of parts -/

/-- Two texts around a separator, both without an error. -/
theorem scan_append_of_ok {q : Char} (hq : isSeparator q = true) {l m : List Char}
    {ts us : List Token} (hl : scan l = ⟨ts, none⟩) (hm : scan m = ⟨us, none⟩) :
    scan (l ++ q :: m) = ⟨ts ++ (separatorTokens q ++ us), none⟩ := by
  rw [scan_append_cons hq, hl, hm]
  rfl

/-- A symbol makes its own token, whatever follows. -/
theorem scan_cons_symbol {q : Char} {token : Token} (hq : Text.isBlank q = false)
    (htoken : Token.ofSymbol? q = some token) {m : List Char} {us : List Token}
    (hm : scan m = ⟨us, none⟩) : scan (q :: m) = ⟨token :: us, none⟩ := by
  have hscan : scanToken q m = .ok (token, m) := by rw [scanToken, htoken]
  rw [scan_cons_of_ok hq hscan, hm]
  rfl

/-- The character of an operator. -/
def Operator.symbol : Operator → Char
  | .add => '+'
  | .sub => '-'
  | .mul => '*'
  | .div => '/'

/-- An operator between two blanks. -/
def Operator.spaced : Operator → String
  | .add => " + "
  | .sub => " - "
  | .mul => " * "
  | .div => " / "

theorem Operator.toList_spaced (op : Operator) : op.spaced.toList = [' ', op.symbol, ' '] := by
  cases op <;> rfl

/-- Between blanks a minus sign is an operator too, and no part of a name. -/
theorem scan_append_operator (op : Operator) {l m : List Char} {ts us : List Token}
    (hl : scan l = ⟨ts, none⟩) (hm : scan m = ⟨us, none⟩) :
    scan (l ++ op.spaced.toList ++ m) = ⟨ts ++ op.token :: us, none⟩ := by
  have hm' : scan (' ' :: m) = ⟨us, none⟩ := by rw [scan_cons_of_blank (by decide), hm]
  have hsymbol : Text.isBlank op.symbol = false := by cases op <;> decide
  have htoken : Token.ofSymbol? op.symbol = some op.token := by cases op <;> rfl
  have hright : scan (op.symbol :: ' ' :: m) = ⟨op.token :: us, none⟩ :=
    scan_cons_symbol hsymbol htoken hm'
  rw [Operator.toList_spaced, List.append_assoc]
  exact scan_append_of_ok (by decide) hl hright

/-! ## Spelled phrases -/

/-- The text scans without an error into tokens that a phrase relates to `tree`. -/
def Spells {β : Type} (P : List Token → β → Prop) (text : String) (tree : β) : Prop :=
  ∃ tokens, scan text.toList = ⟨tokens, none⟩ ∧ P tokens tree

theorem parse_eq_ok_iff_spells {text : String} {tree : Expr} :
    parse text = .ok tree ↔ Spells IsSum text tree :=
  parse_eq_ok_iff

/-- A text without a binary plus or minus at its top level: one product is all of it. -/
def IsProductText (text : String) : Prop :=
  ∃ tree, Spells IsProduct text tree

/-- A text has at most one tree. -/
theorem Spells.unique {text : String} {x y : Expr} (hx : Spells IsSum text x)
    (hy : Spells IsSum text y) : x = y := by
  have hparse := parse_eq_ok_iff_spells.mpr hx
  rw [parse_eq_ok_iff_spells.mpr hy] at hparse
  exact (Except.ok.inj hparse).symm

namespace Spells

variable {a b c : String} {x y z : Expr} {xs : List Expr}

theorem signed (h : Spells IsPrimary a x) : Spells IsSigned a x :=
  h.imp fun _ h => ⟨h.1, .primary h.2⟩

theorem product (h : Spells IsSigned a x) : Spells IsProduct a x :=
  h.imp fun _ h => ⟨h.1, .signed h.2⟩

theorem sum (h : Spells IsProduct a x) : Spells IsSum a x :=
  h.imp fun _ h => ⟨h.1, .product h.2⟩

theorem product_of_primary (h : Spells IsPrimary a x) : Spells IsProduct a x :=
  h.signed.product

theorem sum_of_primary (h : Spells IsPrimary a x) : Spells IsSum a x :=
  h.signed.product.sum

theorem congr {P : List Token → Expr → Prop} (h : Spells P a x) (htext : b = a) : Spells P b x :=
  htext ▸ h

theorem number {value : Dimension} (h : scan a.toList = ⟨[.number value], none⟩) :
    Spells IsPrimary a (.number value) :=
  ⟨_, h, .number value⟩

theorem name (h : scan a.toList = ⟨[.name a], none⟩) : Spells IsPrimary a (.name a) :=
  ⟨_, h, .name a⟩

theorem minus (h : Spells IsSigned a x) : Spells IsSigned ("-" ++ a) (.neg x) := by
  obtain ⟨tokens, hscan, hx⟩ := h
  refine ⟨.minus :: tokens, ?_, .minus hx⟩
  simpa using scan_cons_symbol (q := '-') (by decide) rfl hscan

theorem chain_sum (op : Operator) (hop : op.isAdditive = true) (ha : Spells IsSum a x)
    (hb : Spells IsProduct b y) : Spells IsSum (a ++ op.spaced ++ b) (.binary op x y) := by
  obtain ⟨ls, hls, hx⟩ := ha
  obtain ⟨rs, hrs, hy⟩ := hb
  refine ⟨ls ++ op.token :: rs, ?_, .chain hop hx hy⟩
  rw [String.toList_append, String.toList_append, scan_append_operator op hls hrs]

theorem chain_product (op : Operator) (hop : op.isAdditive = false) (ha : Spells IsProduct a x)
    (hb : Spells IsSigned b y) : Spells IsProduct (a ++ op.spaced ++ b) (.binary op x y) := by
  obtain ⟨ls, hls, hx⟩ := ha
  obtain ⟨rs, hrs, hy⟩ := hb
  refine ⟨ls ++ op.token :: rs, ?_, .chain hop hx hy⟩
  rw [String.toList_append, String.toList_append, scan_append_operator op hls hrs]

theorem group (h : Spells IsSum a x) : Spells IsPrimary ("(" ++ a ++ ")") x := by
  obtain ⟨tokens, hscan, hx⟩ := h
  refine ⟨.leftParen :: (tokens ++ [.rightParen]), ?_, .group hx⟩
  have hclose := scan_append_of_ok (q := ')') (by decide) hscan scan_nil
  simpa [separatorTokens] using scan_cons_symbol (q := '(') (by decide) rfl hclose

theorem argument (h : Spells IsSum a x) : Spells IsArguments a [x] :=
  h.imp fun _ h => ⟨h.1, .one h.2⟩

theorem arguments (ha : Spells IsSum a x) (hb : Spells IsArguments b xs) :
    Spells IsArguments (a ++ ", " ++ b) (x :: xs) := by
  obtain ⟨ls, hls, hx⟩ := ha
  obtain ⟨rs, hrs, hxs⟩ := hb
  refine ⟨ls ++ .comma :: rs, ?_, .cons hx hxs⟩
  have hblank : scan (' ' :: b.toList) = ⟨rs, none⟩ := by rw [scan_cons_of_blank (by decide), hrs]
  simpa [separatorTokens] using scan_append_of_ok (q := ',') (by decide) hls hblank

theorem call (function : String) (hfunction : scan function.toList = ⟨[.name function], none⟩)
    (h : Spells IsArguments a xs) :
    Spells IsPrimary (function ++ "(" ++ a ++ ")") (.call function xs) := by
  obtain ⟨tokens, hscan, hxs⟩ := h
  refine ⟨.name function :: .leftParen :: (tokens ++ [.rightParen]), ?_, .call function hxs⟩
  have hclose := scan_append_of_ok (q := ')') (by decide) hscan scan_nil
  simpa [separatorTokens] using scan_append_of_ok (q := '(') (by decide) hfunction hclose

theorem call_calc (h : Spells IsSum a x) : Spells IsPrimary ("calc(" ++ a ++ ")") (.call "calc" [x]) :=
  Spells.call "calc" (scan_token rfl rfl rfl) h.argument

theorem call_two (function : String) (hfunction : scan function.toList = ⟨[.name function], none⟩)
    (ha : Spells IsSum a x) (hb : Spells IsSum b y) :
    Spells IsPrimary (function ++ "(" ++ a ++ ", " ++ b ++ ")") (.call function [x, y]) := by
  have hcall := Spells.call function hfunction (ha.arguments hb.argument)
  simpa only [String.append_assoc] using hcall

theorem extremum (function : Extremum) (ha : Spells IsSum a x) (hb : Spells IsSum b y) :
    Spells IsPrimary (function.name ++ "(" ++ a ++ ", " ++ b ++ ")") (.extremum function x y) := by
  refine Spells.call_two function.name ?_ ha hb
  cases function with
  | min | max => exact scan_token rfl rfl rfl

theorem call_three (function : String)
    (hfunction : scan function.toList = ⟨[.name function], none⟩) (ha : Spells IsSum a x)
    (hb : Spells IsSum b y) (hc : Spells IsSum c z) :
    Spells IsPrimary (function ++ "(" ++ a ++ ", " ++ b ++ ", " ++ c ++ ")")
      (.call function [x, y, z]) := by
  have hcall := Spells.call function hfunction (ha.arguments (hb.arguments hc.argument))
  simpa only [String.append_assoc] using hcall

end Spells

/-! ## Sums behind a plus sign -/

/-- What becomes of a text that spells `sum` behind a plus sign: `attach` gives the
    tree of the whole from the tree in front. -/
structure Attaches (text : String) (sum : Expr) (attach : Expr → Expr) : Prop where
  spells : ∀ {a : String} {first : Expr}, Spells IsSum a first →
    Spells IsSum (a ++ " + " ++ text) (attach first)
  addsOnto : ∀ first, AddsOnto first sum (attach first)
  whole_iff : ∀ first, attach first = .binary .add first sum ↔ IsProductText text

/-- A sum behind a plus sign need not be in parentheses to be read, but only a
    product is read as a whole there. -/
theorem Spells.attaches {text : String} {sum : Expr} (h : Spells IsSum text sum) :
    ∃ attach, Attaches text sum attach := by
  obtain ⟨tokens, hscan, hsum⟩ := h
  obtain ⟨attach, hderives, hadds, hwhole⟩ := hsum.add_sum
  refine ⟨attach, ?_, hadds, fun first => (hwhole first).trans ⟨fun hproduct => ?_, ?_⟩⟩
  · rintro a first ⟨ls, hls, hfirst⟩
    refine ⟨ls ++ .plus :: tokens, ?_, hderives hfirst⟩
    rw [String.toList_append, String.toList_append]
    exact scan_append_operator .add hls hscan
  · exact ⟨sum, tokens, hscan, hproduct⟩
  · rintro ⟨tree, tokens', hscan', hproduct⟩
    obtain ⟨rfl, -⟩ := Scan.mk.inj (hscan.symm.trans hscan')
    rwa [hsum.unique (.product hproduct)]

theorem not_isProductText_chain {a b : String} {x y : Expr} (op : Operator)
    (hop : op.isAdditive = true) (ha : Spells IsSum a x) (hb : Spells IsProduct b y) :
    ¬ IsProductText (a ++ op.spaced ++ b) := by
  obtain ⟨ls, hls, hx⟩ := ha
  obtain ⟨rs, hrs, hy⟩ := hb
  rintro ⟨tree, tokens, hscan, hproduct⟩
  rw [String.toList_append, String.toList_append, scan_append_operator op hls hrs] at hscan
  obtain ⟨rfl, -⟩ := Scan.mk.inj hscan
  exact IsProduct.not_chain hop hx hy hproduct

theorem isProductText_number {text : String} (value : Dimension)
    (h : scan text.toList = ⟨[.number value], none⟩) : IsProductText text :=
  ⟨_, (Spells.number h).signed.product⟩

end BranchlessCalc.Calc
