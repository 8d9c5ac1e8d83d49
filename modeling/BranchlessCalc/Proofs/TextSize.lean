/-
  BranchlessCalc.Proofs.TextSize

  The size of compiled texts, in bytes of UTF-8.

  Templates repeat what they are filled with. The result stands up to eleven times
  in the mask of a comparison, and each operand twice. But a connective writes the
  masks of its two sides once, and only repeats the result. So the text grows with
  the number of comparisons and connectives, and not with the depth of the tree
  (`Condition.utf8ByteSize_mask_le`). How often an operand or a mask is written is
  also said without a count of bytes, by the places in a text that it fills
  (`EmbedsOnce`, `EmbedsTwice`).
-/
import BranchlessCalc.Condition.Compile
import BranchlessCalc.Proofs.Truth

namespace BranchlessCalc

/-! ## Sizes of templates

The numbers behind `show` are the sizes of the fixed parts of the template, in
their order. -/

namespace Mask

theorem utf8ByteSize_ofBothSigns (function value : String) :
    (ofBothSigns function value).utf8ByteSize =
      function.utf8ByteSize + 2 * value.utf8ByteSize + 11 := by
  unfold ofBothSigns
  simp only [String.utf8ByteSize_append]
  show function.utf8ByteSize + 1 + value.utf8ByteSize + 3 + value.utf8ByteSize + 7 = _
  omega

theorem utf8ByteSize_stepFix (result : String) :
    (stepFix result).utf8ByteSize = 2 * result.utf8ByteSize + 54 := by
  unfold stepFix
  simp only [String.utf8ByteSize_append, magnitude, utf8ByteSize_ofBothSigns]
  show 7 + 3 + 12 + (3 + 2 * result.utf8ByteSize + 11) + 2 + 3 + 4 + 3 + 2 + 3 + 1 = _
  omega

theorem utf8ByteSize_distance (difference result : String) :
    (distance difference result).utf8ByteSize =
      difference.utf8ByteSize + 2 * result.utf8ByteSize + 28 := by
  unfold distance
  simp only [String.utf8ByteSize_append, magnitude, utf8ByteSize_ofBothSigns]
  show 6 + 3 + 2 + difference.utf8ByteSize + 2 + (3 + 2 * result.utf8ByteSize + 11) + 1 = _
  omega

theorem utf8ByteSize_moved (difference result : String) :
    (moved difference result).utf8ByteSize =
      2 * difference.utf8ByteSize + 6 * result.utf8ByteSize + 85 := by
  have hdistance := utf8ByteSize_distance difference result
  unfold moved
  simp only [String.utf8ByteSize_append]
  show 4 + 3 + 2 + result.utf8ByteSize + 3 + (distance difference result).utf8ByteSize + 8 + 3 + 2
    + result.utf8ByteSize + 3 + (distance difference result).utf8ByteSize + 1 = _
  omega

theorem utf8ByteSize_whenPositive (difference result : String) :
    (whenPositive difference result).utf8ByteSize =
      2 * difference.utf8ByteSize + 10 * result.utf8ByteSize + 174 := by
  have hmoved := utf8ByteSize_moved difference result
  have hfix := utf8ByteSize_stepFix result
  unfold whenPositive
  simp only [String.utf8ByteSize_append]
  show 20 + (moved difference result).utf8ByteSize + 2 + result.utf8ByteSize + 3
    + (stepFix result).utf8ByteSize + 9 + result.utf8ByteSize + 1 = _
  omega

theorem utf8ByteSize_whenNonnegative (difference result : String) :
    (whenNonnegative difference result).utf8ByteSize =
      2 * difference.utf8ByteSize + 11 * result.utf8ByteSize + 197 := by
  have hflipped : ("(" ++ difference ++ ") * -1").utf8ByteSize =
      1 + difference.utf8ByteSize + 6 := by
    simp only [String.utf8ByteSize_append]
    rfl
  have hpositive := utf8ByteSize_whenPositive ("(" ++ difference ++ ") * -1") result
  unfold whenNonnegative
  simp only [String.utf8ByteSize_append] at hflipped hpositive ⊢
  show 5 + result.utf8ByteSize + 3
    + (whenPositive ("(" ++ difference ++ ") * -1") result).utf8ByteSize + 1 = _
  omega

/-- Operands are written twice, and the result eleven times at most. -/
theorem utf8ByteSize_above_le (value threshold result : String) (strict : Bool) :
    (above value threshold result strict).utf8ByteSize ≤
      2 * (value.utf8ByteSize + threshold.utf8ByteSize) + 11 * result.utf8ByteSize + 207 := by
  have hdifference : (value ++ " - (" ++ threshold ++ ")").utf8ByteSize =
      value.utf8ByteSize + 4 + threshold.utf8ByteSize + 1 := by
    simp only [String.utf8ByteSize_append]
    rfl
  unfold above ofDifference
  cases strict with
  | true =>
    rw [if_pos rfl, utf8ByteSize_whenPositive]
    omega
  | false =>
    rw [if_neg Bool.false_ne_true, utf8ByteSize_whenNonnegative]
    omega

theorem utf8ByteSize_heldSum (left right result : String) :
    (heldSum left right result).utf8ByteSize =
      left.utf8ByteSize + right.utf8ByteSize + 4 * result.utf8ByteSize + 42 := by
  unfold heldSum
  simp only [String.utf8ByteSize_append, magnitude, negMagnitude, utf8ByteSize_ofBothSigns]
  show 6 + (3 + 2 * result.utf8ByteSize + 11) + 2 + left.utf8ByteSize + 3 + right.utf8ByteSize + 2
    + (3 + 2 * result.utf8ByteSize + 11) + 1 = _
  omega

theorem utf8ByteSize_both (left right result : String) :
    (both left right result).utf8ByteSize =
      left.utf8ByteSize + right.utf8ByteSize + 7 * result.utf8ByteSize + 123 := by
  have hfix := utf8ByteSize_stepFix result
  unfold both
  simp only [String.utf8ByteSize_append, magnitude, negMagnitude, utf8ByteSize_ofBothSigns]
  show 6 + (3 + 2 * result.utf8ByteSize + 11) + 17 + left.utf8ByteSize + 3 + right.utf8ByteSize + 3
    + result.utf8ByteSize + 8 + (stepFix result).utf8ByteSize + 3
    + (3 + 2 * result.utf8ByteSize + 11) + 1 = _
  omega

end Mask

/-! ## Sizes of conditions -/

theorem CompareOp.utf8ByteSize_mask_le (op : CompareOp) (left right result : String) :
    (op.mask left right result).utf8ByteSize ≤
      2 * (left.utf8ByteSize + right.utf8ByteSize) + (11 * result.utf8ByteSize + 256) := by
  cases op with
  | more | moreEquals =>
    have habove := Mask.utf8ByteSize_above_le left right result
    exact (habove _).trans (by omega)
  | less | lessEquals =>
    -- What is below is above with the operands exchanged.
    have habove := Mask.utf8ByteSize_above_le right left result
    exact (habove _).trans (by omega)

/-- A connective adds to the masks of its sides no more than a comparison may take. -/
theorem Connective.utf8ByteSize_mask_le (op : Connective) (left right result : String) :
    (op.mask left right result).utf8ByteSize ≤
      left.utf8ByteSize + right.utf8ByteSize + (11 * result.utf8ByteSize + 256) := by
  cases op with
  | or =>
    have hsize := Mask.utf8ByteSize_heldSum left right result
    exact hsize.le.trans (by omega)
  | and =>
    have hsize := Mask.utf8ByteSize_both left right result
    exact hsize.le.trans (by omega)

namespace Condition

/-- The number of connectives in a condition. -/
def connectives : Condition → Nat
  | compare _ => 0
  | logic left _ right => left.connectives + right.connectives + 1

/-- The size of all operands together. -/
def operandBytes (c : Condition) : Nat :=
  (c.operands.map String.utf8ByteSize).sum

theorem operandBytes_compare (c : Comparison) :
    (compare c).operandBytes = c.left.utf8ByteSize + c.right.utf8ByteSize := by
  show c.left.utf8ByteSize + (c.right.utf8ByteSize + 0) = _
  omega

theorem operandBytes_logic (left : Condition) (op : Connective) (right : Condition) :
    (logic left op right).operandBytes = left.operandBytes + right.operandBytes := by
  rw [operandBytes, operands_logic, List.map_append, List.sum_append]
  rfl

theorem utf8ByteSize_mask_le (c : Condition) (result : String) :
    (c.mask result).utf8ByteSize ≤ 2 * c.operandBytes
      + (c.leaves.length + c.connectives) * (11 * result.utf8ByteSize + 256) := by
  induction c with
  | compare c =>
    have hleaf := c.op.utf8ByteSize_mask_le c.left c.right result
    have hparts : (compare c).leaves.length + (compare c).connectives = 1 := rfl
    rw [mask, operandBytes_compare, hparts, Nat.one_mul]
    exact hleaf
  | logic left op right ihl ihr =>
    have hnode := op.utf8ByteSize_mask_le (left.mask result) (right.mask result) result
    have hsides := Nat.add_le_add ihl ihr
    have hparts : (logic left op right).leaves.length + (logic left op right).connectives =
        left.leaves.length + left.connectives + (right.leaves.length + right.connectives)
          + 1 := by
      simp only [leaves, connectives, List.length_append]
      omega
    -- Each side pays for itself, and the connective for one part more.
    rw [mask, operandBytes_logic, hparts, Nat.add_mul, Nat.add_mul, Nat.one_mul]
    refine hnode.trans ((Nat.add_le_add_right hsides _).trans ?_)
    omega

end Condition

/-! ## Places in texts -/

/-- The texts of `f` have one place for what they are made from, and around it they
    are all alike. -/
def EmbedsOnce (f : String → String) : Prop :=
  ∃ before after, ∀ text, f text = before ++ text ++ after

/-- The texts of `f` have two places for what they are made from, and around these
    they are all alike. -/
def EmbedsTwice (f : String → String) : Prop :=
  ∃ before between after, ∀ text, f text = before ++ text ++ between ++ text ++ after

theorem EmbedsOnce.comp {f g : String → String} (hf : EmbedsOnce f) (hg : EmbedsOnce g) :
    EmbedsOnce fun text => f (g text) := by
  obtain ⟨before, after, hf⟩ := hf
  obtain ⟨before', after', hg⟩ := hg
  refine ⟨before ++ before', after' ++ after, ?_⟩
  intro text
  simp only [hf, hg, String.append_assoc]

theorem EmbedsOnce.comp_twice {f g : String → String} (hf : EmbedsOnce f) (hg : EmbedsTwice g) :
    EmbedsTwice fun text => f (g text) := by
  obtain ⟨before, after, hf⟩ := hf
  obtain ⟨before', between, after', hg⟩ := hg
  refine ⟨before ++ before', between, after' ++ after, ?_⟩
  intro text
  simp only [hf, hg, String.append_assoc]

theorem EmbedsTwice.comp_once {f g : String → String} (hf : EmbedsTwice f) (hg : EmbedsOnce g) :
    EmbedsTwice fun text => f (g text) := by
  obtain ⟨before, between, after, hf⟩ := hf
  obtain ⟨before', after', hg⟩ := hg
  refine ⟨before ++ before', after' ++ between ++ before', after' ++ after, ?_⟩
  intro text
  simp only [hf, hg, String.append_assoc]

namespace Mask

theorem embedsOnce_distance (result : String) :
    EmbedsOnce fun difference => distance difference result := by
  refine ⟨"clamp(" ++ zero ++ ", ", ", " ++ magnitude result ++ ")", ?_⟩
  intro difference
  unfold distance
  simp only [String.append_assoc]

/-- The distance is taken from the result and added to it, so it is written twice. -/
theorem embedsTwice_moved (result : String) :
    EmbedsTwice fun difference => moved difference result := by
  have htwice : EmbedsTwice fun text => "max(" ++ zero ++ ", " ++ result ++ " - " ++ text
      ++ ") + min(" ++ zero ++ ", " ++ result ++ " + " ++ text ++ ")" := by
    refine ⟨"max(" ++ zero ++ ", " ++ result ++ " - ",
      ") + min(" ++ zero ++ ", " ++ result ++ " + ", ")", ?_⟩
    intro text
    simp only [String.append_assoc]
  exact htwice.comp_once (embedsOnce_distance result)

theorem embedsTwice_whenPositive (result : String) :
    EmbedsTwice fun difference => whenPositive difference result := by
  have honce : EmbedsOnce fun text => "calc(round(to-zero, " ++ text ++ ", " ++ result ++ " + "
      ++ stepFix result ++ ") * -1 + " ++ result ++ ")" := by
    refine ⟨"calc(round(to-zero, ",
      ", " ++ result ++ " + " ++ stepFix result ++ ") * -1 + " ++ result ++ ")", ?_⟩
    intro text
    simp only [String.append_assoc]
  exact honce.comp_twice (embedsTwice_moved result)

theorem embedsTwice_whenNonnegative (result : String) :
    EmbedsTwice fun difference => whenNonnegative difference result := by
  have hcalc : EmbedsOnce fun mask => "calc(" ++ result ++ " - " ++ mask ++ ")" :=
    ⟨"calc(" ++ result ++ " - ", ")", fun _ => rfl⟩
  have hflipped : EmbedsOnce fun difference => "(" ++ difference ++ ") * -1" :=
    ⟨"(", ") * -1", fun _ => rfl⟩
  exact hcalc.comp_twice ((embedsTwice_whenPositive result).comp_once hflipped)

theorem embedsTwice_ofDifference (result : String) (strict : Bool) :
    EmbedsTwice fun difference => ofDifference difference result strict := by
  cases strict with
  | true => exact embedsTwice_whenPositive result
  | false => exact embedsTwice_whenNonnegative result

theorem embedsTwice_above_value (threshold result : String) (strict : Bool) :
    EmbedsTwice fun value => above value threshold result strict := by
  refine (embedsTwice_ofDifference result strict).comp_once ⟨"", " - (" ++ threshold ++ ")", ?_⟩
  intro value
  simp [← String.toList_inj]

theorem embedsTwice_above_threshold (value result : String) (strict : Bool) :
    EmbedsTwice fun threshold => above value threshold result strict :=
  (embedsTwice_ofDifference result strict).comp_once ⟨value ++ " - (", ")", fun _ => rfl⟩

end Mask

theorem CompareOp.embedsTwice_mask_left (op : CompareOp) (right result : String) :
    EmbedsTwice fun left => op.mask left right result := by
  cases op with
  | less | lessEquals => exact Mask.embedsTwice_above_threshold right result _
  | more | moreEquals => exact Mask.embedsTwice_above_value right result _

theorem CompareOp.embedsTwice_mask_right (op : CompareOp) (left result : String) :
    EmbedsTwice fun right => op.mask left right result := by
  cases op with
  | less | lessEquals => exact Mask.embedsTwice_above_value left result _
  | more | moreEquals => exact Mask.embedsTwice_above_threshold left result _

/-- A connective writes each of its two masks once, and nothing else depends on them. -/
theorem Connective.exists_mask_eq (op : Connective) (result : String) :
    ∃ before after, ∀ left right,
      op.mask left right result = before ++ left ++ " + " ++ right ++ after := by
  cases op with
  | or =>
    refine ⟨"clamp(" ++ Mask.negMagnitude result ++ ", ",
      ", " ++ Mask.magnitude result ++ ")", ?_⟩
    intro left right
    show Mask.heldSum left right result = _
    unfold Mask.heldSum
    simp only [String.append_assoc]
  | and =>
    refine ⟨"clamp(" ++ Mask.negMagnitude result ++ ", round(to-zero, ", ", (" ++ result
      ++ ") * 2 + " ++ Mask.stepFix result ++ "), " ++ Mask.magnitude result ++ ")", ?_⟩
    intro left right
    show Mask.both left right result = _
    unfold Mask.both
    simp only [String.append_assoc]

theorem Connective.embedsOnce_mask_left (op : Connective) (right result : String) :
    EmbedsOnce fun left => op.mask left right result := by
  obtain ⟨before, after, hmask⟩ := op.exists_mask_eq result
  refine ⟨before, " + " ++ right ++ after, ?_⟩
  intro left
  simp only [hmask, String.append_assoc]

theorem Connective.embedsOnce_mask_right (op : Connective) (left result : String) :
    EmbedsOnce fun right => op.mask left right result := by
  obtain ⟨before, after, hmask⟩ := op.exists_mask_eq result
  exact ⟨before ++ left ++ " + ", after, hmask left⟩

namespace Condition

/-- The mask of a part stands once in the mask of the whole, however deep the part is. -/
theorem Context.exists_embedsOnce (result : String) (around : Context) :
    ∃ f, EmbedsOnce f ∧
      ∀ inner : Condition, (around.fill inner).mask result = f (inner.mask result) := by
  induction around with
  | hole =>
    refine ⟨id, ⟨"", "", ?_⟩, fun inner => rfl⟩
    intro text
    simp
  | inLeft _ op right ih =>
    obtain ⟨f, hf, hfill⟩ := ih
    refine ⟨_, (op.embedsOnce_mask_left (right.mask result) result).comp hf, ?_⟩
    intro inner
    rw [Context.fill, mask, hfill]
  | inRight left op _ ih =>
    obtain ⟨f, hf, hfill⟩ := ih
    refine ⟨_, (op.embedsOnce_mask_right (left.mask result) result).comp hf, ?_⟩
    intro inner
    rw [Context.fill, mask, hfill]

/-! ## Compiled texts -/

/-- A compiled condition is linear in the number of comparisons and connectives, with
    each operand paid for twice. For at any depth, the mask of a part stands in one
    place of the whole text, and each operand of a comparison in two. -/
theorem compile_size (c : Condition) (result : String) :
    (c.compile result).value.utf8ByteSize ≤ 2 * (c.operands.map String.utf8ByteSize).sum
      + (c.leaves.length + c.connectives) * (11 * result.utf8ByteSize + 256) ∧
    ∀ around : Context,
      (∃ f, EmbedsOnce f ∧ ∀ inner : Condition,
        ((around.fill inner).compile result).value = f (inner.compile result).value) ∧
      (∀ op right, EmbedsTwice fun left =>
        ((around.fill (compare ⟨left, op, right⟩)).compile result).value) ∧
      (∀ op left, EmbedsTwice fun right =>
        ((around.fill (compare ⟨left, op, right⟩)).compile result).value) := by
  refine ⟨c.utf8ByteSize_mask_le result, ?_⟩
  intro around
  obtain ⟨f, hf, hfill⟩ := around.exists_embedsOnce result
  refine ⟨⟨f, hf, hfill⟩, ?_, ?_⟩
  · intro op right
    have htwice := hf.comp_twice (op.embedsTwice_mask_left right result)
    simp only [compile, hfill, mask]
    exact htwice
  · intro op left
    have htwice := hf.comp_twice (op.embedsTwice_mask_right left result)
    simp only [compile, hfill, mask]
    exact htwice

end Condition

end BranchlessCalc
