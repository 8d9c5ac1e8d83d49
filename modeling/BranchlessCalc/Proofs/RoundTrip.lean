/-
  BranchlessCalc.Proofs.RoundTrip

  Written conditions, comparisons and operators are read back.

  What is written scans back into its tokens, so reading it as a stream comes down
  to reading its JSON value, and that gives the condition again. Only the limit on
  open brackets stands in the way: a condition has as many levels as its text has
  brackets open at once, and one level too many is an error of syntax, on whichever
  side of the tree it lies (`conditionItems_deep`). Since nothing that deep is ever
  read, whatever has been read can be written and read again.
-/
import BranchlessCalc.Proofs.StreamReader
import BranchlessCalc.Proofs.WrittenJson

namespace BranchlessCalc

/-! ## Conditions that nest too deep -/

namespace Reader

open Json (itemsTokens)

theorem itemsTokens_logic (ls rs : List Json) (spelling : String) (rest : List Json.Token) :
    itemsTokens [.array ls, .string spelling, .array rs] ++ rest =
      .leftBracket :: (itemsTokens ls ++ .comma :: .string (some spelling) :: .comma ::
        .leftBracket :: (itemsTokens rs ++ .rightBracket :: rest)) := by
  simp [itemsTokens, Json.itemsTail, Json.tokens]

/-- A condition with more levels than brackets may be open is no JSON text, wherever
    its deepest level is. -/
theorem conditionItems_deep {items : List Json} {c : Condition} (h : Condition.IsItems items c)
    {limit : Nat} (hdeep : limit + 1 < c.depth) (rest : List Json.Token) :
    conditionItems limit (itemsTokens items ++ rest) = .error .syntaxError := by
  induction h generalizing limit rest with
  | compare _ =>
    rw [Condition.depth] at hdeep
    omega
  | @logic ls rs spelling op left right hls hop _ ihleft ihright =>
    rw [Condition.depth] at hdeep
    rw [itemsTokens_logic]
    cases limit with
    | zero => rfl
    | succ limit =>
      rw [conditionItems_leftBracket]
      by_cases hleft : left.depth ≤ limit + 1
      · -- The left operand is read, so the right one is too deep.
        have hnesting := hls.nesting
        rw [conditionItems_tokens (by omega) hls.finite, hls.ofItems, outcome, ok_bind]
        show connectiveTail (conditionItems limit) left _ = _
        rw [connectiveTail_of_ok hop, ihright (by omega)]
        rfl
      · rw [ihleft (by omega)]
        rfl

end Reader

/-! ## Written texts -/

theorem Comparison.scansBack_toJson (c : Comparison) : c.toJson.ScansBack :=
  Json.scansBack_triple (Json.scansBack_string _) (Json.scansBack_string _)
    (Json.scansBack_string _)

theorem Condition.scansBack_toJson (c : Condition) : c.toJson.ScansBack := by
  induction c with
  | compare comparison => exact comparison.scansBack_toJson
  | logic left op right ihleft ihright =>
    exact Json.scansBack_triple ihleft (Json.scansBack_string _) ihright

theorem Condition.read_write_of_le {c : Condition} (h : c.depth ≤ 127) :
    Condition.read c.write = .ok c := by
  obtain ⟨items, hjson, hitems⟩ := c.exists_items_toJson
  exact Condition.read_eq_ok_iff.mpr ⟨c.toJson, c.scansBack_toJson.parse?,
    Condition.ofJson_eq_ok_iff.mpr ⟨items, hjson, hitems⟩, h⟩

theorem Condition.read_write_of_lt {c : Condition} (h : 127 < c.depth) :
    Condition.read c.write = .error .syntaxError := by
  obtain ⟨items, hjson, hitems⟩ := c.exists_items_toJson
  have hscan : Json.scan c.write.toList = ⟨(Json.array items).tokens, true⟩ := by
    rw [← hjson]
    exact Json.parse?_eq_some_iff.mp c.scansBack_toJson.parse?
  have hdeep := Reader.conditionItems_deep hitems h []
  rw [List.append_nil] at hdeep
  refine Reader.run_of_error ?_
  rw [hscan, Json.tokens]
  exact hdeep

theorem Comparison.read_write (c : Comparison) : Comparison.read c.write = .ok c := by
  have hscan := Json.parse?_eq_some_iff.mp c.scansBack_toJson.parse?
  refine Reader.run_eq_ok_iff.mpr ⟨_, hscan, ?_⟩
  simp only [Comparison.toJson, Json.tokens, Json.itemsTokens, Json.itemsTail,
    List.singleton_append, Reader.comparison, Reader.firstItem, Reader.nextItem, Reader.text, ok_bind,
    Reader.compareOp, Reader.spelled_string, CompareOp.ofText_name, Reader.outcome]
  rfl

theorem CompareOp.read_write (op : CompareOp) : CompareOp.read op.write = .ok op := by
  have hscan := Json.parse?_eq_some_iff.mp (Json.scansBack_string op.name).parse?
  refine Reader.run_eq_ok_iff.mpr ⟨_, hscan, ?_⟩
  rw [Json.tokens, Reader.compareOp, Reader.spelled_string, CompareOp.ofText_name]
  rfl

theorem Connective.read_write (op : Connective) : Connective.read op.write = .ok op := by
  have hscan := Json.parse?_eq_some_iff.mp (Json.scansBack_string op.name).parse?
  refine Reader.run_eq_ok_iff.mpr ⟨_, hscan, ?_⟩
  rw [Json.tokens, Reader.connective, Reader.spelled_string, Connective.ofText_name]
  rfl

/-- A written condition is read back if it has at most 127 levels, and is no JSON text
    to the reader if it has more. Nothing that is read has more, so it can be written
    and read again. Comparisons and operators are always read back. -/
theorem write_read_roundTrip :
    (∀ c : Condition, (c.depth ≤ 127 → Condition.read c.write = .ok c) ∧
      (128 ≤ c.depth → Condition.read c.write = .error .syntaxError)) ∧
    (∀ text c, Condition.read text = .ok c →
      c.depth ≤ 127 ∧ Condition.read c.write = .ok c) ∧
    (∀ c : Comparison, Comparison.read c.write = .ok c) ∧
    (∀ op : CompareOp, CompareOp.read op.write = .ok op) ∧
    ∀ op : Connective, Connective.read op.write = .ok op := by
  refine ⟨fun c => ⟨Condition.read_write_of_le, Condition.read_write_of_lt⟩, ?_,
    Comparison.read_write, CompareOp.read_write, Connective.read_write⟩
  intro text c hread
  obtain ⟨_, _, _, hdepth⟩ := Condition.read_eq_ok_iff.mp hread
  exact ⟨hdepth, Condition.read_write_of_le hdepth⟩

theorem Condition.lt_depth_repeat (op : Connective) (leaf : Comparison) (n : Nat) :
    n < (Nat.repeat (fun c => logic c op (compare leaf)) n (compare leaf)).depth := by
  induction n with
  | zero => exact Nat.one_pos
  | succ n ih =>
    show n + 1 < 1 + max (depth (Nat.repeat _ n _)) _
    omega

/-- A text with escapes, white space and a padded sign for an operator is read, and
    so is what is written for it; 128 levels are not. -/
theorem write_read_roundTrip_escaped :
    Condition.read " [ \"\\u0000\\\"\",\t\" \\u2264 \", \"\\ud83d\\ude00\\/\"]\n" =
      .ok (.compare ⟨"\x00\"", .lessEquals, "😀/"⟩) ∧
    Condition.read (Condition.write (.compare ⟨"\x00\"", .lessEquals, "😀/"⟩)) =
      .ok (.compare ⟨"\x00\"", .lessEquals, "😀/"⟩) ∧
    Condition.read (Condition.write (Nat.repeat (fun c => .logic c .and (.compare ⟨"a", .less, "b"⟩))
      127 (.compare ⟨"a", .less, "b"⟩))) = .error .syntaxError := by
  have hread : Condition.read
      " [ \"\\u0000\\\"\",\t\" \\u2264 \", \"\\ud83d\\ude00\\/\"]\n" =
        .ok (.compare ⟨"\x00\"", .lessEquals, "😀/"⟩) := by with_unfolding_all rfl
  exact ⟨hread, (write_read_roundTrip.2.1 _ _ hread).2,
    (write_read_roundTrip.1 _).2 (Condition.lt_depth_repeat .and _ 127)⟩

end BranchlessCalc
