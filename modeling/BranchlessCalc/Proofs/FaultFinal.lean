/-
  BranchlessCalc.Proofs.FaultFinal

  A fault of shape is final: no continuation of the text changes it.

  A reader looks at its tokens in order and stops at the first fault. What it has
  found by then does not depend on the tokens behind, so in front of more tokens it
  either finds the same or was stopped by the end of the tokens before, which is an
  error of syntax (`Continues`). This is kept when one reading follows another, and
  so holds of conditions at any depth. With the scan of a text that goes on, it holds
  of texts.
-/
import BranchlessCalc.Proofs.ScanPrefix
import BranchlessCalc.Proofs.StreamReader

namespace BranchlessCalc

namespace Reader

/-! ## Outcomes in front of more tokens -/

/-- `after` is what `before` becomes in front of more tokens: the same, with `extend`
    applied to what is left, unless the tokens ended too early for an answer. -/
def Continues {α : Type} (extend : α → α) (before after : Except ReadError α) : Prop :=
  before = .error .syntaxError ∨ after = before.map extend

/-- More tokens behind what a reader leaves. -/
def extendRest {α : Type} (more : List Json.Token) (read : α × List Json.Token) :
    α × List Json.Token :=
  (read.1, read.2 ++ more)

/-- A reader finds the same in front of more tokens. -/
def IsContinued {α : Type} (reader : Reader α) : Prop :=
  ∀ tokens more, Continues (extendRest more) (reader tokens) (reader (tokens ++ more))

theorem Continues.bind {α β : Type} {extend : α → α} {extend' : β → β}
    {before after : Except ReadError α} {next : α → Except ReadError β}
    (h : Continues extend before after)
    (hnext : ∀ value, Continues extend' (next value) (next (extend value))) :
    Continues extend' (before >>= next) (after >>= next) := by
  obtain rfl | rfl := h
  · exact .inl rfl
  · cases before with
    | error error => exact .inr rfl
    | ok value => exact hnext value

theorem continues_syntaxError {α : Type} {extend : α → α} {after : Except ReadError α} :
    Continues extend (.error .syntaxError) after := .inl rfl

/-- A fault stays. -/
theorem Continues.fault {α : Type} {extend : α → α} {before after : Except ReadError α}
    {fault : Fault} (h : Continues extend before after) (hfault : before = .error (.fault fault)) :
    after = .error (.fault fault) := by
  subst hfault
  obtain h | rfl := h
  · cases h
  · rfl

/-! ## The readers -/

theorem text_continued : IsContinued text := by
  intro tokens more
  cases tokens with
  | nil => exact continues_syntaxError
  | cons token tokens =>
    cases token with
    | string text? => cases text? <;> exact .inr rfl
    | null | bool | number => exact .inr rfl
    | leftBracket | rightBracket | leftBrace | rightBrace | comma | colon => exact .inr rfl

theorem spelled_continued {α : Type} (ofText : String → Except Fault α) :
    IsContinued (spelled ofText) := by
  intro tokens more
  refine (text_continued tokens more).bind fun (spelling, rest) => ?_
  cases hspelling : ofText spelling with
  | error fault =>
    simp only [extendRest, hspelling]
    exact .inr rfl
  | ok value =>
    simp only [extendRest, hspelling]
    exact .inr rfl

section Items

variable (missing : Fault) (tokens more : List Json.Token)

theorem firstItem_continued :
    Continues (· ++ more) (firstItem missing tokens) (firstItem missing (tokens ++ more)) := by
  cases tokens with
  | nil => exact continues_syntaxError
  | cons token tokens => cases token <;> exact .inr rfl

theorem nextItem_continued :
    Continues (· ++ more) (nextItem missing tokens) (nextItem missing (tokens ++ more)) := by
  cases tokens with
  | nil => exact continues_syntaxError
  | cons token tokens => cases token <;> exact .inr rfl

theorem closeCondition_continued :
    Continues (· ++ more) (closeCondition tokens) (closeCondition (tokens ++ more)) := by
  cases tokens with
  | nil => exact continues_syntaxError
  | cons token tokens =>
    cases token with
    | comma =>
      rw [List.cons_append, closeCondition, closeCondition]
      -- The fourth item is passed over before it is reported, so it has to be whole.
      cases hskip : Json.skipValue tokens with
      | none => exact continues_syntaxError
      | some rest =>
        rw [Json.skipValue_append hskip]
        exact .inr rfl
    | string | null | bool | number => exact .inr rfl
    | leftBracket | rightBracket | leftBrace | rightBrace | colon => exact .inr rfl

end Items

theorem comparisonTail_continued (left : String) : IsContinued (comparisonTail left) := by
  intro tokens more
  refine (nextItem_continued _ tokens more).bind fun tokens => ?_
  refine (spelled_continued CompareOp.ofText tokens more).bind fun (op, tokens) => ?_
  refine (nextItem_continued _ tokens more).bind fun tokens => ?_
  refine (text_continued tokens more).bind fun (right, tokens) => ?_
  refine (closeCondition_continued tokens more).bind fun tokens => ?_
  exact .inr rfl

theorem connectiveTail_continued {inner : Reader Condition} (hinner : IsContinued inner)
    (left : Condition) : IsContinued (connectiveTail inner left) := by
  intro tokens more
  refine (nextItem_continued _ tokens more).bind fun tokens => ?_
  refine (spelled_continued Connective.ofText tokens more).bind fun (op, tokens) => ?_
  refine (nextItem_continued _ tokens more).bind fun tokens => ?_
  cases tokens with
  | nil => exact continues_syntaxError
  | cons token tokens =>
    cases token with
    | leftBracket =>
      refine (hinner tokens more).bind fun (right, tokens) => ?_
      refine (closeCondition_continued tokens more).bind fun tokens => ?_
      exact .inr rfl
    | string | null | bool | number => exact .inr rfl
    | rightBracket | leftBrace | rightBrace | comma | colon => exact .inr rfl

/-- In front of anything but an operand array the limit plays no part. -/
theorem conditionItems_cons_continued {limit : Nat} {token : Json.Token}
    (htoken : token ≠ .leftBracket) (tokens more : List Json.Token) :
    Continues (extendRest more) (conditionItems limit (token :: tokens))
      (conditionItems limit (token :: (tokens ++ more))) := by
  cases token with
  | string text? =>
    cases text? with
    | none => cases limit <;> exact continues_syntaxError
    | some left =>
      rw [conditionItems_string, conditionItems_string]
      exact comparisonTail_continued left tokens more
  | leftBracket => exact absurd rfl htoken
  | null | bool | number => cases limit <;> exact .inr rfl
  | rightBracket | leftBrace | rightBrace | comma | colon => cases limit <;> exact .inr rfl

theorem conditionItems_continued (limit : Nat) : IsContinued (conditionItems limit) := by
  induction limit with
  | zero =>
    intro tokens more
    cases tokens with
    | nil => exact continues_syntaxError
    | cons token tokens =>
      by_cases htoken : token = .leftBracket
      · subst htoken
        exact .inr rfl
      · exact conditionItems_cons_continued htoken tokens more
  | succ limit ih =>
    intro tokens more
    cases tokens with
    | nil => exact continues_syntaxError
    | cons token tokens =>
      by_cases htoken : token = .leftBracket
      · -- Both operands are read one level down, where `ih` holds of them.
        subst htoken
        rw [List.cons_append, conditionItems_leftBracket, conditionItems_leftBracket]
        refine (ih tokens more).bind fun (left, tokens) => ?_
        exact connectiveTail_continued ih left tokens more
      · exact conditionItems_cons_continued htoken tokens more

theorem condition_continued : IsContinued condition := by
  intro tokens more
  cases tokens with
  | nil => exact continues_syntaxError
  | cons token tokens =>
    cases token with
    | leftBracket => exact conditionItems_continued _ tokens more
    | string text? => cases text? <;> exact .inr rfl
    | null | bool | number => exact .inr rfl
    | rightBracket | leftBrace | rightBrace | comma | colon => exact .inr rfl

theorem comparison_continued : IsContinued comparison := by
  intro tokens more
  cases tokens with
  | nil => exact continues_syntaxError
  | cons token tokens =>
    cases token with
    | leftBracket =>
      refine (firstItem_continued _ tokens more).bind fun tokens => ?_
      refine (text_continued tokens more).bind fun (left, tokens) => ?_
      refine (nextItem_continued _ tokens more).bind fun tokens => ?_
      refine (spelled_continued CompareOp.ofText tokens more).bind fun (op, tokens) => ?_
      refine (nextItem_continued _ tokens more).bind fun tokens => ?_
      refine (text_continued tokens more).bind fun (right, tokens) => ?_
      cases tokens with
      | nil => exact continues_syntaxError
      | cons token tokens => cases token <;> exact .inr rfl
    | string text? => cases text? <;> exact .inr rfl
    | null | bool | number => exact .inr rfl
    | rightBracket | leftBrace | rightBrace | comma | colon => exact .inr rfl

/-! ## Texts -/

/-- A text fails with a fault only if its tokens do. -/
theorem fault_of_run {α : Type} {reader : Reader α} {source : String} {fault : Fault}
    (h : reader.run source = .error (.fault fault)) :
    reader (Json.scan source.toList).tokens = .error (.fault fault) := by
  rw [run] at h
  cases hread : reader (Json.scan source.toList).tokens with
  | error error =>
    simp only [hread] at h
    cases h
    rfl
  | ok read =>
    obtain ⟨value, rest⟩ := read
    simp only [hread, ok_bind] at h
    cases rest with
    | nil =>
      simp only at h
      split at h <;> cases h
    | cons token rest => cases h

theorem IsContinued.run_append {α : Type} {reader : Reader α} (hreader : IsContinued reader)
    {source more : String} (hmore : Json.LeavesNumbers more.toList) {fault : Fault}
    (h : reader (Json.scan source.toList).tokens = .error (.fault fault)) :
    reader.run (source ++ more) = .error (.fault fault) := by
  obtain ⟨tokens, htokens⟩ := Json.scan_append hmore
  refine run_of_error ?_
  rw [String.toList_append, htokens]
  exact (hreader _ tokens).fault h

/-! ## Misspelled operators at any depth -/

/-- The tokens in front of the first item of a condition array, when `n` arrays are
    open: each of them is the left operand of the one around it, or the right operand
    behind a left one and a connective. -/
inductive Opens : Nat → List Json.Token → Prop
  | outermost : Opens 1 [.leftBracket]
  | left {n : Nat} {tokens : List Json.Token} :
      Opens n tokens → Opens (n + 1) (tokens ++ [.leftBracket])
  | right {n : Nat} {tokens : List Json.Token} {items : List Json} {c : Condition}
      {spelling : String} {op : Connective} :
      Opens n tokens → Condition.IsItems items c → c.depth + n ≤ nestingLimit →
      Connective.ofText spelling = .ok op →
      Opens (n + 1) (tokens ++ (Json.array items).tokens ++
        ([.comma, .string (some spelling), .comma, .leftBracket] : List Json.Token))

/-- The tokens up to a text that should spell an operator or a connective and does
    not, as `fault` says. -/
inductive EndsMisspelled : List Json.Token → Fault → Prop
  | operator {n : Nat} {tokens : List Json.Token} {left spelling : String} {fault : Fault} :
      Opens n tokens → n ≤ nestingLimit → CompareOp.ofText spelling = .error fault →
      EndsMisspelled (tokens ++
        ([.string (some left), .comma, .string (some spelling)] : List Json.Token)) fault
  | connective {n : Nat} {tokens : List Json.Token} {items : List Json} {c : Condition}
      {spelling : String} {fault : Fault} :
      Opens n tokens → Condition.IsItems items c → c.depth + n ≤ nestingLimit →
      Connective.ofText spelling = .error fault →
      EndsMisspelled (tokens ++ (Json.array items).tokens ++
        ([.comma, .string (some spelling)] : List Json.Token)) fault

/-- A left operand within the limit is read, and what follows it decides. -/
theorem conditionItems_operand {limit : Nat} {items : List Json} {c : Condition}
    (h : Condition.IsItems items c) (hdepth : c.depth ≤ limit + 1) (rest : List Json.Token) :
    conditionItems (limit + 1) ((Json.array items).tokens ++ rest) =
      connectiveTail (conditionItems limit) c rest := by
  have hnesting := h.nesting
  rw [Json.tokens, List.cons_append, conditionItems_leftBracket,
    conditionItems_tokens (by omega) h.finite, h.ofItems]
  rfl

/-- An error inside the innermost array is the error of the whole. -/
theorem Opens.condition_eq_error {n : Nat} {tokens : List Json.Token} (h : Opens n tokens)
    {limit : Nat} (hlimit : limit + n = nestingLimit) {rest : List Json.Token} {error : ReadError}
    (hrest : conditionItems limit rest = .error error) :
    condition (tokens ++ rest) = .error error := by
  induction h generalizing limit rest with
  | outermost =>
    -- One bracket is open, which leaves the limit that `condition` starts with.
    obtain rfl : limit = nestingLimit - 1 := by omega
    exact hrest
  | left _ ih =>
    rw [List.append_assoc]
    have houter : conditionItems (limit + 1) (.leftBracket :: rest) = .error error := by
      rw [conditionItems_leftBracket, hrest]
      rfl
    exact ih (by omega) houter
  | @right n tokens items c spelling op _ hitems hdepth hop ih =>
    -- The left operand is complete and is read, and so is the connective behind it.
    rw [List.append_assoc, List.append_assoc]
    refine @ih (limit + 1) (by omega) _ ?_
    rw [conditionItems_operand hitems (by omega)]
    refine (connectiveTail_of_ok hop rest).trans ?_
    rw [hrest]
    rfl

/-- What does not spell an operator or connective is reported at once. -/
theorem EndsMisspelled.condition_eq {tokens : List Json.Token} {fault : Fault}
    (h : EndsMisspelled tokens fault) : condition tokens = .error (.fault fault) := by
  cases h with
  | @operator n tokens left spelling _ hopens hn hspelling =>
    obtain ⟨limit, hlimit⟩ := Nat.exists_eq_add_of_le' hn
    refine hopens.condition_eq_error hlimit.symm ?_
    rw [conditionItems_string, comparisonTail, nextItem, ok_bind, compareOp, spelled_string,
      hspelling]
    rfl
  | @connective n tokens items c spelling _ hopens hitems hdepth hspelling =>
    have hpos : 1 ≤ c.depth := by cases c <;> simp [Condition.depth]
    obtain ⟨limit, hlimit⟩ : ∃ limit, limit + 1 + n = nestingLimit :=
      ⟨nestingLimit - n - 1, by omega⟩
    rw [List.append_assoc]
    refine hopens.condition_eq_error hlimit ?_
    rw [conditionItems_operand hitems (by omega), connectiveTail, nextItem, ok_bind,
      Reader.connective, spelled_string, hspelling]
    rfl

end Reader

/-- No text behind a fault changes it, whatever is read and whatever the text is, as
    long as it lengthens no number that the fault is about. In particular a text that
    spells no operator or connective is reported as soon as it is read, at any depth. -/
theorem fault_final {text more : String} (hmore : Json.LeavesNumbers more.toList)
    (fault : Fault) :
    (Condition.read text = .error (.fault fault) →
      Condition.read (text ++ more) = .error (.fault fault)) ∧
    (Comparison.read text = .error (.fault fault) →
      Comparison.read (text ++ more) = .error (.fault fault)) ∧
    (CompareOp.read text = .error (.fault fault) →
      CompareOp.read (text ++ more) = .error (.fault fault)) ∧
    (Connective.read text = .error (.fault fault) →
      Connective.read (text ++ more) = .error (.fault fault)) ∧
    (Reader.EndsMisspelled (Json.scan text.toList).tokens fault →
      Condition.read (text ++ more) = .error (.fault fault)) := by
  refine ⟨?_, ?_, ?_, ?_, ?_⟩
  · exact fun h => Reader.condition_continued.run_append hmore (Reader.fault_of_run h)
  · exact fun h => Reader.comparison_continued.run_append hmore (Reader.fault_of_run h)
  · intro h
    exact (Reader.spelled_continued CompareOp.ofText).run_append hmore (Reader.fault_of_run h)
  · intro h
    exact (Reader.spelled_continued Connective.ofText).run_append hmore (Reader.fault_of_run h)
  · exact fun h => Reader.condition_continued.run_append hmore h.condition_eq

/-- The connective of the inner array is wrong, and what follows is no JSON; and a
    number where a text belongs, in front of the same. -/
theorem fault_final_inner :
    Condition.read ("[[[\"a\",\"<\",\"b\"],\"nand\"" ++ "]] (") =
      .error (.fault (.spelling (.unknownConnective "nand"))) ∧
    Comparison.read ("[1" ++ "]] (") =
      .error (.fault (.invalidType (.number ⟨false, ['1'], [], none⟩) .string)) := by
  have hmore : Json.LeavesNumbers "]] (".toList := by
    intro c hc
    cases hc
    rfl
  have hitems : Condition.IsItems [.string "a", .string "<", .string "b"]
      (.compare ⟨"a", .less, "b"⟩) := .compare rfl
  have hscan : (Json.scan "[[[\"a\",\"<\",\"b\"],\"nand\"".toList).tokens =
      ([.leftBracket] ++ [.leftBracket] : List Json.Token) ++
        (Json.array [.string "a", .string "<", .string "b"]).tokens ++
        ([.comma, .string (some "nand")] : List Json.Token) := by with_unfolding_all rfl
  have hmisspelled : Reader.EndsMisspelled
      (Json.scan "[[[\"a\",\"<\",\"b\"],\"nand\"".toList).tokens
      (.spelling (.unknownConnective "nand")) := by
    rw [hscan]
    exact .connective (.left .outermost) hitems (by decide) rfl
  have hnumber : Comparison.read "[1" =
      .error (.fault (.invalidType (.number ⟨false, ['1'], [], none⟩) .string)) := by
    have htokens : (Json.scan "[1".toList).tokens =
        [.leftBracket, .number ⟨false, ['1'], [], none⟩] := by with_unfolding_all rfl
    refine Reader.run_of_error ?_
    rw [htokens]
    rfl
  exact ⟨(fault_final hmore _).2.2.2.2 hmisspelled, (fault_final hmore _).2.1 hnumber⟩

end BranchlessCalc
