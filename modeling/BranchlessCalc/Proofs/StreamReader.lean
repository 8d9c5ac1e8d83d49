/-
  BranchlessCalc.Proofs.StreamReader

  Reading a condition from text as a stream agrees with reading the JSON value of
  the text.

  On the tokens of a value the two readers go through the same items in the same
  order, so they find the same condition or the same fault, as long as the value
  nests within the limit and its numbers are within range
  (`conditionItems_tokens`, by induction on the limit). A condition that the stream
  reader accepts can come from no tokens but those of such a value
  (`conditionItems_eq_ok`).
-/
import BranchlessCalc.Condition.Stream
import BranchlessCalc.Proofs.JsonTokens
import BranchlessCalc.Proofs.ValueReader

namespace BranchlessCalc

namespace Reader

open Json (itemsTokens itemsTail itemsFinite itemsNesting)

/-! ## One value -/

/-- What a reader of values answers, as a stream reader answers it that leaves
    `rest`. -/
def outcome {α : Type} (rest : List Json.Token) :
    Except Fault α → Except ReadError (α × List Json.Token)
  | .ok value => .ok (value, rest)
  | .error fault => .error (.fault fault)

theorem mismatch_number {value : Json.Number} (hfinite : (Json.number value).allFinite = true)
    (expected : Expected) :
    mismatch expected (.number value) = .fault (.invalidType (.number value) expected) := by
  rw [Json.allFinite] at hfinite
  rw [mismatch, if_pos hfinite]

theorem text_tokens {value : Json} (hfinite : value.allFinite = true) (rest : List Json.Token) :
    text (value.tokens ++ rest) = outcome rest (readText value) := by
  cases value with
  | number value => exact congrArg Except.error (mismatch_number hfinite .string)
  | null | bool | string | array | object => rfl

/-- Two readers that agree go on in the same way. -/
theorem outcome_bind {α β : Type} (rest rest' : List Json.Token) {result : Except Fault α}
    {next : α → Except Fault β}
    {go : α × List Json.Token → Except ReadError (β × List Json.Token)}
    (h : ∀ value, go (value, rest) = outcome rest' (next value)) :
    outcome rest result >>= go = outcome rest' (result >>= next) := by
  cases result with
  | error fault => rfl
  | ok value => exact h value

section Spelled

variable {α : Type} {ofText : String → Except Fault α}

theorem spelled_string (spelling : String) (rest : List Json.Token) :
    spelled ofText (.string (some spelling) :: rest) = outcome rest (ofText spelling) := by
  rw [spelled, text, ok_bind]
  simp only
  cases ofText spelling <;> rfl

theorem spelled_tokens {value : Json} (hfinite : value.allFinite = true)
    (rest : List Json.Token) :
    spelled ofText (value.tokens ++ rest) = outcome rest (readText value >>= ofText) := by
  rw [spelled, text_tokens hfinite]
  exact outcome_bind rest rest fun spelling => spelled_string spelling rest

end Spelled

/-! ## The items of an array -/

theorem nextItem_tail (missing : Fault) (item : Json) (items : List Json)
    (rest : List Json.Token) :
    nextItem missing (itemsTail (item :: items) ++ rest) =
      .ok (item.tokens ++ (itemsTail items ++ rest)) := by
  rw [itemsTail, List.cons_append, List.append_assoc]
  rfl

/-- A fourth item is passed over and reported, whatever it is. -/
theorem closeCondition_tail (c : Condition) (items : List Json) (rest : List Json.Token) :
    (do return (c, ← closeCondition (itemsTail items ++ rest))) =
      outcome rest (Condition.closeArray c items) := by
  cases items with
  | nil => rfl
  | cons item items =>
    rw [itemsTail, List.cons_append, List.append_assoc, closeCondition, Json.skipValue_tokens]
    rfl

theorem comparisonTail_tokens (left : String) {items : List Json}
    (hfinite : itemsFinite items = true) (rest : List Json.Token) :
    comparisonTail left (itemsTail items ++ rest) =
      outcome rest (Condition.ofComparisonTail left items) := by
  cases items with
  | nil => rfl
  | cons value items =>
    rw [itemsFinite, Bool.and_eq_true] at hfinite
    rw [comparisonTail, nextItem_tail, Condition.ofComparisonTail, ← bind_assoc (readText value)]
    show compareOp _ >>= _ = _
    rw [compareOp, spelled_tokens hfinite.1]
    refine outcome_bind _ rest fun op => ?_
    cases items with
    | nil => rfl
    | cons value items =>
      rw [itemsFinite, Bool.and_eq_true] at hfinite
      show nextItem _ _ >>= _ = _
      rw [nextItem_tail]
      show text _ >>= _ = _
      rw [text_tokens hfinite.2.1]
      exact outcome_bind _ rest fun right => closeCondition_tail _ items rest

/-! ## Conditions -/

theorem conditionItems_string (limit : Nat) (left : String) (tokens : List Json.Token) :
    conditionItems limit (.string (some left) :: tokens) = comparisonTail left tokens := by
  cases limit <;> rfl

theorem conditionItems_leftBracket (limit : Nat) (tokens : List Json.Token) :
    conditionItems (limit + 1) (.leftBracket :: tokens) =
      conditionItems limit tokens >>= fun (left, tokens) =>
        connectiveTail (conditionItems limit) left tokens := rfl

/-- In front of a right operand, only the operand and the end of the array are left
    to read. -/
theorem connectiveTail_of_ok {inner : Reader Condition} {left : Condition} {spelling : String}
    {op : Connective} (hop : Connective.ofText spelling = .ok op) (tokens : List Json.Token) :
    connectiveTail inner left
        (.comma :: .string (some spelling) :: .comma :: .leftBracket :: tokens) =
      inner tokens >>= fun (right, tokens) => do
        return (.logic left op right, ← closeCondition tokens) := by
  rw [connectiveTail, nextItem, ok_bind, connective, spelled_string, hop]
  rfl

/-- A scalar in first place: a string begins a comparison, and anything else is
    reported. -/
theorem conditionItems_scalar (limit : Nat) {item : Json} {items : List Json}
    (hscalar : item.nesting = 0) (hitem : item.allFinite = true)
    (hitems : itemsFinite items = true) (rest : List Json.Token) :
    conditionItems limit (itemsTokens (item :: items) ++ rest) =
      outcome rest (Condition.ofItems (item :: items)) := by
  rw [itemsTokens, List.append_assoc]
  cases item with
  | string left =>
    rw [Condition.ofItems, ← comparisonTail_tokens left hitems]
    exact conditionItems_string limit left _
  | number value =>
    have hreport : conditionItems limit (.number value :: (itemsTail items ++ rest)) =
        .error (mismatch .operand (.number value)) := by cases limit <;> rfl
    rw [Condition.ofItems]
    · exact hreport.trans (congrArg Except.error (mismatch_number hitem .operand))
    · simp
    · simp
  | null | bool =>
    rw [Condition.ofItems]
    · cases limit <;> rfl
    · simp
    · simp
  | array | object => rw [Json.nesting] at hscalar; omega

theorem connectiveTail_tokens (left : Condition) {inner : Reader Condition} {items : List Json}
    (hfinite : itemsFinite items = true) (rest : List Json.Token)
    (hinner : ∀ below after, Json.array below ∈ items →
      inner (itemsTokens below ++ after) = outcome after (Condition.ofItems below)) :
    connectiveTail inner left (itemsTail items ++ rest) =
      outcome rest (Condition.ofConnectiveTail left items) := by
  cases items with
  | nil => rw [Condition.ofConnectiveTail]; rfl
  | cons value items =>
    rw [itemsFinite, Bool.and_eq_true] at hfinite
    rw [connectiveTail, nextItem_tail, Condition.ofConnectiveTail, ← bind_assoc (readText value)]
    show connective _ >>= _ = _
    rw [connective, spelled_tokens hfinite.1]
    refine outcome_bind _ rest fun op => ?_
    cases items with
    | nil => rw [Condition.ofRightOperand]; rfl
    | cons value items =>
      rw [itemsFinite, Bool.and_eq_true] at hfinite
      rw [Condition.ofRightOperand]
      show nextItem _ _ >>= _ = _
      rw [nextItem_tail]
      cases value with
      | array below =>
        rw [Condition.ofJson]
        show inner (itemsTokens below ++ _) >>= _ = _
        rw [hinner _ _ (by simp)]
        exact outcome_bind _ rest fun right => closeCondition_tail _ items rest
      | number value =>
        rw [Condition.ofJson]
        · exact congrArg Except.error (mismatch_number hfinite.2.1 .conditionArray)
        · simp
      | null | bool | string | object =>
        rw [Condition.ofJson]
        · rfl
        · simp

/-- On the items of an array that nests within the limit, both readers find the
    same condition or the same fault. -/
theorem conditionItems_tokens {limit : Nat} {items : List Json}
    (hnesting : itemsNesting items ≤ limit) (hfinite : itemsFinite items = true)
    (rest : List Json.Token) :
    conditionItems limit (itemsTokens items ++ rest) =
      outcome rest (Condition.ofItems items) := by
  induction limit generalizing items rest with
  | zero =>
    cases items with
    | nil => rw [Condition.ofItems]; rfl
    | cons item items =>
      rw [itemsFinite, Bool.and_eq_true] at hfinite
      rw [itemsNesting] at hnesting
      -- No bracket may be opened any more, and none is.
      have hscalar : item.nesting = 0 := by omega
      exact conditionItems_scalar 0 hscalar hfinite.1 hfinite.2 rest
  | succ limit ih =>
    cases items with
    | nil => rw [Condition.ofItems]; rfl
    | cons item items =>
      rw [itemsFinite, Bool.and_eq_true] at hfinite
      rw [itemsNesting] at hnesting
      cases item with
      | array inner =>
        -- Both operands lie one level down: the left one is `inner`, and the right
        -- one is some array among the other items.
        rw [Json.nesting] at hnesting
        rw [itemsTokens, List.append_assoc, Json.tokens, List.cons_append,
          conditionItems_leftBracket, ih (by omega) hfinite.1, Condition.ofItems]
        refine outcome_bind _ rest fun left => ?_
        refine connectiveTail_tokens left hfinite.2 rest fun below after hmem => ?_
        have hbelow := Json.nesting_le_of_mem hmem
        rw [Json.nesting] at hbelow
        exact ih (by omega) (Json.allFinite_of_mem hmem hfinite.2) after
      | object members =>
        rw [Condition.ofItems]
        · rfl
        · simp
        · simp
      | null | bool | number | string =>
        exact conditionItems_scalar (limit + 1) rfl hfinite.1 hfinite.2 rest

/-- On the tokens of a value that nests within the limit, both readers find the
    same condition or the same fault. -/
theorem condition_tokens {value : Json} (hnesting : value.nesting ≤ nestingLimit)
    (hfinite : value.allFinite = true) (rest : List Json.Token) :
    condition (value.tokens ++ rest) = outcome rest (Condition.ofJson value) := by
  cases value with
  | array items =>
    rw [Json.nesting] at hnesting
    rw [Condition.ofJson]
    exact conditionItems_tokens (by omega) hfinite rest
  | number value =>
    rw [Condition.ofJson]
    · exact congrArg Except.error (mismatch_number hfinite .conditionArray)
    · simp
  | null | bool | string | object =>
    rw [Condition.ofJson]
    · rfl
    · simp

/-! ## Accepted tokens

A reader that succeeds has taken the tokens of what it returns, and no others. -/

theorem text_eq_ok {tokens rest : List Json.Token} {s : String}
    (h : text tokens = .ok (s, rest)) : tokens = .string (some s) :: rest := by
  unfold text at h
  split at h
  · cases h; rfl
  · cases h
  · cases h

theorem mapError_eq_ok {ε ε' α : Type} {f : ε → ε'} {result : Except ε α} {value : α}
    (h : result.mapError f = .ok value) : result = .ok value := by
  cases result with
  | error error => cases h
  | ok other => cases h; rfl

theorem spelled_eq_ok {α : Type} {ofText : String → Except Fault α} {tokens rest : List Json.Token}
    {value : α} (h : spelled ofText tokens = .ok (value, rest)) :
    ∃ spelling, tokens = .string (some spelling) :: rest ∧ ofText spelling = .ok value := by
  obtain ⟨⟨spelling, after⟩, htext, hrest⟩ := bind_eq_ok h
  obtain ⟨other, hvalue, hpair⟩ := bind_eq_ok hrest
  cases hpair
  exact ⟨spelling, text_eq_ok htext, mapError_eq_ok hvalue⟩

theorem nextItem_eq_ok {missing : Fault} {tokens rest : List Json.Token}
    (h : nextItem missing tokens = .ok rest) : tokens = .comma :: rest := by
  unfold nextItem at h
  split at h
  · cases h
  · cases h; rfl
  · cases h

theorem closeCondition_eq_ok {tokens rest : List Json.Token}
    (h : closeCondition tokens = .ok rest) : tokens = .rightBracket :: rest := by
  unfold closeCondition at h
  split at h
  · cases h; rfl
  · split at h <;> cases h
  · cases h

theorem comparisonTail_eq_ok {left : String} {tokens rest : List Json.Token} {c : Condition}
    (h : comparisonTail left tokens = .ok (c, rest)) :
    ∃ spelling op right, tokens = itemsTail [.string spelling, .string right] ++ rest ∧
      CompareOp.ofText spelling = .ok op ∧ c = .compare ⟨left, op, right⟩ := by
  obtain ⟨tokens₁, hcomma, h₁⟩ := bind_eq_ok h
  obtain ⟨⟨op, tokens₂⟩, hop, h₂⟩ := bind_eq_ok h₁
  obtain ⟨tokens₃, hcomma', h₃⟩ := bind_eq_ok h₂
  obtain ⟨⟨right, tokens₄⟩, hright, h₄⟩ := bind_eq_ok h₃
  obtain ⟨tokens₅, hclose, hpair⟩ := bind_eq_ok h₄
  cases hpair
  obtain ⟨spelling, rfl, hspelling⟩ := spelled_eq_ok hop
  obtain rfl := nextItem_eq_ok hcomma
  obtain rfl := nextItem_eq_ok hcomma'
  obtain rfl := text_eq_ok hright
  obtain rfl := closeCondition_eq_ok hclose
  exact ⟨spelling, op, right, rfl, hspelling, rfl⟩

theorem connectiveTail_eq_ok {inner : Reader Condition} {left c : Condition}
    {tokens rest : List Json.Token} (h : connectiveTail inner left tokens = .ok (c, rest)) :
    ∃ spelling op below right,
      tokens = .comma :: .string (some spelling) :: .comma :: .leftBracket :: below ∧
      Connective.ofText spelling = .ok op ∧ inner below = .ok (right, .rightBracket :: rest) ∧
      c = .logic left op right := by
  obtain ⟨tokens₁, hcomma, h₁⟩ := bind_eq_ok h
  obtain ⟨⟨op, tokens₂⟩, hop, h₂⟩ := bind_eq_ok h₁
  obtain ⟨tokens₃, hcomma', h₃⟩ := bind_eq_ok h₂
  obtain ⟨spelling, rfl, hspelling⟩ := spelled_eq_ok hop
  obtain rfl := nextItem_eq_ok hcomma
  obtain rfl := nextItem_eq_ok hcomma'
  split at h₃
  · next below =>
    obtain ⟨⟨right, tokens₄⟩, hright, h₄⟩ := bind_eq_ok h₃
    obtain ⟨tokens₅, hclose, hpair⟩ := bind_eq_ok h₄
    cases hpair
    obtain rfl := closeCondition_eq_ok hclose
    exact ⟨spelling, op, below, right, rfl, hspelling, hright, rfl⟩
  · cases h₃
  · cases h₃

/-- The first token decides how the other ones are read. -/
theorem conditionItems_cases {limit : Nat} {tokens rest : List Json.Token} {c : Condition}
    (h : conditionItems limit tokens = .ok (c, rest)) :
    (∃ left tail, tokens = .string (some left) :: tail ∧
      comparisonTail left tail = .ok (c, rest)) ∨
    ∃ lower below left tail, limit = lower + 1 ∧ tokens = .leftBracket :: below ∧
      conditionItems lower below = .ok (left, tail) ∧
      connectiveTail (conditionItems lower) left tail = .ok (c, rest) := by
  cases tokens with
  | nil => cases limit <;> cases h
  | cons token tail =>
    cases token with
    | string text? =>
      cases text? with
      | none => cases limit <;> cases h
      | some left =>
        rw [conditionItems_string] at h
        exact .inl ⟨left, tail, rfl, h⟩
    | leftBracket =>
      cases limit with
      | zero => cases h
      | succ lower =>
        rw [conditionItems_leftBracket] at h
        obtain ⟨⟨left, after⟩, hleft, htail⟩ := bind_eq_ok h
        exact .inr ⟨lower, tail, left, after, rfl, rfl, hleft, htail⟩
    | null | bool | number => cases limit <;> cases h
    | rightBracket | leftBrace | rightBrace | comma | colon => cases limit <;> cases h

/-- A condition is read off the tokens of its items only, and has at most one level
    more than the limit. -/
theorem conditionItems_eq_ok {limit : Nat} {tokens rest : List Json.Token} {c : Condition}
    (h : conditionItems limit tokens = .ok (c, rest)) :
    ∃ items, tokens = itemsTokens items ++ rest ∧ Condition.IsItems items c ∧
      c.depth ≤ limit + 1 := by
  -- Along the condition that is returned, not along the limit: its form says which
  -- branch was taken, so each case refutes the other branch.
  induction c generalizing limit tokens rest with
  | compare comparison =>
    obtain ⟨left, tail, rfl, htail⟩ | ⟨lower, below, left, tail, _, _, _, htail⟩ :=
      conditionItems_cases h
    · obtain ⟨spelling, op, right, rfl, hop, hc⟩ := comparisonTail_eq_ok htail
      rw [hc]
      exact ⟨_, rfl, .compare hop, Nat.le_add_left 1 limit⟩
    · obtain ⟨_, _, _, _, _, _, _, hc⟩ := connectiveTail_eq_ok htail
      cases hc
  | logic left op right ihleft ihright =>
    obtain ⟨left, tail, rfl, htail⟩ | ⟨lower, below, left, tail, rfl, rfl, hleft, htail⟩ :=
      conditionItems_cases h
    · obtain ⟨_, _, _, _, _, hc⟩ := comparisonTail_eq_ok htail
      cases hc
    · obtain ⟨spelling, op, third, right, rfl, hop, hright, hc⟩ := connectiveTail_eq_ok htail
      cases hc
      obtain ⟨ls, rfl, hls, hleftDepth⟩ := ihleft hleft
      obtain ⟨rs, rfl, hrs, hrightDepth⟩ := ihright hright
      refine ⟨[.array ls, .string spelling, .array rs], ?_, .logic hls hop hrs, ?_⟩
      · simp [Json.itemsTokens, Json.itemsTail, Json.tokens]
      · rw [Condition.depth]
        omega

theorem condition_eq_ok {tokens rest : List Json.Token} {c : Condition}
    (h : condition tokens = .ok (c, rest)) :
    ∃ value, tokens = value.tokens ++ rest ∧ Condition.ofJson value = .ok c ∧
      c.depth ≤ nestingLimit := by
  unfold condition at h
  split at h
  · obtain ⟨items, rfl, hitems, hdepth⟩ := conditionItems_eq_ok h
    exact ⟨.array items, rfl, Condition.ofJson_eq_ok_iff.mpr ⟨items, rfl, hitems⟩, hdepth⟩
  · cases h
  · cases h

/-! ## Whole texts -/

theorem run_eq_ok_iff {α : Type} {reader : Reader α} {source : String} {value : α} :
    reader.run source = .ok value ↔
      ∃ tokens, Json.scan source.toList = ⟨tokens, true⟩ ∧ reader tokens = .ok (value, []) := by
  constructor
  · intro h
    obtain ⟨⟨other, rest⟩, hread, hrest⟩ := bind_eq_ok h
    cases rest with
    | nil =>
      simp only at hrest
      split at hrest
      · next hcomplete =>
        cases hrest
        exact ⟨_, by rw [← hcomplete], hread⟩
      · cases hrest
    | cons token rest => cases hrest
  · rintro ⟨tokens, hscan, hread⟩
    rw [run, hscan]
    simp only [hread]
    rfl

/-- What a reader fails with on the tokens of a text, it fails with on the text. -/
theorem run_of_error {α : Type} {reader : Reader α} {source : String} {error : ReadError}
    (h : reader (Json.scan source.toList).tokens = .error error) :
    reader.run source = .error error := by
  rw [run]
  simp only [h]
  rfl

/-- A reader that agrees with a reader of values on all the tokens of a text. -/
theorem run_of_outcome {α : Type} {reader : Reader α} {source : String}
    {tokens : List Json.Token} {result : Except Fault α}
    (hscan : Json.scan source.toList = ⟨tokens, true⟩) (h : reader tokens = outcome [] result) :
    reader.run source = result.mapError .fault := by
  rw [run, hscan]
  simp only [h]
  cases result <;> rfl

end Reader

/-- A text that is one JSON value is read as the value is, up to the limit. -/
theorem Condition.read_of_parse {text : String} {value : Json} (h : Json.parse? text = some value)
    (hnesting : value.nesting ≤ 127) (hfinite : value.allFinite = true) :
    Condition.read text = (Condition.ofJson value).mapError .fault := by
  have hagree := Reader.condition_tokens hnesting hfinite []
  rw [List.append_nil] at hagree
  exact Reader.run_of_outcome (Json.parse?_eq_some_iff.mp h) hagree

theorem Condition.read_eq_ok_iff {text : String} {c : Condition} :
    Condition.read text = .ok c ↔
      ∃ value, Json.parse? text = some value ∧ Condition.ofJson value = .ok c ∧
        c.depth ≤ 127 := by
  constructor
  · intro h
    obtain ⟨tokens, hscan, hread⟩ := Reader.run_eq_ok_iff.mp h
    obtain ⟨value, rfl, hvalue, hdepth⟩ := Reader.condition_eq_ok hread
    rw [List.append_nil] at hscan
    exact ⟨value, Json.parse?_eq_some_iff.mpr hscan, hvalue, hdepth⟩
  · rintro ⟨value, hparse, hvalue, hdepth⟩
    obtain ⟨items, rfl, hitems⟩ := Condition.ofJson_eq_ok_iff.mp hvalue
    -- A value that is read as a condition nests as deep as the condition, so the
    -- bound on the one is the bound on the other.
    have hnesting : (Json.array items).nesting ≤ 127 := by
      rw [Json.nesting, hitems.nesting]
      exact hdepth
    rw [Condition.read_of_parse hparse hnesting hitems.finite, hvalue]
    rfl

/-- Reading a text as a stream and reading its JSON value give the same conditions,
    up to the limit; and where the value is within the limit and the range of numbers,
    they also give the same fault. -/
theorem Condition.read_iff_ofJson (text : String) :
    (∀ c, Condition.read text = .ok c ↔
      ∃ value, Json.parse? text = some value ∧ Condition.ofJson value = .ok c ∧ c.depth ≤ 127) ∧
    ∀ value error, Json.parse? text = some value → value.nesting ≤ 127 →
      value.allFinite = true → Condition.read text = .error error →
      ∃ fault, error = .fault fault ∧ Condition.ofJson value = .error fault := by
  refine ⟨fun c => Condition.read_eq_ok_iff, ?_⟩
  intro value error hparse hnesting hfinite herror
  rw [Condition.read_of_parse hparse hnesting hfinite] at herror
  cases hvalue : Condition.ofJson value with
  | ok c =>
    rw [hvalue] at herror
    cases herror
  | error fault =>
    rw [hvalue] at herror
    cases herror
    exact ⟨fault, rfl, rfl⟩

/-- The first fault is the unknown connective, and both readers stop there: neither
    sees the number behind it, nor the fourth item. -/
theorem Condition.read_iff_ofJson_nested :
    Condition.read "[[\"a\",\"<\",\"b\"], \"xor\", 5, []]" =
      .error (.fault (.spelling (.unknownConnective "xor"))) ∧
    ∃ value, Json.parse? "[[\"a\",\"<\",\"b\"], \"xor\", 5, []]" = some value ∧
      Condition.ofJson value = .error (.spelling (.unknownConnective "xor")) := by
  have hparse : Json.parse? "[[\"a\",\"<\",\"b\"], \"xor\", 5, []]" =
      some (.array [.array [.string "a", .string "<", .string "b"], .string "xor",
        .number ⟨false, ['5'], [], none⟩, .array []]) := by with_unfolding_all rfl
  have hread : Condition.read "[[\"a\",\"<\",\"b\"], \"xor\", 5, []]" =
      .error (.fault (.spelling (.unknownConnective "xor"))) := by
    refine Reader.run_of_error ?_
    rw [Json.parse?_eq_some_iff.mp hparse]
    rfl
  obtain ⟨fault, hfault, hvalue⟩ := (Condition.read_iff_ofJson _).2 _ _ hparse
    (by decide) (by decide) hread
  cases hfault
  exact ⟨hread, _, hparse, hvalue⟩

end BranchlessCalc
