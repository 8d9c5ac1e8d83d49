/-
  BranchlessCalc.Proofs.ValueReader

  The JSON values that are read as conditions.

  `Condition.IsItems` gives the form of their arrays: three texts for a comparison,
  and a text between two such arrays for a connective. The reader accepts exactly
  these (`ofItems_eq_ok_iff`), whatever order it meets the faults of others in. So
  a value that is read nests as deep as its condition, holds no number, and the
  value that a condition is written as is read back.
-/
import BranchlessCalc.Condition.Json

namespace BranchlessCalc

/-! ## Nesting and range of values -/

namespace Json

mutual

/-- How deep arrays and objects nest. -/
def nesting : Json → Nat
  | array items => 1 + itemsNesting items
  | object members => 1 + membersNesting members
  | null | bool _ | number _ | string _ => 0

def itemsNesting : List Json → Nat
  | [] => 0
  | item :: rest => max item.nesting (itemsNesting rest)

def membersNesting : List (String × Json) → Nat
  | [] => 0
  | (_, value) :: rest => max value.nesting (membersNesting rest)

end

mutual

/-- Whether every number is within the range of doubles. -/
def allFinite : Json → Bool
  | number value => value.isFinite
  | array items => itemsFinite items
  | object members => membersFinite members
  | null | bool _ | string _ => true

def itemsFinite : List Json → Bool
  | [] => true
  | item :: rest => item.allFinite && itemsFinite rest

def membersFinite : List (String × Json) → Bool
  | [] => true
  | (_, value) :: rest => value.allFinite && membersFinite rest

end

theorem nesting_le_of_mem {item : Json} {items : List Json} (h : item ∈ items) :
    item.nesting ≤ itemsNesting items := by
  induction items with
  | nil => cases h
  | cons first items ih =>
    rw [itemsNesting]
    rcases List.mem_cons.mp h with rfl | h
    · omega
    · have := ih h
      omega

theorem allFinite_of_mem {item : Json} {items : List Json} (h : item ∈ items)
    (hfinite : itemsFinite items = true) : item.allFinite = true := by
  induction items with
  | nil => cases h
  | cons first items ih =>
    rw [itemsFinite, Bool.and_eq_true] at hfinite
    rcases List.mem_cons.mp h with rfl | h
    · exact hfinite.1
    · exact ih h hfinite.2

end Json

/-! ## What each part of the reader accepts -/

theorem ok_bind {ε α β : Type} (value : α) (next : α → Except ε β) :
    (Except.ok value >>= next) = next value := rfl

/-- A reading in two parts succeeds only if both do. -/
theorem bind_eq_ok {ε α β : Type} {first : Except ε α} {next : α → Except ε β} {result : β}
    (h : first >>= next = .ok result) : ∃ value, first = .ok value ∧ next value = .ok result := by
  cases first with
  | error error => cases h
  | ok value => exact ⟨value, rfl, h⟩

theorem readText_eq_ok {value : Json} {text : String} (h : readText value = .ok text) :
    value = .string text := by
  cases value with
  | string other => cases h; rfl
  | null | bool | number | array | object => cases h

theorem CompareOp.ofText_name (op : CompareOp) : CompareOp.ofText op.name = .ok op := by
  cases op <;> rfl

theorem Connective.ofText_name (op : Connective) : Connective.ofText op.name = .ok op := by
  cases op <;> rfl

namespace Condition

theorem closeArray_eq_ok {c result : Condition} {items : List Json}
    (h : closeArray c items = .ok result) : items = [] ∧ result = c := by
  cases items with
  | nil => cases h; exact ⟨rfl, rfl⟩
  | cons item items => cases h

theorem ofComparisonTail_eq_ok {left : String} {items : List Json} {c : Condition}
    (h : ofComparisonTail left items = .ok c) :
    ∃ spelling op right, items = [.string spelling, .string right] ∧
      CompareOp.ofText spelling = .ok op ∧ c = compare ⟨left, op, right⟩ := by
  cases items with
  | nil => cases h
  | cons value items =>
    obtain ⟨spelling, hspelling, htail⟩ := bind_eq_ok h
    obtain ⟨op, hop, hright⟩ := bind_eq_ok htail
    cases items with
    | nil => cases hright
    | cons third items =>
      obtain ⟨right, hthird, hclose⟩ := bind_eq_ok hright
      obtain ⟨rfl, rfl⟩ := closeArray_eq_ok hclose
      obtain rfl := readText_eq_ok hspelling
      obtain rfl := readText_eq_ok hthird
      exact ⟨spelling, op, right, rfl, hop, rfl⟩

theorem ofJson_eq_ok {value : Json} {c : Condition} (h : ofJson value = .ok c) :
    ∃ items, value = .array items ∧ ofItems items = .ok c := by
  cases value with
  | array items =>
    rw [ofJson] at h
    exact ⟨items, rfl, h⟩
  | null | bool | number | string | object =>
    rw [ofJson] at h
    · cases h
    · simp

theorem ofConnectiveTail_eq_ok {left c : Condition} {items : List Json}
    (h : ofConnectiveTail left items = .ok c) :
    ∃ spelling op inner right, items = [.string spelling, .array inner] ∧
      Connective.ofText spelling = .ok op ∧ ofItems inner = .ok right ∧
      c = logic left op right := by
  cases items with
  | nil => rw [ofConnectiveTail] at h; cases h
  | cons value items =>
    rw [ofConnectiveTail] at h
    obtain ⟨spelling, hspelling, htail⟩ := bind_eq_ok h
    obtain ⟨op, hop, hright⟩ := bind_eq_ok htail
    cases items with
    | nil => rw [ofRightOperand] at hright; cases hright
    | cons third items =>
      rw [ofRightOperand] at hright
      obtain ⟨right, hthird, hclose⟩ := bind_eq_ok hright
      obtain ⟨rfl, rfl⟩ := closeArray_eq_ok hclose
      obtain rfl := readText_eq_ok hspelling
      obtain ⟨inner, rfl, hinner⟩ := ofJson_eq_ok hthird
      exact ⟨spelling, op, inner, right, rfl, hop, hinner, rfl⟩

/-! ## The form of a condition -/

/-- The items of the arrays that hold a condition. -/
inductive IsItems : List Json → Condition → Prop
  | compare {left spelling right : String} {op : CompareOp} :
      CompareOp.ofText spelling = .ok op →
      IsItems [.string left, .string spelling, .string right] (compare ⟨left, op, right⟩)
  | logic {ls rs : List Json} {spelling : String} {op : Connective} {left right : Condition} :
      IsItems ls left → Connective.ofText spelling = .ok op → IsItems rs right →
      IsItems [.array ls, .string spelling, .array rs] (logic left op right)

theorem IsItems.ofItems {items : List Json} {c : Condition} (h : IsItems items c) :
    ofItems items = .ok c := by
  induction h with
  | compare hop =>
    rw [Condition.ofItems, ofComparisonTail, readText, ok_bind, hop]
    rfl
  | logic _ hop _ ihleft ihright =>
    rw [Condition.ofItems, ihleft, ok_bind, ofConnectiveTail, readText, ok_bind, hop, ok_bind,
      ofRightOperand, ofJson, ihright]
    rfl

/-- What stands in first place decides how the other items are read. -/
theorem ofItems_cases {items : List Json} {c : Condition} (h : ofItems items = .ok c) :
    (∃ left rest, items = .string left :: rest ∧ ofComparisonTail left rest = .ok c) ∨
      ∃ inner left rest, items = .array inner :: rest ∧ ofItems inner = .ok left ∧
        ofConnectiveTail left rest = .ok c := by
  cases items with
  | nil => rw [ofItems] at h; cases h
  | cons item rest =>
    cases item with
    | string left =>
      rw [ofItems] at h
      exact .inl ⟨left, rest, rfl, h⟩
    | array inner =>
      rw [ofItems] at h
      obtain ⟨left, hleft, htail⟩ := bind_eq_ok h
      exact .inr ⟨inner, left, rest, rfl, hleft, htail⟩
    | null | bool | number | object =>
      rw [ofItems] at h
      · cases h
      · simp
      · simp

/-- The reader accepts exactly the items of a condition. -/
theorem ofItems_eq_ok_iff {items : List Json} {c : Condition} :
    ofItems items = .ok c ↔ IsItems items c := by
  refine ⟨fun h => ?_, IsItems.ofItems⟩
  -- Along the condition: what the reader returns tells which of its branches ran.
  induction c generalizing items with
  | compare comparison =>
    obtain ⟨left, rest, rfl, htail⟩ | ⟨inner, left, rest, rfl, _, htail⟩ := ofItems_cases h
    · obtain ⟨spelling, op, right, rfl, hop, hc⟩ := ofComparisonTail_eq_ok htail
      rw [hc]
      exact .compare hop
    · obtain ⟨_, _, _, _, _, _, _, hc⟩ := ofConnectiveTail_eq_ok htail
      cases hc
  | logic left op right ihleft ihright =>
    obtain ⟨left, rest, rfl, htail⟩ | ⟨inner, left, rest, rfl, hinner, htail⟩ := ofItems_cases h
    · obtain ⟨_, _, _, _, _, hc⟩ := ofComparisonTail_eq_ok htail
      cases hc
    · obtain ⟨spelling, op, below, right, rfl, hop, hbelow, hc⟩ := ofConnectiveTail_eq_ok htail
      cases hc
      exact .logic (ihleft hinner) hop (ihright hbelow)

theorem ofJson_eq_ok_iff {value : Json} {c : Condition} :
    ofJson value = .ok c ↔ ∃ items, value = .array items ∧ IsItems items c := by
  constructor
  · intro h
    obtain ⟨items, rfl, hitems⟩ := ofJson_eq_ok h
    exact ⟨items, rfl, ofItems_eq_ok_iff.mp hitems⟩
  · rintro ⟨items, rfl, hitems⟩
    rw [ofJson, hitems.ofItems]

/-- The items of a condition nest one level less than the condition has. -/
theorem IsItems.nesting {items : List Json} {c : Condition} (h : IsItems items c) :
    1 + Json.itemsNesting items = c.depth := by
  induction h with
  | compare _ => rfl
  | logic _ _ _ ihleft ihright =>
    simp only [Json.itemsNesting, Json.nesting, depth]
    omega

/-- A condition holds no number that could be out of range. -/
theorem IsItems.finite {items : List Json} {c : Condition} (h : IsItems items c) :
    Json.itemsFinite items = true := by
  induction h with
  | compare _ => rfl
  | logic _ _ _ ihleft ihright =>
    simp only [Json.itemsFinite, Json.allFinite, ihleft, ihright, Bool.and_self]

/-- The value that a condition is written as has the form of this condition. -/
theorem exists_items_toJson (c : Condition) :
    ∃ items, c.toJson = .array items ∧ IsItems items c := by
  induction c with
  | compare comparison => exact ⟨_, rfl, .compare (CompareOp.ofText_name comparison.op)⟩
  | logic left op right ihleft ihright =>
    obtain ⟨ls, hleft, hls⟩ := ihleft
    obtain ⟨rs, hright, hrs⟩ := ihright
    refine ⟨[.array ls, .string op.name, .array rs], ?_, .logic hls (Connective.ofText_name op) hrs⟩
    rw [toJson, hleft, hright]

end Condition

end BranchlessCalc
