/-
  BranchlessCalc.Proofs.ConditionForm

  The JSON values that are conditions, described without the reader.

  What stands in the middle of an array is looked up among the spellings of
  operators if texts stand around it, and among those of connectives if arrays
  do. The reader accepts a value exactly if this can be done at every level
  (`ofJson_iff_form`). All that it forgets is how operators were spelled: writing
  the condition gives the value back with canonical names in their places
  (`IsItems.respellItems`), and the condition is as deep as the value.
-/
import BranchlessCalc.Proofs.ValueReader

namespace BranchlessCalc

/-! ## Spellings -/

/-- The ways to spell a comparison operator. -/
def CompareOp.spellings : CompareOp → List String
  | less => ["<", "less"]
  | more => [">", "more"]
  | lessEquals => ["<=", "≤", "lessEquals"]
  | moreEquals => [">=", "≥", "moreEquals"]

/-- The sign of a connective. -/
def Connective.sign : Connective → String
  | and => "&&"
  | or => "||"

/-- A connective is spelled by its sign, or by its name in letters of any case. -/
def Connective.IsSpelling (op : Connective) (text : String) : Prop :=
  text = op.sign ∨ text.toList.map Char.toLower = op.name.toList

theorem CompareOp.ofSpelling?_eq_some_iff {text : String} {op : CompareOp} :
    ofSpelling? text = some op ↔ text ∈ op.spellings := by
  constructor
  · intro h
    unfold ofSpelling? at h
    split at h
    all_goals
      cases h
      try decide
  · intro h
    cases op with
    | less | more =>
      simp only [spellings, List.mem_cons, List.not_mem_nil, or_false] at h
      rcases h with rfl | rfl <;> rfl
    | lessEquals | moreEquals =>
      simp only [spellings, List.mem_cons, List.not_mem_nil, or_false] at h
      rcases h with rfl | rfl | rfl <;> rfl

theorem Connective.ofSpelling?_eq_some_iff {text : String} {op : Connective} :
    ofSpelling? text = some op ↔ op.IsSpelling text := by
  constructor
  · intro h
    simp only [ofSpelling?] at h
    split at h
    · next hand =>
      cases h
      exact hand.symm
    · split at h
      · next hor =>
        cases h
        exact hor.symm
      · cases h
  · intro h
    cases op with
    | and => exact if_pos h.symm
    | or =>
      -- `and` is tried first, but has no spelling in common with `or`.
      have hand : ¬ (text.toList.map Char.toLower = "and".toList ∨ text = "&&") := by
        rcases h with rfl | hword
        · decide
        · rintro (hword' | rfl)
          · exact absurd (hword.symm.trans hword') (by decide)
          · exact absurd hword (by decide)
      have hor : text.toList.map Char.toLower = "or".toList ∨ text = "||" := h.symm
      simp only [ofSpelling?]
      rw [if_neg hand, if_pos hor]

/-- A text is read as what it spells without the white space around it. -/
theorem mapError_readSpelling_eq_ok_iff {α ε : Type} {ofSpelling? : String → Option α}
    {unknown : String → SpellingError} {k : SpellingError → ε} {text : String} {value : α} :
    (readSpelling ofSpelling? unknown text).mapError k = .ok value ↔
      ofSpelling? (Text.trim text) = some value := by
  rw [readSpelling]
  cases ofSpelling? (Text.trim text) with
  | none => constructor <;> intro h <;> cases h
  | some found => constructor <;> intro h <;> cases h <;> rfl

theorem CompareOp.ofText_eq_ok_iff {text : String} {op : CompareOp} :
    CompareOp.ofText text = .ok op ↔ Text.trim text ∈ op.spellings :=
  mapError_readSpelling_eq_ok_iff.trans ofSpelling?_eq_some_iff

theorem Connective.ofText_eq_ok_iff {text : String} {op : Connective} :
    Connective.ofText text = .ok op ↔ op.IsSpelling (Text.trim text) :=
  mapError_readSpelling_eq_ok_iff.trans ofSpelling?_eq_some_iff

/-! ## Canonical names -/

/-- The name of what a text spells. -/
def nameOfSpelling {α : Type} (ofSpelling? : String → Option α) (name : α → String)
    (text : String) : String :=
  match ofSpelling? (Text.trim text) with
  | some value => name value
  | none => text

/-- The name of the operator that a text spells. -/
def CompareOp.canonicalName : String → String :=
  nameOfSpelling ofSpelling? name

/-- The name of the connective that a text spells. -/
def Connective.canonicalName : String → String :=
  nameOfSpelling ofSpelling? name

theorem nameOfSpelling_eq {α : Type} {ofSpelling? : String → Option α} {text : String} {value : α}
    (h : ofSpelling? (Text.trim text) = some value) (name : α → String) :
    nameOfSpelling ofSpelling? name text = name value := by
  rw [nameOfSpelling, h]

namespace Json

/-- The items of an array with operators and connectives by their names, in this
    array and in those below. Everything else is left as it is. -/
def respellItems : List Json → List Json
  | [string left, string spelling, string right] =>
    [string left, string (CompareOp.canonicalName spelling), string right]
  | [array ls, string spelling, array rs] =>
    [array (respellItems ls), string (Connective.canonicalName spelling), array (respellItems rs)]
  | items => items

/-- A value with operators and connectives by their names. -/
def respell : Json → Json
  | array items => array (respellItems items)
  | value => value

end Json

/-! ## Conditions -/

namespace Condition

/-- Writing a condition gives its items back, but for the spelling of operators. -/
theorem IsItems.respellItems {items : List Json} {c : Condition} (h : IsItems items c) :
    c.toJson = .array (Json.respellItems items) := by
  induction h with
  | compare hop =>
    have hspelling := CompareOp.ofSpelling?_eq_some_iff.mpr (CompareOp.ofText_eq_ok_iff.mp hop)
    rw [toJson, Comparison.toJson, Json.respellItems, CompareOp.canonicalName,
      nameOfSpelling_eq hspelling]
  | logic _ hop _ ihleft ihright =>
    have hspelling := Connective.ofSpelling?_eq_some_iff.mpr (Connective.ofText_eq_ok_iff.mp hop)
    rw [toJson, ihleft, ihright, Json.respellItems, Connective.canonicalName,
      nameOfSpelling_eq hspelling]

theorem ofJson_array_eq_ok_iff {items : List Json} {c : Condition} :
    ofJson (.array items) = .ok c ↔ IsItems items c := by
  rw [ofJson, ofItems_eq_ok_iff]

/-- A value is read as a condition exactly if it is an array of two texts around an
    operator, or of two arrays around a connective that are read themselves. What is
    read is written as the value with canonical names for operators and connectives,
    and has as many levels as its arrays nest. -/
theorem ofJson_iff_form (value : Json) (c : Condition) :
    (ofJson value = .ok c ↔
      (∃ left spelling right op, value = .array [.string left, .string spelling, .string right] ∧
        Text.trim spelling ∈ CompareOp.spellings op ∧ c = compare ⟨left, op, right⟩) ∨
      (∃ ls spelling rs op left right, value = .array [.array ls, .string spelling, .array rs] ∧
        ofJson (.array ls) = .ok left ∧ Connective.IsSpelling op (Text.trim spelling) ∧
        ofJson (.array rs) = .ok right ∧ c = logic left op right)) ∧
    (ofJson value = .ok c → c.toJson = value.respell ∧ c.depth = value.nesting) := by
  constructor
  · constructor
    · intro h
      obtain ⟨items, rfl, hitems⟩ := ofJson_eq_ok_iff.mp h
      cases hitems with
      | compare hop => exact .inl ⟨_, _, _, _, rfl, CompareOp.ofText_eq_ok_iff.mp hop, rfl⟩
      | logic hleft hop hright =>
        exact .inr ⟨_, _, _, _, _, _, rfl, ofJson_array_eq_ok_iff.mpr hleft,
          Connective.ofText_eq_ok_iff.mp hop, ofJson_array_eq_ok_iff.mpr hright, rfl⟩
    · rintro (⟨left, spelling, right, op, rfl, hop, rfl⟩ |
        ⟨ls, spelling, rs, op, left, right, rfl, hleft, hop, hright, rfl⟩)
      · exact ofJson_array_eq_ok_iff.mpr (.compare (CompareOp.ofText_eq_ok_iff.mpr hop))
      · -- The two sides are arrays that are read, so they have the form of what they are read as.
        have hls := ofJson_array_eq_ok_iff.mp hleft
        have hrs := ofJson_array_eq_ok_iff.mp hright
        exact ofJson_array_eq_ok_iff.mpr (.logic hls (Connective.ofText_eq_ok_iff.mpr hop) hrs)
  · intro h
    obtain ⟨items, rfl, hitems⟩ := ofJson_eq_ok_iff.mp h
    exact ⟨hitems.respellItems, hitems.nesting.symm⟩

/-- Blanks around a sign, a connective in letters of both cases, and an operand that
    looks like an operator. -/
theorem ofJson_iff_form_spellings :
    ofJson (.array [.array [.string "1px", .string " ≤\t", .string "2px"], .string "aNd ",
      .array [.string "1em", .string "more", .string " <"]]) =
        .ok (logic (compare ⟨"1px", .lessEquals, "2px"⟩) .and (compare ⟨"1em", .more, " <"⟩)) ∧
    (logic (compare ⟨"1px", .lessEquals, "2px"⟩) .and (compare ⟨"1em", .more, " <"⟩)).toJson =
      Json.respell (.array [.array [.string "1px", .string " ≤\t", .string "2px"],
        .string "aNd ", .array [.string "1em", .string "more", .string " <"]]) :=
  ⟨rfl, ((ofJson_iff_form _ _).2 rfl).1⟩

end Condition

end BranchlessCalc
