/-
  BranchlessCalc.Proofs.WrittenJson

  Written JSON is scanned into the tokens of its value.

  The heart of it is the string: each character is escaped on its own, and its
  escape is scanned as one piece (`scanPieces_escapeChar`) that stands for this
  character again (`joinPieces?_written`), whatever follows. So every text of
  Unicode characters comes back from between its quotes. Arrays of three items,
  which is all that conditions are made of, then scan item by item.
-/
import Mathlib.Tactic.SplitIfs
import BranchlessCalc.Proofs.JsonTokens

namespace BranchlessCalc.Json

/-! ## Characters -/

/-- The piece that a written character is scanned as. Control characters without an
    escape letter are written as units. -/
def writtenPiece (c : Char) : Piece :=
  if escapeLetter? c = none ∧ c.toNat < 0x20 then .unit c.toNat else .char c

theorem hexDigit?_digitChar : ∀ n < 16, hexDigit? (Nat.digitChar n) = some n := by
  decide

/-- Escape letters are read back. -/
theorem unescapeLetter?_of_escapeLetter? {c letter : Char} (h : escapeLetter? c = some letter) :
    unescapeLetter? letter = some c := by
  unfold escapeLetter? at h
  split_ifs at h with h₁ h₂ h₃ h₄ h₅ h₆ h₇ <;> cases h <;> subst_vars <;> rfl

theorem scanPieces_letter {c letter : Char} (h : unescapeLetter? letter = some c)
    (rest : List Char) :
    scanPieces ('\\' :: letter :: rest) = consPiece (.char c) (scanPieces rest) := by
  have hunit : letter ≠ 'u' := by
    rintro rfl
    cases h
  rw [scanPieces, h]
  simp [hunit]

theorem scanPieces_unit {n : Nat} (h : n < 0x100) (rest : List Char) :
    scanPieces ('\\' :: 'u' :: '0' :: '0' :: Nat.digitChar (n / 16) :: Nat.digitChar (n % 16) ::
      rest) = consPiece (.unit n) (scanPieces rest) := by
  have hhigh := hexDigit?_digitChar (n / 16) (by omega)
  have hlow := hexDigit?_digitChar (n % 16) (by omega)
  -- The two leading zeros add nothing, and the other digits are `n` in base 16.
  have hunit : hexUnit? '0' '0' (Nat.digitChar (n / 16)) (Nat.digitChar (n % 16)) = some n := by
    rw [hexUnit?, hhigh, hlow]
    simp [hexDigit?]
    omega
  rw [scanPieces, hunit]

theorem scanPieces_plain {c : Char} (hquote : c ≠ '"') (hplain : ¬ (c = '\\' ∨ c.toNat < 0x20))
    (rest : List Char) : scanPieces (c :: rest) = consPiece (.char c) (scanPieces rest) := by
  rw [scanPieces]
  · rw [if_neg hplain]
  · exact hquote
  · exact fun _ _ _ _ _ h _ => hplain (.inl h)
  · exact fun _ _ h _ => hplain (.inl h)

/-- A written character is scanned as its piece, whatever follows. -/
theorem scanPieces_escapeChar (c : Char) (rest : List Char) :
    scanPieces (escapeChar c ++ rest) = consPiece (writtenPiece c) (scanPieces rest) := by
  unfold escapeChar writtenPiece
  cases hletter : escapeLetter? c with
  | some letter =>
    simp only [reduceCtorEq, false_and, if_false]
    exact scanPieces_letter (unescapeLetter?_of_escapeLetter? hletter) rest
  | none =>
    simp only [true_and]
    split
    · next hcontrol => exact scanPieces_unit (by omega) rest
    · next hplain =>
      have hquote : c ≠ '"' := by
        rintro rfl
        cases hletter
      have hslash : c ≠ '\\' := by
        rintro rfl
        cases hletter
      exact scanPieces_plain hquote (by simp [hslash, hplain]) rest

/-- A unit that is no half of a pair stands for its character, whatever follows. -/
theorem joinPieces?_unit {value : Nat} (h : value < 0xD800) (pieces : List Piece) :
    joinPieces? (.unit value :: pieces) = (joinPieces? pieces).map (Char.ofNat value :: ·) := by
  have hsingle : value < 0xD800 ∨ 0xE000 ≤ value := .inl h
  cases pieces with
  | nil => simp only [joinPieces?, if_pos hsingle]
  | cons piece pieces =>
    cases piece with
    | char c => simp only [joinPieces?, if_pos hsingle]
    | unit low => rw [joinPieces?, if_pos hsingle]

/-- The piece of a written character stands for this character. -/
theorem joinPieces?_written (c : Char) (pieces : List Piece) :
    joinPieces? (writtenPiece c :: pieces) = (joinPieces? pieces).map (c :: ·) := by
  unfold writtenPiece
  split
  · next hcontrol => rw [joinPieces?_unit (by omega), Char.ofNat_toNat]
  · rw [joinPieces?]

/-! ## Strings -/

theorem scanPieces_escaped (text rest : List Char) :
    scanPieces (text.flatMap escapeChar ++ '"' :: rest) = some (text.map writtenPiece, rest) := by
  induction text with
  | nil => rw [List.flatMap_nil, List.nil_append, scanPieces]; rfl
  | cons c text ih =>
    rw [List.flatMap_cons, List.append_assoc, scanPieces_escapeChar, ih]
    rfl

theorem joinPieces?_map_written (text : List Char) :
    joinPieces? (text.map writtenPiece) = some text := by
  induction text with
  | nil => rfl
  | cons c text ih => rw [List.map_cons, joinPieces?_written, ih, Option.map_some]

theorem toList_writeString_append (text : String) (rest : List Char) :
    (writeString text).toList ++ rest =
      '"' :: (text.toList.flatMap escapeChar ++ '"' :: rest) := by
  simp [writeString]

/-- What stands behind an opening quote is one token with the text that was escaped. -/
theorem scanToken_escaped (text : String) (rest : List Char) :
    scanToken ('"' :: (text.toList.flatMap escapeChar ++ '"' :: rest)) =
      some (.string (some text), rest) := by
  rw [scanToken, scanPieces_escaped]
  simp only [Option.map_some, joinPieces?_map_written, String.ofList_toList]

/-! ## Texts -/

/-- Tokens in front of a scan. -/
def Scan.prepend (tokens : List Token) (scan : Scan) : Scan :=
  { scan with tokens := tokens ++ scan.tokens }

/-- The written value scans into its tokens, whatever follows. -/
def ScansBack (value : Json) : Prop :=
  ∀ rest, scan (value.compact.toList ++ rest) = (scan rest).prepend value.tokens

theorem scan_cons_of_some {c : Char} {rest tail : List Char} {token : Token}
    (hc : isSpace c = false) (h : scanToken (c :: rest) = some (token, tail)) :
    scan (c :: rest) = (scan tail).cons token := by
  rw [scan, if_neg (by simp [hc])]
  split
  · simp_all
  · simp_all

theorem scansBack_string (text : String) : ScansBack (.string text) := by
  intro rest
  have htoken := scanToken_escaped text rest
  rw [compact, toList_writeString_append, scan_cons_of_some (by decide) htoken]
  rfl

theorem compact_triple (a b c : Json) :
    (array [a, b, c]).compact.toList =
      '[' :: (a.compact.toList ++
        ',' :: (b.compact.toList ++ ',' :: (c.compact.toList ++ [']']))) := by
  simp [compact, compactItems]

/-- Items that scan back make an array that does. -/
theorem scansBack_triple {a b c : Json} (ha : ScansBack a) (hb : ScansBack b)
    (hc : ScansBack c) : ScansBack (.array [a, b, c]) := by
  intro rest
  have hopen : ∀ text, scan ('[' :: text) = (scan text).cons .leftBracket := fun text =>
    scan_cons_of_some (by decide) rfl
  have hclose : ∀ text, scan (']' :: text) = (scan text).cons .rightBracket := fun text =>
    scan_cons_of_some (by decide) rfl
  have hcomma : ∀ text, scan (',' :: text) = (scan text).cons .comma := fun text =>
    scan_cons_of_some (by decide) rfl
  rw [compact_triple]
  simp only [List.cons_append, List.append_assoc, List.nil_append, hopen, ha _, hcomma, hb _, hc _,
    hclose]
  simp [Scan.cons, Scan.prepend, tokens, itemsTokens, itemsTail]

/-- What scans back is parsed back. -/
theorem ScansBack.parse? {value : Json} (h : ScansBack value) :
    parse? value.compact = some value := by
  have hscan := h []
  rw [List.append_nil, scan] at hscan
  rw [parse?_eq_some_iff, hscan, Scan.prepend, List.append_nil]

end BranchlessCalc.Json
