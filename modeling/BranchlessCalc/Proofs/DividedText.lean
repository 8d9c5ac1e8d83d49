/-
  BranchlessCalc.Proofs.DividedText

  Which characters divide a text.

  A character divides texts if the text on each side of it is scanned as if it
  stood alone, whatever the two texts are, and the character itself adds tokens
  of its own in between. An error on the left is found in the whole text as well,
  in the same words, and nothing behind it is looked at.

  Separators divide texts (`divides_of_isSeparator`), and no other character does.
  One that may stand in a name becomes part of a name in front of it
  (`scan_letter_namePart`). That holds of letters and digits, and of the minus
  sign too, although it is a token of its own elsewhere. A character that is
  neither stops every scan that reaches it (`exists_scan_singleton_eq_stopped`).
-/
import Mathlib.Tactic.ByContra
import BranchlessCalc.Proofs.Scan

namespace BranchlessCalc.Calc

/-- Written between two texts, `q` keeps their tokens apart and stands for the
    tokens `own`. -/
structure Divides (q : Char) (own : List Token) : Prop where
  /-- Behind a text without an error the scan goes on, with the second text's error if any. -/
  continues : ∀ a b : String, (scan a.toList).error? = none →
    scan (a ++ q.toString ++ b).toList =
      ⟨(scan a.toList).tokens ++ own ++ (scan b.toList).tokens, (scan b.toList).error?⟩
  /-- An error in the first text is the error of the whole. -/
  stops : ∀ (a b : String) (error : ScanError), (scan a.toList).error? = some error →
    scan (a ++ q.toString ++ b).toList = ⟨(scan a.toList).tokens, some error⟩

theorem toList_append_char (a b : String) (q : Char) :
    (a ++ q.toString ++ b).toList = a.toList ++ q :: b.toList := by
  simp

/-! ## Separators -/

theorem divides_of_isSeparator {q : Char} (hq : isSeparator q = true) :
    Divides q (separatorTokens q) where
  continues a b hnone := by
    rw [toList_append_char, scan_append_cons hq]
    simp only [Scan.andThen, hnone, List.append_assoc]
  stops a b error herror := by
    rw [toList_append_char, scan_append_cons hq]
    simp only [Scan.andThen, herror]
    rw [← herror]

/-- Between two empty texts only the tokens of the character are left. -/
theorem Divides.scan_singleton {q : Char} {own : List Token} (h : Divides q own) :
    scan [q] = ⟨own, none⟩ := by
  have hempty : scan "".toList = .done := scan_nil
  have hwhole := h.continues "" "" (by rw [hempty]; rfl)
  rw [toList_append_char, hempty] at hwhole
  simpa [Scan.done] using hwhole

/-! ## Other characters -/

/-- A letter takes in the character behind it if that may stand in a name. -/
theorem scan_letter_namePart {q : Char} (hq : isNamePart q = true) :
    scan ['x', q] = ⟨[.name (String.ofList ['x', q])], none⟩ := by
  have htoken : scanToken 'x' [q] =
      .ok (.name (String.ofList ('x' :: [q].takeWhile isNamePart)), [q].dropWhile isNamePart) := rfl
  rw [List.takeWhile_cons_of_pos hq, List.dropWhile_cons_of_pos hq] at htoken
  rw [scan_cons_of_ok rfl htoken, List.dropWhile_nil, scan_nil]
  rfl

-- The minus sign is a symbol and may still stand in a name.
example : scan "x-".toList = ⟨[.name "x-"], none⟩ := by with_unfolding_all rfl

/-- A character that neither separates nor stands in a name stops the scan. -/
theorem exists_scan_singleton_eq_stopped {q : Char} (hseparator : isSeparator q = false)
    (hname : isNamePart q = false) : ∃ error, scan [q] = .stopped error := by
  have hblank : Text.isBlank q = false := (Bool.or_eq_false_iff.mp hseparator).1
  have hsymbol : Token.ofSymbol? q = none := by
    rw [Token.ofSymbol?]
    -- Every symbol separates, but for the minus sign, which may stand in a name.
    all_goals
      rintro rfl
      exact absurd (And.intro hseparator hname) (by decide)
  have halphanum : q.isAlphanum = false := (Bool.or_eq_false_iff.mp hname).1
  obtain ⟨halpha, hdigit⟩ := Bool.or_eq_false_iff.mp halphanum
  by_cases hpoint : q = '.'
  · -- A point is read as a number, but alone it is none.
    subst hpoint
    exact ⟨.invalidNumber ".", scan_cons_of_error rfl rfl⟩
  · have hnumeral : isNumeral q = false := by simp [isNumeral, hdigit, hpoint]
    have htoken : scanToken q [] = .error (.unexpectedChar q) := by
      simp [scanToken, hsymbol, hnumeral, halpha]
    exact ⟨.unexpectedChar q, scan_cons_of_error hblank htoken⟩

/-- Only separators divide texts. -/
theorem Divides.isSeparator {q : Char} {own : List Token} (h : Divides q own) :
    isSeparator q = true := by
  by_contra hseparator
  rw [Bool.not_eq_true] at hseparator
  cases hname : isNamePart q with
  | true =>
    -- The name `x` is longer in front of `q`, and so is not kept apart from it.
    have hx : scan "x".toList = ⟨[.name "x"], none⟩ := scan_token rfl rfl rfl
    have hwhole := h.continues "x" "" (by rw [hx])
    rw [toList_append_char, hx] at hwhole
    have hlonger := (scan_letter_namePart hname).symm.trans hwhole
    have htokens := (Scan.mk.inj hlonger).1
    have hhead : Token.name (String.ofList ['x', q]) = Token.name "x" := (List.cons.inj htokens).1
    have hlength := congrArg String.length (Token.name.inj hhead)
    simp at hlength
  | false =>
    obtain ⟨error, hstopped⟩ := exists_scan_singleton_eq_stopped hseparator hname
    rw [h.scan_singleton] at hstopped
    cases hstopped

/-! ## All characters -/

/-- The characters that divide texts are exactly the separators: white space, which
    leaves no token, and the symbols that no name contains, which leave their own. -/
theorem divides_iff_isSeparator (q : Char) (own : List Token) :
    Divides q own ↔ isSeparator q = true ∧ own = separatorTokens q := by
  constructor
  · intro h
    have hq := h.isSeparator
    have htokens := h.scan_singleton.symm.trans (divides_of_isSeparator hq).scan_singleton
    exact ⟨hq, (Scan.mk.inj htokens).1⟩
  · rintro ⟨hq, rfl⟩
    exact divides_of_isSeparator hq

/-- A wide blank behind a name that could go on, and a bracket behind a unit that is none. -/
theorem divides_iff_isSeparator_greedy :
    scan ("max-2" ++ '\u3000'.toString ++ "-3rem $").toList =
      ⟨[.name "max-2", .minus, .number ⟨⟨3, 0⟩, .rem⟩], some (.unexpectedChar '$')⟩ ∧
    scan ("2 * 3p" ++ ')'.toString ++ "x").toList =
      ⟨[.number ⟨⟨2, 0⟩, .unitless⟩, .star], some (.unknownUnit "p")⟩ := by
  have hblank : Divides '\u3000' [] := (divides_iff_isSeparator _ _).mpr ⟨by decide, rfl⟩
  have hbracket : Divides ')' [.rightParen] := (divides_iff_isSeparator _ _).mpr ⟨by decide, rfl⟩
  have hname : scan "max-2".toList = ⟨[.name "max-2"], none⟩ := by with_unfolding_all rfl
  have hsecond : scan "-3rem $".toList =
      ⟨[.minus, .number ⟨⟨3, 0⟩, .rem⟩], some (.unexpectedChar '$')⟩ := by with_unfolding_all rfl
  have hunit : scan "2 * 3p".toList =
      ⟨[.number ⟨⟨2, 0⟩, .unitless⟩, .star], some (.unknownUnit "p")⟩ := by with_unfolding_all rfl
  constructor
  · rw [hblank.continues _ _ (by rw [hname]), hname, hsecond]
    rfl
  · rw [hbracket.stops _ _ (.unknownUnit "p") (by rw [hunit]), hunit]

end BranchlessCalc.Calc
