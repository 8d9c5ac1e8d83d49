/-
  BranchlessCalc.Proofs.ScanPrefix

  The scan of a JSON text begins with the scan of every part that it begins with.

  A token is the same in front of more text, unless it is a number that the text
  lengthens: strings, brackets and words end by themselves. So if what follows does
  not begin with a character that numbers are made of, then all tokens of the first
  part are tokens of the whole (`scan_append`).
-/
import Mathlib.Tactic.ByContra
import BranchlessCalc.Proofs.Scan
import BranchlessCalc.Proofs.WrittenJson

namespace BranchlessCalc.Json

/-! ## What follows a number -/

/-- Characters that may lengthen a number. -/
def lengthensNumber (c : Char) : Bool :=
  c.isDigit || ['.', 'e', 'E'].contains c

/-- The text lengthens no number in front of it. -/
def LeavesNumbers (more : List Char) : Prop :=
  ∀ c ∈ more.head?, lengthensNumber c = false

section Runs

variable {p : Char → Bool} {more : List Char}

theorem takeWhile_append_of_head (h : ∀ c ∈ more.head?, p c = false) (l : List Char) :
    (l ++ more).takeWhile p = l.takeWhile p := by
  cases more with
  | nil => rw [List.append_nil]
  | cons c more => exact Calc.takeWhile_append_cons_of_neg (h c rfl) l more

theorem dropWhile_append_of_head (h : ∀ c ∈ more.head?, p c = false) (l : List Char) :
    (l ++ more).dropWhile p = l.dropWhile p ++ more := by
  cases more with
  | nil => rw [List.append_nil, List.append_nil]
  | cons c more => exact Calc.dropWhile_append_cons_of_neg (h c rfl) l more

end Runs

section Numbers

variable {more : List Char} (hmore : LeavesNumbers more)
include hmore

theorem LeavesNumbers.isDigit : ∀ c ∈ more.head?, c.isDigit = false := fun c hc =>
  (Bool.or_eq_false_iff.mp (hmore c hc)).1

/-- A text that does not begin with a character of numbers does not begin with it in
    front of `more` either. -/
theorem LeavesNumbers.append_ne {c : Char} (hc : lengthensNumber c = true) {text : List Char}
    (h : ∀ rest, text ≠ c :: rest) (rest : List Char) : text ++ more ≠ c :: rest := by
  cases text with
  | nil =>
    rintro rfl
    rw [hmore c rfl] at hc
    cases hc
  | cons d text =>
    intro hcons
    obtain ⟨rfl, _⟩ := List.cons.inj hcons
    exact h text rfl

theorem scanFraction_append {text digits tail : List Char}
    (h : scanFraction text = some (digits, tail)) :
    scanFraction (text ++ more) = some (digits, tail ++ more) := by
  unfold scanFraction at h
  split at h
  · next rest =>
    split at h
    · cases h
    · next hdigits =>
      cases h
      rw [List.cons_append, scanFraction, takeWhile_append_of_head hmore.isDigit,
        dropWhile_append_of_head hmore.isDigit, if_neg hdigits]
  · next hpoint =>
    cases h
    rw [scanFraction]
    exact hmore.append_ne (by decide) hpoint

theorem scanExponentDigits_append {negative : Bool} {text tail : List Char} {value? : Option Int}
    (h : scanExponentDigits negative text = some (value?, tail)) :
    scanExponentDigits negative (text ++ more) = some (value?, tail ++ more) := by
  simp only [scanExponentDigits] at h ⊢
  rw [takeWhile_append_of_head hmore.isDigit, dropWhile_append_of_head hmore.isDigit]
  split at h
  · cases h
  · next hdigits =>
    cases h
    rw [if_neg hdigits]

theorem scanSignedExponent_append {text tail : List Char} {value? : Option Int}
    (h : scanSignedExponent text = some (value?, tail)) :
    scanSignedExponent (text ++ more) = some (value?, tail ++ more) := by
  cases text with
  | nil => cases h
  | cons c rest =>
    unfold scanSignedExponent at h
    split at h
    · next hcons =>
      cases hcons
      exact scanExponentDigits_append hmore h
    · next hcons =>
      cases hcons
      exact scanExponentDigits_append hmore h
    · next hminus hplus =>
      rw [List.cons_append, scanSignedExponent]
      · exact scanExponentDigits_append hmore h
      · intro tail' hcons
        exact hminus rest (by rw [(List.cons.inj hcons).1])
      · intro tail' hcons
        exact hplus rest (by rw [(List.cons.inj hcons).1])

theorem scanExponent_append {text tail : List Char} {value? : Option Int}
    (h : scanExponent text = some (value?, tail)) :
    scanExponent (text ++ more) = some (value?, tail ++ more) := by
  unfold scanExponent at h
  split at h
  · exact scanSignedExponent_append hmore h
  · exact scanSignedExponent_append hmore h
  · next hlower hupper =>
    cases h
    rw [scanExponent]
    · exact hmore.append_ne (by decide) hlower
    · exact hmore.append_ne (by decide) hupper

theorem scanMagnitude_append {negative : Bool} {text tail : List Char} {value : Number}
    (h : scanMagnitude negative text = some (value, tail)) :
    scanMagnitude negative (text ++ more) = some (value, tail ++ more) := by
  simp only [scanMagnitude] at h ⊢
  rw [takeWhile_append_of_head hmore.isDigit, dropWhile_append_of_head hmore.isDigit]
  split at h
  · cases h
  · next hwhole =>
    rw [if_neg hwhole]
    split at h
    · cases h
    · next hfraction =>
      rw [scanFraction_append hmore hfraction]
      split at h
      · cases h
      · next hexponent =>
        cases h
        simp only [scanExponent_append hmore hexponent]

end Numbers

/-! ## Tokens -/

theorem consPiece_append {piece : Piece} {scanned scanned' : Option (List Piece × List Char)}
    {pieces : List Piece} {tail more : List Char}
    (hscanned : ∀ pieces tail, scanned = some (pieces, tail) →
      scanned' = some (pieces, tail ++ more))
    (h : consPiece piece scanned = some (pieces, tail)) :
    consPiece piece scanned' = some (pieces, tail ++ more) := by
  simp only [consPiece, Option.map_eq_some_iff, Prod.exists, Prod.mk.injEq] at h
  obtain ⟨pieces, tail, hs, rfl, rfl⟩ := h
  rw [hscanned pieces tail hs]
  rfl

/-- A string ends by itself. -/
theorem scanPieces_append {text tail : List Char} {pieces : List Piece}
    (h : scanPieces text = some (pieces, tail)) (more : List Char) :
    scanPieces (text ++ more) = some (pieces, tail ++ more) := by
  fun_induction scanPieces text generalizing pieces tail with
  | case1 => cases h
  | case2 rest =>
    cases h
    rw [List.cons_append, scanPieces]
  | case3 a b c d rest value hunit ih =>
    simp only [List.cons_append]
    rw [scanPieces, hunit]
    exact consPiece_append (fun _ _ => ih) h
  | case4 => cases h
  | case5 letter rest _ c hletter ih =>
    rw [List.cons_append, List.cons_append, scanPieces_letter hletter]
    exact consPiece_append (fun _ _ => ih) h
  | case6 => cases h
  | case7 => cases h
  | case8 c rest hquote _ _ hplain ih =>
    rw [List.cons_append, scanPieces_plain hquote hplain]
    exact consPiece_append (fun _ _ => ih) h

/-- A digit begins a number. -/
theorem scanToken_digit {c : Char} (hc : c.isDigit = true) (rest : List Char) :
    scanToken (c :: rest) =
      (scanMagnitude false (c :: rest)).map fun (value, rest) => (.number value, rest) := by
  rw [scanToken]
  -- No other token begins with a digit.
  all_goals
    intro _ hcons
    obtain ⟨rfl, _⟩ := List.cons.inj hcons
    exact absurd hc (by decide)

/-- A number without a sign begins with a digit. -/
theorem exists_digit_of_scanMagnitude {negative : Bool} {text tail : List Char} {value : Number}
    (h : scanMagnitude negative text = some (value, tail)) :
    ∃ c rest, text = c :: rest ∧ c.isDigit = true := by
  cases text with
  | nil => cases h
  | cons c rest =>
    refine ⟨c, rest, rfl, ?_⟩
    by_contra hdigit
    simp [scanMagnitude, hdigit] at h

theorem scanToken_of_spelling {token : Token} {lexeme : List Char}
    (h : token.spelling? = some lexeme) (rest : List Char) :
    scanToken (lexeme ++ rest) = some (token, rest) := by
  unfold Token.spelling? at h
  split at h <;> cases h <;> rfl

/-- A token is the same in front of a text that lengthens no number. -/
theorem scanToken_append {text tail more : List Char} {token : Token}
    (hmore : LeavesNumbers more) (h : scanToken text = some (token, tail)) :
    scanToken (text ++ more) = some (token, tail ++ more) := by
  cases isRead_of_scanToken h with
  | fixed hspelling htext =>
    -- Brackets and words are closed by their last character.
    rw [htext, List.append_assoc]
    exact scanToken_of_spelling hspelling _
  | string hpieces =>
    rw [List.cons_append, scanToken, scanPieces_append hpieces]
    rfl
  | negative hvalue =>
    rw [List.cons_append, scanToken, scanMagnitude_append hmore hvalue]
    rfl
  | unsigned hvalue =>
    obtain ⟨c, rest, rfl, hc⟩ := exists_digit_of_scanMagnitude hvalue
    have happend := scanMagnitude_append hmore hvalue
    rw [List.cons_append] at happend ⊢
    rw [scanToken_digit hc, happend]
    rfl

/-! ## Texts -/

/-- All tokens of a text are scanned in front of a text that lengthens no number. -/
theorem scan_append {text more : List Char} (hmore : LeavesNumbers more) :
    ∃ tokens, (scan (text ++ more)).tokens = (scan text).tokens ++ tokens := by
  fun_induction scan text with
  | case1 => exact ⟨_, rfl⟩
  | case2 c rest hc ih =>
    obtain ⟨tokens, htokens⟩ := ih
    refine ⟨tokens, ?_⟩
    rw [List.cons_append, scan, if_pos hc, htokens]
  | case3 c rest hc hnone =>
    -- The scan of `text` stopped here, so nothing is asked of what comes after.
    exact ⟨_, rfl⟩
  | case4 c rest hc token tail hsome ih =>
    obtain ⟨tokens, htokens⟩ := ih
    have happend := scanToken_append hmore hsome
    rw [List.cons_append] at happend
    refine ⟨tokens, ?_⟩
    rw [List.cons_append, scan_cons_of_some (by simpa using hc) happend]
    simp only [Scan.cons, htokens, List.cons_append]

end BranchlessCalc.Json
