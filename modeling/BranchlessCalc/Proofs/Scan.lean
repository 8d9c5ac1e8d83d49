/-
  BranchlessCalc.Proofs.Scan

  How the scan of a text is made up from the scans of its parts.

  Numbers, units and names are read greedily, so two texts written next to each
  other may share a token. A separator between them rules this out: no token
  but its own contains it (`scanToken_append`), and so the scan of the whole is
  the scan of the first part continued by the scan of the rest
  (`scan_append_separator`), to which the separator gives its own token
  (`scan_append_cons`). A minus sign is no separator, as names contain it.
-/
import BranchlessCalc.Calc.Token

namespace BranchlessCalc.Calc

/-! ## Separators -/

/-- Characters that end every token in front of them: white space, and the
    symbols that cannot stand inside a name. -/
def isSeparator (c : Char) : Bool :=
  Text.isBlank c || ['+', '*', '/', '(', ')', ','].contains c

theorem not_between_of_toNat {c : Char} (low high : Char)
    (h : c.toNat < low.toNat ∨ high.toNat < c.toNat) : ¬ (c.val ≥ low.val ∧ c.val ≤ high.val) := by
  rintro ⟨hlow, hhigh⟩
  have hlow' : low.toNat ≤ c.toNat := hlow
  have hhigh' : c.toNat ≤ high.toNat := hhigh
  omega

/-- White space lies in none of the character classes that tokens are made of. -/
theorem isNamePart_of_isBlank {c : Char} (h : Text.isBlank c = true) :
    isNumeral c = false ∧ isNamePart c = false := by
  simp only [Text.isBlank, Text.blankRanges, List.any_cons, List.any_nil, Bool.or_false,
    Bool.or_eq_true, Bool.and_eq_true, decide_eq_true_eq] at h
  have hpoint : c ≠ '.' := by rintro rfl; revert h; decide
  have hminus : c ≠ '-' := by rintro rfl; revert h; decide
  -- The ranges of digits and letters fall into gaps between those of white space.
  have hupper : ¬ (c.val ≥ 'A'.val ∧ c.val ≤ 'Z'.val) :=
    not_between_of_toNat 'A' 'Z' (by simp only [Char.reduceToNat]; omega)
  have hlower : ¬ (c.val ≥ 'a'.val ∧ c.val ≤ 'z'.val) :=
    not_between_of_toNat 'a' 'z' (by simp only [Char.reduceToNat]; omega)
  have hrange : ¬ (c.val ≥ '0'.val ∧ c.val ≤ '9'.val) :=
    not_between_of_toNat '0' '9' (by simp only [Char.reduceToNat]; omega)
  have halpha : c.isAlpha = false := Bool.or_eq_false_iff.mpr
    ⟨decide_eq_false hupper, (Bool.decide_and _ _).symm.trans (decide_eq_false hlower)⟩
  have hdigit : c.isDigit = false := (Bool.decide_and _ _).symm.trans (decide_eq_false hrange)
  have halphanum : c.isAlphanum = false := Bool.or_eq_false_iff.mpr ⟨halpha, hdigit⟩
  rw [isNumeral, isNamePart, hdigit, halphanum, beq_eq_false_iff_ne.mpr hpoint,
    beq_eq_false_iff_ne.mpr hminus]
  exact ⟨rfl, rfl⟩

/-- A separator lies in none of the character classes that tokens are made of. -/
theorem isNamePart_of_isSeparator {c : Char} (h : isSeparator c = true) :
    isNumeral c = false ∧ isNamePart c = false := by
  rw [isSeparator, Bool.or_eq_true] at h
  rcases h with h | h
  · exact isNamePart_of_isBlank h
  · simp only [List.contains_iff_mem, List.mem_cons, List.not_mem_nil, or_false] at h
    rcases h with rfl | rfl | rfl | rfl | rfl | rfl <;> decide

/-- Letters are name characters, so no separator is one. -/
theorem isAlpha_of_isSeparator {c : Char} (h : isSeparator c = true) : c.isAlpha = false := by
  have hname := (isNamePart_of_isSeparator h).2
  have halphanum : c.isAlphanum = false := (Bool.or_eq_false_iff.mp hname).1
  exact (Bool.or_eq_false_iff.mp halphanum).1

/-! ## Runs of one character class -/

section Runs

variable {p : Char → Bool} {q : Char}

theorem takeWhile_append_cons_of_neg (hq : p q = false) (l m : List Char) :
    (l ++ q :: m).takeWhile p = l.takeWhile p := by
  induction l with
  | nil => simp [hq]
  | cons c l ih => simp [List.takeWhile_cons, ih]

theorem dropWhile_append_cons_of_neg (hq : p q = false) (l m : List Char) :
    (l ++ q :: m).dropWhile p = l.dropWhile p ++ q :: m := by
  induction l with
  | nil => simp [hq]
  | cons c l ih =>
    simp only [List.cons_append, List.dropWhile_cons, ih]
    split <;> rfl

end Runs

/-! ## One token -/

/-- A dimension in front of a separator is the one that ends there. -/
theorem scanDimension_append {q : Char} (hq : isSeparator q = true) (l m : List Char) :
    scanDimension (l ++ q :: m) =
      (scanDimension l).map fun (value, tail) => (value, tail ++ q :: m) := by
  have hnumeral := (isNamePart_of_isSeparator hq).1
  have halpha := isAlpha_of_isSeparator hq
  -- Digits and letters both end at the separator, if not before.
  simp only [scanDimension, takeWhile_append_cons_of_neg hnumeral,
    dropWhile_append_cons_of_neg hnumeral, takeWhile_append_cons_of_neg halpha,
    dropWhile_append_cons_of_neg halpha]
  split
  · rfl
  · split <;> rfl

/-- No token reaches across a separator. -/
theorem scanToken_append {q : Char} (hq : isSeparator q = true) (c : Char) (l m : List Char) :
    scanToken c (l ++ q :: m) =
      (scanToken c l).map fun (token, tail) => (token, tail ++ q :: m) := by
  have hname := (isNamePart_of_isSeparator hq).2
  have hdimension : scanDimension (c :: (l ++ q :: m)) = _ := scanDimension_append hq (c :: l) m
  simp only [scanToken, hdimension, takeWhile_append_cons_of_neg hname,
    dropWhile_append_cons_of_neg hname]
  split
  · rfl
  · split
    · cases scanDimension (c :: l) <;> rfl
    · split <;> rfl

/-! ## Whole texts -/

/-- A scan continued by the scan of what follows, unless it stopped early. -/
def Scan.andThen (first second : Scan) : Scan :=
  match first.error? with
  | none => ⟨first.tokens ++ second.tokens, second.error?⟩
  | some _ => first

@[simp] theorem Scan.done_andThen (second : Scan) : Scan.done.andThen second = second := rfl

@[simp] theorem Scan.stopped_andThen (error : ScanError) (second : Scan) :
    (Scan.stopped error).andThen second = Scan.stopped error := rfl

@[simp] theorem Scan.cons_andThen (token : Token) (first second : Scan) :
    (first.cons token).andThen second = (first.andThen second).cons token := by
  obtain ⟨tokens, error?⟩ := first
  cases error? <;> rfl

theorem scan_nil : scan [] = .done := by rw [scan]

/-- White space in front of a text leaves no token. -/
theorem scan_cons_of_blank {c : Char} (hc : Text.isBlank c = true) (rest : List Char) :
    scan (c :: rest) = scan rest := by
  rw [scan, if_pos hc]

/-- A text that starts with a token. -/
theorem scan_cons_of_ok {c : Char} {rest tail : List Char} {token : Token}
    (hc : Text.isBlank c = false) (h : scanToken c rest = .ok (token, tail)) :
    scan (c :: rest) = (scan tail).cons token := by
  rw [scan, if_neg (by simp [hc])]
  split
  · simp_all
  · simp_all

/-- A text that is one token. -/
theorem scan_token {text : String} {c : Char} {rest : List Char} {token : Token}
    (htext : text.toList = c :: rest) (hc : Text.isBlank c = false)
    (h : scanToken c rest = .ok (token, [])) : scan text.toList = ⟨[token], none⟩ := by
  rw [htext, scan_cons_of_ok hc h, scan_nil]
  rfl

/-- A text that starts with something that is no token. -/
theorem scan_cons_of_error {c : Char} {rest : List Char} {error : ScanError}
    (hc : Text.isBlank c = false) (h : scanToken c rest = .error error) :
    scan (c :: rest) = .stopped error := by
  rw [scan, if_neg (by simp [hc])]
  split
  · simp_all
  · simp_all

/-- The scan of a text that a separator divides is the scan of its first part
    continued by the scan from the separator on. -/
theorem scan_append_separator {q : Char} (hq : isSeparator q = true) (l m : List Char) :
    scan (l ++ q :: m) = (scan l).andThen (scan (q :: m)) := by
  -- Along the scan of the first part: each of its steps is taken in the whole text too.
  fun_induction scan l with
  | case1 => simp
  | case2 c rest hc ih => rw [List.cons_append, scan_cons_of_blank hc, ih]
  | case3 c rest hc error herror =>
    have happend := scanToken_append hq c rest m
    rw [herror] at happend
    rw [List.cons_append, scan_cons_of_error (by simpa using hc) happend, Scan.stopped_andThen]
  | case4 c rest hc token tail hok ih =>
    have happend := scanToken_append hq c rest m
    rw [hok] at happend
    rw [List.cons_append, scan_cons_of_ok (by simpa using hc) happend, ih, Scan.cons_andThen]

/-! ## Tokens of a separator -/

/-- What a separator itself leaves in a scan: its token, or nothing for white space. -/
def separatorTokens : Char → List Token
  | '+' => [.plus]
  | '*' => [.star]
  | '/' => [.slash]
  | '(' => [.leftParen]
  | ')' => [.rightParen]
  | ',' => [.comma]
  | _ => []

theorem separatorTokens_of_isBlank {c : Char} (h : Text.isBlank c = true) :
    separatorTokens c = [] := by
  rw [separatorTokens]
  -- None of the six symbols is white space.
  all_goals
    rintro rfl
    exact absurd h (by decide)

/-- A separator makes the same tokens whatever follows it. -/
theorem scan_cons_separator {q : Char} (hq : isSeparator q = true) (m : List Char) :
    scan (q :: m) = (Scan.mk (separatorTokens q) none).andThen (scan m) := by
  rw [isSeparator, Bool.or_eq_true] at hq
  rcases hq with hblank | hsymbol
  · rw [scan_cons_of_blank hblank, separatorTokens_of_isBlank hblank]
    rfl
  · simp only [List.contains_iff_mem, List.mem_cons, List.not_mem_nil, or_false] at hsymbol
    rcases hsymbol with rfl | rfl | rfl | rfl | rfl | rfl <;> exact scan_cons_of_ok rfl rfl

/-- Between two texts a separator adds its own tokens, and nothing else changes. -/
theorem scan_append_cons {q : Char} (hq : isSeparator q = true) (l m : List Char) :
    scan (l ++ q :: m) =
      (scan l).andThen ((Scan.mk (separatorTokens q) none).andThen (scan m)) := by
  rw [scan_append_separator hq, scan_cons_separator hq]

end BranchlessCalc.Calc
