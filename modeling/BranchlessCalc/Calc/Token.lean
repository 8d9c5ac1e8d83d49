/-
  BranchlessCalc.Calc.Token

  Tokens of CSS math expressions, and the scan of a text into them.

  A scan never fails as a whole: it yields the tokens in front of the first
  character, number or unit that it cannot read, together with what was wrong
  there. So a reader of the tokens decides whether it ever gets that far.
-/
import BranchlessCalc.Calc.Arithmetic
import BranchlessCalc.Text.Blank

namespace BranchlessCalc.Calc

/-! ## Dimensions -/

/-- The units a number may carry. -/
inductive LengthUnit
  | unitless
  | px
  | rem
  | em
deriving DecidableEq, Repr, Inhabited

/-- The unit written by a run of letters, which may be empty. -/
def LengthUnit.ofName? : String → Option LengthUnit
  | "" => some .unitless
  | "px" => some .px
  | "rem" => some .rem
  | "em" => some .em
  | _ => none

/-- A number with its unit. -/
structure Dimension where
  number : Decimal
  unit : LengthUnit
deriving DecidableEq, Repr, Inhabited

/-- The size of a dimension in pixels. -/
def Dimension.pixels {α : Type} (A : Arithmetic α) (d : Dimension) : α :=
  match d.unit with
  | .unitless | .px => A.literal d.number
  | .rem | .em => A.mul (A.literal d.number) A.remPixels

/-! ## Tokens -/

inductive Token
  | number (value : Dimension)
  | name (text : String)
  | plus
  | minus
  | star
  | slash
  | leftParen
  | rightParen
  | comma
deriving DecidableEq, Repr, Inhabited

/-- The token that a single character makes. -/
def Token.ofSymbol? : Char → Option Token
  | '+' => some .plus
  | '-' => some .minus
  | '*' => some .star
  | '/' => some .slash
  | '(' => some .leftParen
  | ')' => some .rightParen
  | ',' => some .comma
  | _ => none

/-- What is wrong where a scan stops early. -/
inductive ScanError
  | unexpectedChar (c : Char)
  | invalidNumber (text : String)
  | unknownUnit (text : String)
deriving DecidableEq, Repr

/-- The tokens of a text up to its end or up to the first thing that is no token. -/
structure Scan where
  tokens : List Token
  error? : Option ScanError
deriving DecidableEq, Repr

namespace Scan

/-- A scan that reached the end of the text at once. -/
def done : Scan := ⟨[], none⟩

/-- A scan that stopped at once. -/
def stopped (error : ScanError) : Scan := ⟨[], some error⟩

/-- One token in front of a scan. -/
def cons (token : Token) (scan : Scan) : Scan :=
  { scan with tokens := token :: scan.tokens }

end Scan

/-! ## Scanning -/

/-- Characters of a number: digits and points. -/
def isNumeral (c : Char) : Bool :=
  c.isDigit || c == '.'

/-- Characters of a name after its first letter. -/
def isNamePart (c : Char) : Bool :=
  c.isAlphanum || c == '-'

/-- Reads a number with its unit, and leaves what follows. -/
def scanDimension (text : List Char) : Except ScanError (Dimension × List Char) :=
  let numeral := text.takeWhile isNumeral
  let rest := text.dropWhile isNumeral
  let letters := String.ofList (rest.takeWhile Char.isAlpha)
  match Decimal.ofChars? numeral with
  | none => .error (.invalidNumber (String.ofList numeral))
  | some number =>
    match LengthUnit.ofName? letters with
    | none => .error (.unknownUnit letters)
    | some unit => .ok (⟨number, unit⟩, rest.dropWhile Char.isAlpha)

/-- Reads one token off a text that starts with `c`, which is no white space. -/
def scanToken (c : Char) (rest : List Char) : Except ScanError (Token × List Char) :=
  match Token.ofSymbol? c with
  | some token => .ok (token, rest)
  | none =>
    if isNumeral c then
      (scanDimension (c :: rest)).map fun (value, rest) => (.number value, rest)
    else if c.isAlpha then
      .ok (.name (String.ofList (c :: rest.takeWhile isNamePart)), rest.dropWhile isNamePart)
    else
      .error (.unexpectedChar c)

/-- A dimension takes at least the first character of a number. -/
theorem scanDimension_length {c : Char} {rest tail : List Char} {value : Dimension}
    (hc : isNumeral c = true) (h : scanDimension (c :: rest) = .ok (value, tail)) :
    tail.length < (c :: rest).length := by
  simp only [scanDimension] at h
  split at h
  · cases h
  · split at h
    · cases h
    · simp only [Except.ok.injEq, Prod.mk.injEq] at h
      rw [← h.2, List.dropWhile_cons_of_pos hc]
      have h₁ := (List.dropWhile_sublist (l := rest.dropWhile isNumeral) Char.isAlpha).length_le
      have h₂ := (List.dropWhile_sublist (l := rest) isNumeral).length_le
      simp only [List.length_cons]
      omega

/-- Every token takes at least one character. -/
theorem scanToken_length {c : Char} {rest tail : List Char} {token : Token}
    (h : scanToken c rest = .ok (token, tail)) : tail.length < (c :: rest).length := by
  simp only [scanToken] at h
  split at h
  · simp only [Except.ok.injEq, Prod.mk.injEq] at h
    simp [h.2]
  · split at h
    · next hc =>
      cases hd : scanDimension (c :: rest) with
      | error e => simp [hd, Except.map] at h
      | ok pair =>
        simp only [hd, Except.map, Except.ok.injEq, Prod.mk.injEq] at h
        exact h.2 ▸ scanDimension_length hc hd
    · split at h
      · simp only [Except.ok.injEq, Prod.mk.injEq] at h
        have := (List.dropWhile_sublist (l := rest) isNamePart).length_le
        simp only [← h.2, List.length_cons]
        omega
      · cases h

/-- Scans a text, skipping white space between tokens. -/
def scan : List Char → Scan
  | [] => .done
  | c :: rest =>
    if Text.isBlank c then
      scan rest
    else
      match _h : scanToken c rest with
      | .error error => .stopped error
      | .ok (token, tail) => (scan tail).cons token
termination_by text => text.length
decreasing_by
  · simp
  · exact scanToken_length _h

end BranchlessCalc.Calc
