/-
  BranchlessCalc.Json.Token

  Tokens of JSON texts, and the scan of a text into them.

  The scan stops in front of the first character that starts no token. Two
  things are left to the reader of the tokens, since they do not matter where a
  value is only skipped: whether a number is too large, and whether the escapes
  of a string stand for characters.
-/
import BranchlessCalc.Json.Basic

namespace BranchlessCalc.Json

inductive Token
  | null
  | bool (value : Bool)
  | number (value : Number)
  /-- A string; it has no text if one of its escapes is half of a pair. -/
  | string (text? : Option String)
  | leftBracket
  | rightBracket
  | leftBrace
  | rightBrace
  | comma
  | colon
deriving DecidableEq, Repr

/-! ## Strings -/

/-- A part of a string: a character, or a 16 bit unit written in hexadecimal. -/
inductive Piece
  | char (c : Char)
  | unit (value : Nat)
deriving DecidableEq, Repr

/-- The value of a hexadecimal digit in either case. -/
def hexDigit? (c : Char) : Option Nat :=
  if '0' ≤ c ∧ c ≤ '9' then some (c.toNat - '0'.toNat)
  else if 'a' ≤ c ∧ c ≤ 'f' then some (c.toNat - 'a'.toNat + 10)
  else if 'A' ≤ c ∧ c ≤ 'F' then some (c.toNat - 'A'.toNat + 10)
  else none

/-- The value of four hexadecimal digits. -/
def hexUnit? (a b c d : Char) : Option Nat :=
  match hexDigit? a, hexDigit? b, hexDigit? c, hexDigit? d with
  | some a, some b, some c, some d => some (((a * 16 + b) * 16 + c) * 16 + d)
  | _, _, _, _ => none

/-- The character of a letter behind a backslash. -/
def unescapeLetter? : Char → Option Char
  | '"' => some '"'
  | '\\' => some '\\'
  | '/' => some '/'
  | 'b' => some '\x08'
  | 'f' => some '\x0c'
  | 'n' => some '\n'
  | 'r' => some '\r'
  | 't' => some '\t'
  | _ => none

/-- One more piece in front of a scanned string. -/
def consPiece (piece : Piece) (scanned : Option (List Piece × List Char)) :
    Option (List Piece × List Char) :=
  scanned.map fun (pieces, rest) => (piece :: pieces, rest)

/-- Scans a string behind its opening quote. Characters below the space have to
    be escaped. -/
def scanPieces : List Char → Option (List Piece × List Char)
  | [] => none
  | '"' :: rest => some ([], rest)
  | '\\' :: 'u' :: a :: b :: c :: d :: rest =>
    match hexUnit? a b c d with
    | some value => consPiece (.unit value) (scanPieces rest)
    | none => none
  | '\\' :: letter :: rest =>
    match unescapeLetter? letter with
    | some c => consPiece (.char c) (scanPieces rest)
    | none => none
  | c :: rest =>
    if c = '\\' ∨ c.toNat < 0x20 then none else consPiece (.char c) (scanPieces rest)

/-- The characters of a string. A unit in the range of surrogates has to be the
    first or second half of a pair. -/
def joinPieces? : List Piece → Option (List Char)
  | [] => some []
  | .char c :: rest => (joinPieces? rest).map (c :: ·)
  | .unit high :: .unit low :: rest =>
    if high < 0xD800 ∨ 0xE000 ≤ high then
      (joinPieces? (.unit low :: rest)).map (Char.ofNat high :: ·)
    else if high < 0xDC00 ∧ 0xDC00 ≤ low ∧ low < 0xE000 then
      (joinPieces? rest).map
        (Char.ofNat (0x10000 + (high - 0xD800) * 0x400 + (low - 0xDC00)) :: ·)
    else
      none
  | .unit value :: rest =>
    if value < 0xD800 ∨ 0xE000 ≤ value then
      (joinPieces? rest).map (Char.ofNat value :: ·)
    else
      none

/-! ## Numbers -/

/-- Scans a fraction, if there is one: a point and at least one digit. -/
def scanFraction : List Char → Option (List Char × List Char)
  | '.' :: rest =>
    if rest.takeWhile Char.isDigit = [] then none
    else some (rest.takeWhile Char.isDigit, rest.dropWhile Char.isDigit)
  | text => some ([], text)

/-- Scans the digits of an exponent, at least one. -/
def scanExponentDigits (negative : Bool) (text : List Char) : Option (Option Int × List Char) :=
  let digits := text.takeWhile Char.isDigit
  let value : Int := Decimal.ofDigits 0 digits
  if digits = [] then none
  else some (some (if negative then -value else value), text.dropWhile Char.isDigit)

/-- Scans the sign and digits of an exponent. -/
def scanSignedExponent : List Char → Option (Option Int × List Char)
  | '-' :: rest => scanExponentDigits true rest
  | '+' :: rest => scanExponentDigits false rest
  | text => scanExponentDigits false text

/-- Scans an exponent, if there is one. -/
def scanExponent : List Char → Option (Option Int × List Char)
  | 'e' :: rest | 'E' :: rest => scanSignedExponent rest
  | text => some (none, text)

/-- Scans a number behind its sign. A leading zero stands alone. -/
def scanMagnitude (negative : Bool) (text : List Char) : Option (Number × List Char) :=
  let whole := text.takeWhile Char.isDigit
  if whole = [] ∨ (whole.head? = some '0' ∧ whole.length ≠ 1) then none
  else
    match scanFraction (text.dropWhile Char.isDigit) with
    | none => none
    | some (fraction, rest) =>
      match scanExponent rest with
      | none => none
      | some (exponent?, rest) => some (⟨negative, whole, fraction, exponent?⟩, rest)

/-! ## Texts -/

/-- The four characters that may stand between tokens. -/
def isSpace (c : Char) : Bool :=
  c == ' ' || c == '\n' || c == '\t' || c == '\r'

/-- Reads one token off a text that starts with no white space. -/
def scanToken : List Char → Option (Token × List Char)
  | '[' :: rest => some (.leftBracket, rest)
  | ']' :: rest => some (.rightBracket, rest)
  | '\x7b' :: rest => some (.leftBrace, rest)
  | '\x7d' :: rest => some (.rightBrace, rest)
  | ',' :: rest => some (.comma, rest)
  | ':' :: rest => some (.colon, rest)
  | '"' :: rest =>
    (scanPieces rest).map fun (pieces, rest) =>
      (.string ((joinPieces? pieces).map String.ofList), rest)
  | 'n' :: 'u' :: 'l' :: 'l' :: rest => some (.null, rest)
  | 't' :: 'r' :: 'u' :: 'e' :: rest => some (.bool true, rest)
  | 'f' :: 'a' :: 'l' :: 's' :: 'e' :: rest => some (.bool false, rest)
  | '-' :: rest => (scanMagnitude true rest).map fun (value, rest) => (.number value, rest)
  | text => (scanMagnitude false text).map fun (value, rest) => (.number value, rest)

/-! ### Every token takes at least one character -/

theorem length_of_consPiece {piece : Piece} {scanned : Option (List Piece × List Char)}
    {pieces : List Piece} {tail : List Char} {n : Nat}
    (shorter : ∀ pieces tail, scanned = some (pieces, tail) → tail.length < n)
    (h : consPiece piece scanned = some (pieces, tail)) : tail.length < n := by
  simp only [consPiece, Option.map_eq_some_iff, Prod.exists, Prod.mk.injEq] at h
  obtain ⟨pieces, rest, hs, _, rfl⟩ := h
  exact shorter pieces rest hs

theorem scanPieces_length {text tail : List Char} {pieces : List Piece}
    (h : scanPieces text = some (pieces, tail)) : tail.length < text.length := by
  fun_induction scanPieces text generalizing pieces tail with
  | case1 => cases h
  | case2 rest => simp_all
  | case3 a b c d rest value _ ih =>
    have := length_of_consPiece (fun _ _ => ih) h
    simp only [List.length_cons]
    omega
  | case4 => cases h
  | case5 letter rest _ c _ ih =>
    have := length_of_consPiece (fun _ _ => ih) h
    simp only [List.length_cons]
    omega
  | case6 => cases h
  | case7 => cases h
  | case8 c rest _ _ _ _ ih =>
    have := length_of_consPiece (fun _ _ => ih) h
    simp only [List.length_cons]
    omega

theorem scanFraction_length {text tail digits : List Char}
    (h : scanFraction text = some (digits, tail)) : tail.length ≤ text.length := by
  unfold scanFraction at h
  split at h
  · split at h
    · cases h
    · next rest _ =>
      have := (List.dropWhile_sublist (l := rest) Char.isDigit).length_le
      simp only [Option.some.injEq, Prod.mk.injEq] at h
      simp only [← h.2, List.length_cons]
      omega
  · simp_all

theorem scanExponentDigits_length {negative : Bool} {text tail : List Char} {value? : Option Int}
    (h : scanExponentDigits negative text = some (value?, tail)) : tail.length ≤ text.length := by
  simp only [scanExponentDigits] at h
  split at h
  · cases h
  · simp only [Option.some.injEq, Prod.mk.injEq] at h
    exact h.2 ▸ (List.dropWhile_sublist Char.isDigit).length_le

theorem scanSignedExponent_length {text tail : List Char} {value? : Option Int}
    (h : scanSignedExponent text = some (value?, tail)) : tail.length ≤ text.length := by
  unfold scanSignedExponent at h
  split at h
  · exact Nat.le_succ_of_le (scanExponentDigits_length h)
  · exact Nat.le_succ_of_le (scanExponentDigits_length h)
  · exact scanExponentDigits_length h

theorem scanExponent_length {text tail : List Char} {value? : Option Int}
    (h : scanExponent text = some (value?, tail)) : tail.length ≤ text.length := by
  unfold scanExponent at h
  split at h
  · exact Nat.le_succ_of_le (scanSignedExponent_length h)
  · exact Nat.le_succ_of_le (scanSignedExponent_length h)
  · simp_all

theorem scanMagnitude_length {negative : Bool} {text tail : List Char} {value : Number}
    (h : scanMagnitude negative text = some (value, tail)) : tail.length < text.length := by
  simp only [scanMagnitude] at h
  split at h
  · cases h
  · next hw =>
    have hne : text.takeWhile Char.isDigit ≠ [] := fun hn => hw (.inl hn)
    have hsplit := congrArg List.length
      (List.takeWhile_append_dropWhile (p := Char.isDigit) (l := text))
    have hpos := List.length_pos_iff.2 hne
    rw [List.length_append] at hsplit
    split at h
    · cases h
    · next hf =>
      split at h
      · cases h
      · next he =>
        have h₁ := scanFraction_length hf
        have h₂ := scanExponent_length he
        simp only [Option.some.injEq, Prod.mk.injEq] at h
        rw [← h.2]
        omega

/-- The characters of a token that is always written alike. -/
def Token.spelling? : Token → Option (List Char)
  | leftBracket => some ['[']
  | rightBracket => some [']']
  | leftBrace => some ['\x7b']
  | rightBrace => some ['\x7d']
  | comma => some [',']
  | colon => some [':']
  | null => some ['n', 'u', 'l', 'l']
  | bool true => some ['t', 'r', 'u', 'e']
  | bool false => some ['f', 'a', 'l', 's', 'e']
  | string _ | number _ => none

/-- What a token is read off, and what is left behind it. -/
inductive IsRead : List Char → Token → List Char → Prop
  | fixed {token : Token} {lexeme text tail : List Char} (hspelling : token.spelling? = some lexeme)
      (htext : text = lexeme ++ tail) : IsRead text token tail
  | string {text tail : List Char} {pieces : List Piece}
      (hpieces : scanPieces text = some (pieces, tail)) :
      IsRead ('"' :: text) (.string ((joinPieces? pieces).map String.ofList)) tail
  | negative {text tail : List Char} {value : Number}
      (hvalue : scanMagnitude true text = some (value, tail)) :
      IsRead ('-' :: text) (.number value) tail
  | unsigned {text tail : List Char} {value : Number}
      (hvalue : scanMagnitude false text = some (value, tail)) : IsRead text (.number value) tail

theorem isRead_of_scanToken {text tail : List Char} {token : Token}
    (h : scanToken text = some (token, tail)) : IsRead text token tail := by
  unfold scanToken at h
  split at h
  -- Brackets, braces, the comma and the colon.
  iterate 6
    · cases h
      exact .fixed rfl rfl
  · simp only [Option.map_eq_some_iff, Prod.exists, Prod.mk.injEq] at h
    obtain ⟨pieces, rest, hpieces, rfl, rfl⟩ := h
    exact .string hpieces
  -- The three words.
  iterate 3
    · cases h
      exact .fixed rfl rfl
  · simp only [Option.map_eq_some_iff, Prod.exists, Prod.mk.injEq] at h
    obtain ⟨value, rest, hvalue, rfl, rfl⟩ := h
    exact .negative hvalue
  · simp only [Option.map_eq_some_iff, Prod.exists, Prod.mk.injEq] at h
    obtain ⟨value, rest, hvalue, rfl, rfl⟩ := h
    exact .unsigned hvalue

theorem Token.length_spelling?_pos {token : Token} {lexeme : List Char}
    (h : token.spelling? = some lexeme) : 0 < lexeme.length := by
  unfold spelling? at h
  split at h <;> cases h <;> decide

theorem scanToken_length {text tail : List Char} {token : Token}
    (h : scanToken text = some (token, tail)) : tail.length < text.length := by
  cases isRead_of_scanToken h with
  | fixed hspelling htext =>
    have hpos := Token.length_spelling?_pos hspelling
    rw [htext, List.length_append]
    omega
  | string hpieces => exact Nat.lt_succ_of_lt (scanPieces_length hpieces)
  | negative hvalue => exact Nat.lt_succ_of_lt (scanMagnitude_length hvalue)
  | unsigned hvalue => exact scanMagnitude_length hvalue

/-! ### Scanning -/

/-- The tokens of a text, and whether they reach to its end. -/
structure Scan where
  tokens : List Token
  complete : Bool
deriving DecidableEq, Repr

/-- One token in front of a scan. -/
def Scan.cons (token : Token) (scan : Scan) : Scan :=
  { scan with tokens := token :: scan.tokens }

/-- Scans a text, skipping white space between tokens. -/
def scan : List Char → Scan
  | [] => ⟨[], true⟩
  | c :: rest =>
    if isSpace c then
      scan rest
    else
      match _h : scanToken (c :: rest) with
      | none => ⟨[], false⟩
      | some (token, tail) => (scan tail).cons token
termination_by text => text.length
decreasing_by
  · simp
  · exact scanToken_length _h

end BranchlessCalc.Json
