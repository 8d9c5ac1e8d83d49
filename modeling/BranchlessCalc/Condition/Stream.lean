/-
  BranchlessCalc.Condition.Stream

  Conditions, comparisons and operators read straight from JSON text.

  Text is read from left to right, token by token. A fault of shape is reported
  where it is met, whatever follows it; a token that JSON does not allow, or the
  end of the text, before any such fault is an error of syntax. Arrays may nest
  as deep as a limit that counts the brackets still to be opened.

  This is the behaviour of serde_json when it reads straight into a type. Nothing
  is parsed ahead of the reader that asks for it, so of a fault of shape and an
  error of syntax the one further to the left wins. A wrong scalar is read to its
  end before it is reported, and a wrong array or object is not. The limit is its
  recursion limit, which starts at 128 and is an error when it reaches zero.
-/
import BranchlessCalc.Condition.Json
import BranchlessCalc.Json.Parser

namespace BranchlessCalc

/-- Why a text is not read. -/
inductive ReadError
  /-- It is no JSON text, or nests too deep. -/
  | syntaxError
  /-- It holds a value of the wrong shape. -/
  | fault (fault : Fault)
deriving DecidableEq, Repr

/-- Reads something off the front of a list of tokens. -/
abbrev Reader (α : Type) := List Json.Token → Except ReadError (α × List Json.Token)

namespace Reader

/-- A value of the wrong type, seen from its first token. A scalar has to be a
    proper JSON value to be reported; arrays and objects are reported where they
    open. -/
def mismatch (expected : Expected) : Json.Token → ReadError
  | .null => .fault (.invalidType .null expected)
  | .bool value => .fault (.invalidType (.bool value) expected)
  | .number value =>
    if value.isFinite then .fault (.invalidType (.number value) expected) else .syntaxError
  | .string (some text) => .fault (.invalidType (.string text) expected)
  | .string none => .syntaxError
  | .leftBracket => .fault (.invalidType .sequence expected)
  | .leftBrace => .fault (.invalidType .map expected)
  | .rightBracket | .rightBrace | .comma | .colon => .syntaxError

/-- Reads a string. -/
def text : Reader String
  | .string (some text) :: rest => .ok (text, rest)
  | token :: _ => .error (mismatch .string token)
  | [] => .error .syntaxError

/-- Reads a text that spells something. -/
def spelled {α : Type} (ofText : String → Except Fault α) : Reader α := fun tokens => do
  let (spelling, rest) ← text tokens
  let value ← (ofText spelling).mapError .fault
  return (value, rest)

/-- Reads the spelling of a comparison operator. -/
def compareOp : Reader CompareOp := spelled CompareOp.ofText

/-- Reads the spelling of a connective. -/
def connective : Reader Connective := spelled Connective.ofText

/-- Goes on to the first item of an array behind its bracket. At the end of the
    array it fails with `missing`. -/
def firstItem (missing : Fault) : List Json.Token → Except ReadError (List Json.Token)
  | [] => .error .syntaxError
  | .rightBracket :: _ => .error (.fault missing)
  | tokens => .ok tokens

/-- Goes on to the next item of an array behind an item. At the end of the array
    it fails with `missing`. -/
def nextItem (missing : Fault) : List Json.Token → Except ReadError (List Json.Token)
  | .rightBracket :: _ => .error (.fault missing)
  | .comma :: rest => .ok rest
  | _ => .error .syntaxError

/-- Ends a condition array behind its third item. A fourth one is passed over
    before it is reported. -/
def closeCondition : List Json.Token → Except ReadError (List Json.Token)
  | .rightBracket :: rest => .ok rest
  | .comma :: rest =>
    match Json.skipValue rest with
    | some _ => .error (.fault (Condition.wrongLength 4))
    | none => .error .syntaxError
  | _ => .error .syntaxError

/-- Reads what follows the left operand of a comparison. -/
def comparisonTail (left : String) : Reader Condition := fun tokens => do
  let tokens ← nextItem (Condition.wrongLength 1) tokens
  let (op, tokens) ← compareOp tokens
  let tokens ← nextItem (Condition.wrongLength 2) tokens
  let (right, tokens) ← text tokens
  let tokens ← closeCondition tokens
  return (.compare ⟨left, op, right⟩, tokens)

/-- Reads what follows the left operand of a connective, with `inner` for what
    stands behind the bracket of the right operand. -/
def connectiveTail (inner : Reader Condition) (left : Condition) : Reader Condition :=
  fun tokens => do
    let tokens ← nextItem (Condition.wrongLength 1) tokens
    let (op, tokens) ← connective tokens
    match ← nextItem (Condition.wrongLength 2) tokens with
    | .leftBracket :: tokens => do
      let (right, tokens) ← inner tokens
      let tokens ← closeCondition tokens
      return (.logic left op right, tokens)
    | token :: _ => .error (mismatch .conditionArray token)
    | [] => .error .syntaxError

/-- Reads a condition behind its opening bracket, with at most `limit` brackets
    open at a time inside it. -/
def conditionItems : Nat → Reader Condition
  | 0, tokens => do
    match ← firstItem (Condition.wrongLength 0) tokens with
    | .string (some left) :: tokens => comparisonTail left tokens
    | .leftBracket :: _ | .leftBrace :: _ | [] => .error .syntaxError
    | token :: _ => .error (mismatch .operand token)
  | limit + 1, tokens => do
    match ← firstItem (Condition.wrongLength 0) tokens with
    | .string (some left) :: tokens => comparisonTail left tokens
    | .leftBracket :: tokens => do
      let (left, tokens) ← conditionItems limit tokens
      connectiveTail (conditionItems limit) left tokens
    | token :: _ => .error (mismatch .operand token)
    | [] => .error .syntaxError

/-- How many brackets may be open at a time: one less than the recursion limit of
    serde_json, as the bracket that would use it up is refused. -/
def nestingLimit : Nat := 127

/-- Reads a condition. -/
def condition : Reader Condition
  | .leftBracket :: tokens => conditionItems (nestingLimit - 1) tokens
  | token :: _ => .error (mismatch .conditionArray token)
  | [] => .error .syntaxError

/-- A comparison array ends before its element `n`. -/
def shortTriple (n : Nat) : Fault :=
  .invalidLength n .triple

/-- Reads a comparison. -/
def comparison : Reader Comparison
  | .leftBracket :: tokens => do
    let tokens ← firstItem (shortTriple 0) tokens
    let (left, tokens) ← text tokens
    let tokens ← nextItem (shortTriple 1) tokens
    let (op, tokens) ← compareOp tokens
    let tokens ← nextItem (shortTriple 2) tokens
    let (right, tokens) ← text tokens
    match tokens with
    | .rightBracket :: tokens => return (⟨left, op, right⟩, tokens)
    | _ => .error .syntaxError
  | token :: _ => .error (mismatch .triple token)
  | [] => .error .syntaxError

/-- Reads a whole text with nothing behind what is read. -/
def run {α : Type} (reader : Reader α) (text : String) : Except ReadError α := do
  let scanned := Json.scan text.toList
  match ← reader scanned.tokens with
  | (value, []) => if scanned.complete then .ok value else .error .syntaxError
  | (_, _ :: _) => .error .syntaxError

end Reader

/-- Reads a condition from JSON text. -/
def Condition.read (text : String) : Except ReadError Condition :=
  Reader.condition.run text

/-- Reads a comparison from JSON text. -/
def Comparison.read (text : String) : Except ReadError Comparison :=
  Reader.comparison.run text

/-- Reads a comparison operator from JSON text. -/
def CompareOp.read (text : String) : Except ReadError CompareOp :=
  Reader.compareOp.run text

/-- Reads a connective from JSON text. -/
def Connective.read (text : String) : Except ReadError Connective :=
  Reader.connective.run text

end BranchlessCalc
