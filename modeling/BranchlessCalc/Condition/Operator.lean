/-
  BranchlessCalc.Condition.Operator

  Comparison operators and connectives: their spellings, names and complements.
-/
import BranchlessCalc.Text.Blank

namespace BranchlessCalc

/-- A text that spells no operator, without the white space around it. -/
inductive SpellingError
  | unknownOperator (text : String)
  | unknownConnective (text : String)
deriving DecidableEq, Repr

def SpellingError.message : SpellingError → String
  | .unknownOperator text => "unknown comparison operator: '" ++ text ++ "'"
  | .unknownConnective text => "unknown boolean connective: '" ++ text ++ "'"

/-- Looks a text up among spellings, without the white space around it. One that is
    not found is reported as `unknown`. -/
def readSpelling {α : Type} (ofSpelling? : String → Option α) (unknown : String → SpellingError)
    (text : String) : Except SpellingError α :=
  match ofSpelling? (Text.trim text) with
  | some value => .ok value
  | none => .error (unknown (Text.trim text))

/-- An order relation between two values. -/
inductive CompareOp
  | less
  | more
  | lessEquals
  | moreEquals
deriving DecidableEq, Repr

namespace CompareOp

/-- The relation that holds exactly where this one fails. -/
def reverse : CompareOp → CompareOp
  | less => moreEquals
  | more => lessEquals
  | lessEquals => more
  | moreEquals => less

/-- Whether equal values fail the comparison. -/
def isStrict : CompareOp → Bool
  | less | more => true
  | lessEquals | moreEquals => false

/-- The word that stands for the operator in written conditions. -/
def name : CompareOp → String
  | less => "less"
  | more => "more"
  | lessEquals => "lessEquals"
  | moreEquals => "moreEquals"

def symbol : CompareOp → String
  | less => "<"
  | more => ">"
  | lessEquals => "<="
  | moreEquals => ">="

/-- The operator of an exact spelling. -/
def ofSpelling? : String → Option CompareOp
  | "<" | "less" => some less
  | ">" | "more" => some more
  | "<=" | "≤" | "lessEquals" => some lessEquals
  | ">=" | "≥" | "moreEquals" => some moreEquals
  | _ => none

/-- Reads an operator, with white space allowed around it. -/
def parse : String → Except SpellingError CompareOp :=
  readSpelling ofSpelling? .unknownOperator

end CompareOp

/-- A connective between two conditions. -/
inductive Connective
  | and
  | or
deriving DecidableEq, Repr

namespace Connective

/-- The connective that De Morgan's laws exchange with this one. -/
def dual : Connective → Connective
  | and => or
  | or => and

def name : Connective → String
  | and => "and"
  | or => "or"

/-- The connective of an exact spelling: a symbol, or a word in any case. -/
def ofSpelling? (text : String) : Option Connective :=
  let word := text.toList.map Char.toLower
  if word = "and".toList ∨ text = "&&" then some and
  else if word = "or".toList ∨ text = "||" then some or
  else none

/-- Reads a connective, with white space allowed around it. -/
def parse : String → Except SpellingError Connective :=
  readSpelling ofSpelling? .unknownConnective

end Connective

end BranchlessCalc
