/-
  BranchlessCalc.Condition.Fault

  What can be wrong with JSON that should hold a condition, and the wording of it.
-/
import BranchlessCalc.Condition.Operator
import BranchlessCalc.Decimal.Layout
import BranchlessCalc.Json.Basic
import BranchlessCalc.Text.Quoted

namespace BranchlessCalc

/-- What was found where something else belongs. -/
inductive Found
  | null
  | bool (value : Bool)
  | number (value : Json.Number)
  | string (text : String)
  | sequence
  | map
deriving DecidableEq, Repr

/-- What should have been there. -/
inductive Expected
  | conditionArray
  | operand
  | string
  | triple
deriving DecidableEq, Repr

/-- A value of the wrong shape. -/
inductive Fault
  | invalidType (found : Found) (expected : Expected)
  | invalidLength (length : Nat) (expected : Expected)
  | spelling (error : SpellingError)
deriving DecidableEq, Repr

/-- What a value is found as. -/
def Found.ofJson : Json → Found
  | .null => .null
  | .bool value => .bool value
  | .number value => .number value
  | .string text => .string text
  | .array _ => .sequence
  | .object _ => .map

/-! ## Messages -/

/-- Numbers in messages are positional from `1e-5` up to `1e16`. Zero keeps its
    sign, and every exponent has one. -/
def Found.numberLayout : Decimal.Layout where
  leastPlain := -5
  greatestPlain := 15
  tie := .even
  signedZero := true
  plusSign := true

def Found.describe : Found → String
  | .null => "null"
  | .bool value => "boolean `" ++ (if value then "true" else "false") ++ "`"
  | .number value =>
    match value.read with
    | .integer value => "integer `" ++ toString value ++ "`"
    | .double value => "floating point `" ++ Found.numberLayout.write value ++ "`"
  | .string text => "string " ++ Text.quote text
  | .sequence => "sequence"
  | .map => "map"

def Expected.describe : Expected → String
  | .conditionArray => "a condition array [left, operator, right]"
  | .operand => "a value string or a nested condition array"
  | .string => "a string"
  | .triple => "a tuple of size 3"

def Fault.message : Fault → String
  | .invalidType found expected =>
    "invalid type: " ++ found.describe ++ ", expected " ++ expected.describe
  | .invalidLength length expected =>
    "invalid length " ++ toString length ++ ", expected " ++ expected.describe
  | .spelling error => error.message

end BranchlessCalc
