/-
  BranchlessCalc.Condition.Json

  Conditions as JSON values.

  A comparison is an array of two texts around an operator, and a connective one
  of two such arrays around its name. Elements are read in their order, and the
  first fault is the answer.
-/
import BranchlessCalc.Condition.Basic
import BranchlessCalc.Condition.Fault
import BranchlessCalc.Json.Basic

namespace BranchlessCalc

/-! ## Writing -/

/-- A comparison as a JSON value, with the operator by its name. -/
def Comparison.toJson (c : Comparison) : Json :=
  .array [.string c.left, .string c.op.name, .string c.right]

/-- A condition as a JSON value, with operators and connectives by their names. -/
def Condition.toJson : Condition → Json
  | compare c => c.toJson
  | logic left op right => .array [left.toJson, .string op.name, right.toJson]

/-- The compact text of a condition. -/
def Condition.write (c : Condition) : String :=
  c.toJson.compact

/-- The compact text of a comparison. -/
def Comparison.write (c : Comparison) : String :=
  c.toJson.compact

/-- The compact text of a comparison operator. -/
def CompareOp.write (op : CompareOp) : String :=
  (Json.string op.name).compact

/-- The compact text of a connective. -/
def Connective.write (op : Connective) : String :=
  (Json.string op.name).compact

/-! ## Reading -/

/-- Reads a value that has to be a string. -/
def readText : Json → Except Fault String
  | .string text => .ok text
  | value => .error (.invalidType (.ofJson value) .string)

/-- Reads the spelling of a comparison operator. -/
def CompareOp.ofText (text : String) : Except Fault CompareOp :=
  (CompareOp.parse text).mapError .spelling

/-- Reads the spelling of a connective. -/
def Connective.ofText (text : String) : Except Fault Connective :=
  (Connective.parse text).mapError .spelling

namespace Condition

/-- A condition array ends before its element `n`, or behind its element `3`. -/
def wrongLength (n : Nat) : Fault :=
  .invalidLength n .conditionArray

/-- Ends an array of three elements. -/
def closeArray (c : Condition) : List Json → Except Fault Condition
  | [] => .ok c
  | _ :: _ => .error (wrongLength 4)

/-- Reads what follows the left operand of a comparison. -/
def ofComparisonTail (left : String) : List Json → Except Fault Condition
  | [] => .error (wrongLength 1)
  | value :: rest => do
    let op ← CompareOp.ofText (← readText value)
    match rest with
    | [] => .error (wrongLength 2)
    | value :: rest => do
      let right ← readText value
      closeArray (compare ⟨left, op, right⟩) rest

mutual

/-- Reads a condition from a JSON value. -/
def ofJson : Json → Except Fault Condition
  | .array items => ofItems items
  | value => .error (.invalidType (.ofJson value) .conditionArray)

/-- Reads a condition from the items of an array. A text in front makes it a
    comparison, and an array makes it a connective. -/
def ofItems : List Json → Except Fault Condition
  | [] => .error (wrongLength 0)
  | .string left :: rest => ofComparisonTail left rest
  | .array items :: rest => do
    let left ← ofItems items
    ofConnectiveTail left rest
  | value :: _ => .error (.invalidType (.ofJson value) .operand)

/-- Reads what follows the left operand of a connective. -/
def ofConnectiveTail (left : Condition) : List Json → Except Fault Condition
  | [] => .error (wrongLength 1)
  | value :: rest => do
    let op ← Connective.ofText (← readText value)
    ofRightOperand left op rest

/-- Reads the right operand of a connective and ends the array behind it. -/
def ofRightOperand (left : Condition) (op : Connective) : List Json → Except Fault Condition
  | [] => .error (wrongLength 2)
  | value :: rest => do
    let right ← ofJson value
    closeArray (logic left op right) rest

end

end Condition

end BranchlessCalc
