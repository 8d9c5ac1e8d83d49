/-
  BranchlessCalc.Calc.Expr

  Expression trees and their value in an arithmetic.
-/
import BranchlessCalc.Calc.Token

namespace BranchlessCalc.Calc

/-- The four binary operators. -/
inductive Operator
  | add
  | sub
  | mul
  | div
deriving DecidableEq, Repr

/-- A math expression. Parentheses and a plus sign in front leave no node. -/
inductive Expr
  | number (value : Dimension)
  | name (text : String)
  | neg (operand : Expr)
  | binary (op : Operator) (left right : Expr)
  | call (function : String) (args : List Expr)
deriving Inhabited, Repr

/-- Why a tree has no value. None of these depends on a number. -/
inductive EvalError
  /-- A name stands where a value belongs. -/
  | nameAsValue (name : String)
  /-- The first argument of `round` is something else than a name. -/
  | noStrategy (found : Expr)
  | unknownFunction (name : String)
  | wrongArgCount (function : String) (expected got : Nat)
  | unknownStrategy (name : String)
deriving Repr

/-- A binary operator in an arithmetic. -/
def Operator.apply {α : Type} (A : Arithmetic α) : Operator → α → α → α
  | .add => A.add
  | .sub => A.sub
  | .mul => A.mul
  | .div => A.div

/-- Rounds by a strategy's name, which is looked up once both numbers are known. -/
def roundBy {α : Type} (A : Arithmetic α) (strategy : String) (value step : α) :
    Except EvalError α :=
  match Rounding.ofName? strategy with
  | some strategy => .ok (A.round strategy value step)
  | none => .error (.unknownStrategy strategy)

/-- A call of a named function on its arguments and on their values. The number
    of arguments is checked first, then the values are taken from left to right. -/
def applyFunction {α : Type} (A : Arithmetic α) (function : String) (args : List Expr)
    (values : List (Except EvalError α)) : Except EvalError α :=
  let wrongCount expected := Except.error (EvalError.wrongArgCount function expected args.length)
  match function with
  | "calc" =>
    match values with
    | [value] => value
    | _ => wrongCount 1
  | "min" =>
    match values with
    | [left, right] => do return A.min (← left) (← right)
    | _ => wrongCount 2
  | "max" =>
    match values with
    | [left, right] => do return A.max (← left) (← right)
    | _ => wrongCount 2
  | "clamp" =>
    match values with
    | [low, value, high] => do return A.clamp (← low) (← value) (← high)
    | _ => wrongCount 3
  | "round" =>
    match args, values with
    | [.name strategy, _, _], [_, value, step] => do roundBy A strategy (← value) (← step)
    | [found, _, _], _ => .error (.noStrategy found)
    | _, _ => wrongCount 3
  | _ => .error (.unknownFunction function)

mutual

/-- The value of a tree. Operands are evaluated from left to right, and the
    first error among them is the tree's. -/
def Expr.eval {α : Type} (A : Arithmetic α) : Expr → Except EvalError α
  | .number value => .ok (value.pixels A)
  | .name text => .error (.nameAsValue text)
  | .neg operand => do return A.neg (← operand.eval A)
  | .binary op left right => do return op.apply A (← left.eval A) (← right.eval A)
  | .call function args => applyFunction A function args (Expr.evalEach A args)

/-- The values of a list of trees, each on its own. -/
def Expr.evalEach {α : Type} (A : Arithmetic α) : List Expr → List (Except EvalError α)
  | [] => []
  | arg :: rest => arg.eval A :: Expr.evalEach A rest

end

end BranchlessCalc.Calc
