/-
  BranchlessCalc.Calc.Eval

  From the text of an expression to its value, and the wording of everything
  that can go wrong on the way.
-/
import BranchlessCalc.Calc.Parser
import BranchlessCalc.Decimal.Layout

namespace BranchlessCalc.Calc

/-! ## Evaluation of a text -/

/-- Why a text has no value. -/
inductive CalcError
  | parse (error : ParseError)
  | eval (error : EvalError)
deriving Repr

/-- The value of a text in an arithmetic. -/
def evaluateIn {α : Type} (A : Arithmetic α) (text : String) : Except CalcError α :=
  match parse text with
  | .error error => .error (.parse error)
  | .ok tree => (tree.eval A).mapError .eval

/-- The value of a text in double precision. -/
def evaluate (text : String) : Except CalcError Float :=
  evaluateIn .double text

/-! ## Numbers in answers -/

/-- Numbers are positional from `1e-4` up to `1e16`, and neither zero nor an
    exponent above it has a sign. -/
def numberLayout : Decimal.Layout where
  leastPlain := -4
  greatestPlain := 15
  tie := .up
  signedZero := false
  plusSign := false

/-- The text of a value. -/
def valueText (x : Float) : String :=
  numberLayout.write x

/-! ## Messages -/

/-- A dimension in messages: its size in pixels. -/
def Dimension.describe (d : Dimension) : String :=
  valueText (d.pixels .double)

/-- A token in messages. -/
def Token.describe : Token → String
  | .number value => "Number(" ++ value.describe ++ ")"
  | .name text => "Ident(\"" ++ text ++ "\")"
  | .plus => "Plus"
  | .minus => "Minus"
  | .star => "Star"
  | .slash => "Slash"
  | .leftParen => "LParen"
  | .rightParen => "RParen"
  | .comma => "Comma"

/-- An operator in messages. -/
def Operator.describe : Operator → String
  | .add => "Add"
  | .sub => "Sub"
  | .mul => "Mul"
  | .div => "Div"

mutual

/-- A tree in messages. -/
def Expr.describe : Expr → String
  | .number value => "Num(" ++ value.describe ++ ")"
  | .name text => "Ident(\"" ++ text ++ "\")"
  | .neg operand => "Neg(" ++ operand.describe ++ ")"
  | .binary op left right => op.describe ++ "(" ++ left.describe ++ ", " ++ right.describe ++ ")"
  | .call function args =>
    "Call(\"" ++ function ++ "\", [" ++ ", ".intercalate (Expr.describeEach args) ++ "])"

/-- A list of trees in messages. -/
def Expr.describeEach : List Expr → List String
  | [] => []
  | arg :: rest => arg.describe :: Expr.describeEach rest

end

def ScanError.message : ScanError → String
  | .unexpectedChar c => "unexpected character: '" ++ c.toString ++ "'"
  | .invalidNumber text => "invalid number: '" ++ text ++ "'"
  | .unknownUnit text => "unknown unit: '" ++ text ++ "'"

def ParseError.message : ParseError → String
  | .scan error => error.message
  | .unexpectedToken token => "unexpected token: '" ++ token.describe ++ "'"
  | .unexpectedEnd => "unexpected end of expression"
  | .unclosed => "unexpected token: 'Eof'"

def EvalError.message : EvalError → String
  | .nameAsValue name => "unexpected token: '" ++ name ++ "'"
  | .noStrategy found => "unexpected token: '" ++ found.describe ++ "'"
  | .unknownFunction name => "unknown function: '" ++ name ++ "'"
  | .wrongArgCount function expected got =>
    "function '" ++ function ++ "' expects " ++ toString expected ++ " args, got " ++ toString got
  | .unknownStrategy name => "unknown rounding strategy: '" ++ name ++ "'"

def CalcError.message : CalcError → String
  | .parse error => error.message
  | .eval error => error.message

end BranchlessCalc.Calc
