/-
  BranchlessCalc.Calc.Parser

  From tokens to expression trees.

  The grammar is

    sum     = product (("+" | "-") product)*
    product = signed (("*" | "/") signed)*
    signed  = ("-" | "+") signed | primary
    primary = number | name | name "(" sum ("," sum)* ")" | "(" sum ")"

  with binary operators grouping to the left. Tokens are taken one at a time by
  a machine with a stack of open brackets. At each level of the stack the
  operands that still wait for a right neighbour are kept, at most one of a sum
  and one of a product. So what is known after some tokens is a `State`, and a
  token that fits no continuation is refused at once.
-/
import BranchlessCalc.Calc.Expr

namespace BranchlessCalc.Calc

/-! ## States -/

/-- An operator that waits for its right operand. -/
structure Waiting where
  left : Expr
  op : Operator

/-- The tree of a waiting operator, if there is one, and its right operand. -/
def Waiting.join? : Option Waiting → Expr → Expr
  | none, right => right
  | some waiting, right => .binary waiting.op waiting.left right

/-- What stands before the next operand at its own level: a waiting sum, a
    waiting product, and the minus signs directly in front. -/
structure Before where
  sum? : Option Waiting
  product? : Option Waiting
  minuses : Nat

/-- Nothing stands before the next operand. -/
def Before.nothing : Before := ⟨none, none, 0⟩

/-- A product that has its last operand so far, with the sum that waits for it. -/
structure Product where
  sum? : Option Waiting
  product : Expr

/-- Puts minus signs in front of an operand. -/
def negate : Nat → Expr → Expr
  | 0, operand => operand
  | n + 1, operand => .neg (negate n operand)

/-- Takes an operand in. -/
def Before.take (before : Before) (operand : Expr) : Product :=
  ⟨before.sum?, Waiting.join? before.product? (negate before.minuses operand)⟩

/-- The sum that ends with this product. -/
def Product.close (p : Product) : Expr :=
  Waiting.join? p.sum? p.product

/-- What an open bracket belongs to. -/
inductive Bracket
  | group
  /-- A call, with the arguments that are complete, the last one first. -/
  | call (function : String) (args : List Expr)

/-- An open bracket and what stood before it. -/
structure Level where
  bracket : Bracket
  before : Before

/-- What has been read so far. -/
inductive State
  /-- An operand has to follow. -/
  | operand (before : Before) (levels : List Level)
  /-- A name was read, which a bracket would turn into a call. -/
  | name (text : String) (before : Before) (levels : List Level)
  /-- An operand is complete. -/
  | operator (last : Product) (levels : List Level)

/-- The state before the first token. -/
def State.start : State := .operand .nothing []

/-! ## Steps -/

/-- One token after a complete operand. -/
def stepOperator (last : Product) (levels : List Level) (token : Token) : Except Token State :=
  let times op := Except.ok (State.operand ⟨last.sum?, some ⟨last.product, op⟩, 0⟩ levels)
  let plus op := Except.ok (State.operand ⟨some ⟨last.close, op⟩, none, 0⟩ levels)
  match token, levels with
  | .star, _ => times .mul
  | .slash, _ => times .div
  | .plus, _ => plus .add
  | .minus, _ => plus .sub
  | .rightParen, ⟨.group, before⟩ :: levels => .ok (.operator (before.take last.close) levels)
  | .rightParen, ⟨.call function args, before⟩ :: levels =>
    .ok (.operator (before.take (.call function (last.close :: args).reverse)) levels)
  | .comma, ⟨.call function args, before⟩ :: levels =>
    .ok (.operand .nothing (⟨.call function (last.close :: args), before⟩ :: levels))
  | token, _ => .error token

/-- One token where an operand has to follow. -/
def stepOperand (before : Before) (levels : List Level) : Token → Except Token State
  | .minus => .ok (.operand { before with minuses := before.minuses + 1 } levels)
  | .plus => .ok (.operand before levels)
  | .number value => .ok (.operator (before.take (.number value)) levels)
  | .name text => .ok (.name text before levels)
  | .leftParen => .ok (.operand .nothing (⟨.group, before⟩ :: levels))
  | token => .error token

/-- Takes one token, or gives it back if it does not fit. -/
def State.step : State → Token → Except Token State
  | .operand before levels, token => stepOperand before levels token
  | .name text before levels, .leftParen =>
    .ok (.operand .nothing (⟨.call text [], before⟩ :: levels))
  | .name text before levels, token => stepOperator (before.take (.name text)) levels token
  | .operator last levels, token => stepOperator last levels token

/-! ## Texts -/

/-- Why a text is no expression. -/
inductive ParseError
  | scan (error : ScanError)
  /-- A token that does not fit what stands before it. -/
  | unexpectedToken (token : Token)
  /-- The text ends where an operand has to follow. -/
  | unexpectedEnd
  /-- The text ends inside a bracket. -/
  | unclosed
deriving DecidableEq, Repr

/-- The tree of all tokens, when nothing more follows. -/
def State.finish : State → Except ParseError Expr
  | .operand _ _ => .error .unexpectedEnd
  | .name text before [] => .ok (before.take (.name text)).close
  | .operator last [] => .ok last.close
  | .name _ _ (_ :: _) | .operator _ (_ :: _) => .error .unclosed

/-- The state after a list of tokens. -/
def State.run (state : State) (tokens : List Token) : Except Token State :=
  tokens.foldlM State.step state

/-- The tree of a scanned text. A token that does not fit is reported before
    anything that the scan stopped at behind it. -/
def Scan.parse (scan : Scan) : Except ParseError Expr :=
  match State.start.run scan.tokens, scan.error? with
  | .error token, _ => .error (.unexpectedToken token)
  | .ok _, some error => .error (.scan error)
  | .ok state, none => state.finish

/-- The tree of a text. -/
def parse (text : String) : Except ParseError Expr :=
  (scan text.toList).parse

end BranchlessCalc.Calc
