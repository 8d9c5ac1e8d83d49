/-
  BranchlessCalc.Condition.Compile

  A condition as one expression without branches.

  Each comparison becomes a mask of the same result, so that connectives need no
  more than the sum of two masks. An else branch is the mask of the reversed
  condition for the other result, added to the first. Compilation reports what
  it does as log records beside its value.
-/
import BranchlessCalc.Condition.Basic
import BranchlessCalc.Mask.Interval

namespace BranchlessCalc

/-! ## Masks of conditions -/

namespace CompareOp

/-- Worth `result` if the comparison of the two texts holds, and zero otherwise. -/
def mask (op : CompareOp) (left right result : String) : String :=
  match op with
  | less | lessEquals => Mask.below left right result op.isStrict
  | more | moreEquals => Mask.above left right result op.isStrict

/-- Worth `result` if the comparison holds, and `otherwise` if not. What is above
    is seen from the other side, as below. -/
def maskElse (op : CompareOp) (left right result otherwise : String) : String :=
  match op with
  | less | lessEquals => Mask.belowElse left right result otherwise op.isStrict
  | more | moreEquals => Mask.belowElse right left result otherwise op.isStrict

end CompareOp

/-- The connective of two masks of one result. -/
def Connective.mask (op : Connective) (left right result : String) : String :=
  match op with
  | or => Mask.either left right result
  | and => Mask.both left right result

/-- Worth the left operand if the comparison holds, and zero otherwise. -/
def Comparison.passThrough (c : Comparison) : String :=
  c.op.mask c.left c.right c.left

namespace Condition

/-- Worth `result` if the condition holds, and zero otherwise. -/
def mask (result : String) : Condition → String
  | compare c => c.op.mask c.left c.right result
  | logic left op right => op.mask (left.mask result) (right.mask result) result

/-- Worth `result` if the condition holds, and `otherwise` if not. -/
def maskElse (result otherwise : String) : Condition → String
  | compare c => c.op.maskElse c.left c.right result otherwise
  | c@(logic _ _ _) => Mask.branch (c.mask result) (c.reverse.mask otherwise)

end Condition

/-! ## Logged compilation -/

/-- The weight of a log record. -/
inductive LogLevel
  | trace
  | debug
deriving DecidableEq, Repr

structure LogRecord where
  level : LogLevel
  message : String
deriving DecidableEq, Repr

/-- One line of the log. -/
def LogRecord.line (record : LogRecord) : String :=
  match record.level with
  | .trace => "TRACE " ++ record.message
  | .debug => "DEBUG " ++ record.message

/-- A value with the records that were logged on the way to it. -/
structure Logged (α : Type) where
  value : α
  log : List LogRecord
deriving Repr

/-- What a condition maps to. Both results may be left out. -/
structure CompileOptions where
  result? : Option String := none
  otherwise? : Option String := none
deriving DecidableEq, Repr

/-- The outcome of a compilation whose results may be missing. -/
inductive Compiled
  | expr (text : String)
  /-- The condition itself, kept for a larger tree that will have a result. -/
  | tree (condition : Condition)
deriving DecidableEq, Repr

/-- The expression of an outcome, if it has one. -/
def Compiled.expr? : Compiled → Option String
  | .expr text => some text
  | .tree _ => none

/-- A condition with a connective was compiled without a result, and one of its
    sides is a comparison. -/
structure MissingResult where
  condition : Condition
deriving DecidableEq, Repr

def MissingResult.message (error : MissingResult) : String :=
  "compound condition `" ++ error.condition.display ++ "` needs a result expression"

namespace Condition

/-- The part of a log message that names the condition and its result. -/
def compiling (c : Condition) (result : String) : String :=
  "compiling `" ++ c.display ++ "` (depth " ++ toString c.depth ++ ") to `" ++ result ++ "`"

/-- Worth `result` if the condition holds, and zero otherwise. -/
def compile (c : Condition) (result : String) : Logged String :=
  ⟨c.mask result, [⟨.trace, c.compiling result⟩]⟩

/-- Worth `result` if the condition holds, and `otherwise` if not. -/
def compileElse (c : Condition) (result otherwise : String) : Logged String :=
  ⟨c.maskElse result otherwise,
    [⟨.trace, c.compiling result ++ " else `" ++ otherwise ++ "`"⟩]⟩

/-- Compiles to an expression by a result and, where given, the other one. -/
def compileTo (c : Condition) (result : String) (otherwise? : Option String) : Logged Compiled :=
  let compiled :=
    match otherwise? with
    | some otherwise => c.compileElse result otherwise
    | none => c.compile result
  ⟨.expr compiled.value, compiled.log⟩

/-- Compiles with the results of `options`. Without a result a comparison passes
    its left operand through, a tree whose two sides both have connectives is
    kept, and any other tree is an error. -/
def compileWith (c : Condition) (options : CompileOptions) :
    Logged (Except MissingResult Compiled) :=
  match options.result?, c with
  | some result, c =>
    let compiled := c.compileTo result options.otherwise?
    ⟨.ok compiled.value, compiled.log⟩
  | none, compare comparison =>
    let compiled := (compare comparison).compileTo comparison.left options.otherwise?
    let notice := "no result for `" ++ comparison.display ++ "`, passing `" ++ comparison.left
      ++ "` through"
    ⟨.ok compiled.value, ⟨.debug, notice⟩ :: compiled.log⟩
  | none, c@(logic left _ right) =>
    if left.isLeaf || right.isLeaf then
      ⟨.error ⟨c⟩, []⟩
    else
      ⟨.ok (.tree c), [⟨.debug, "no result for `" ++ c.display ++ "`, keeping the tree"⟩]⟩

end Condition

end BranchlessCalc
