/-
  BranchlessCalc.Session

  Conditions built up on a stack, with the results that they are compiled to.
-/
import BranchlessCalc.Condition.Compile

namespace BranchlessCalc

/-- A stack of conditions, the top one first, and the options for compiling. -/
structure Session where
  stack : List Condition
  options : CompileOptions
deriving DecidableEq, Repr

namespace Session

/-- An empty stack and no results. -/
def start : Session := ⟨[], {}⟩

/-- What changes a session. -/
inductive Command
  | push (condition : Condition)
  /-- Joins the two topmost conditions; the top one becomes the right side. -/
  | join (op : Connective)
  | reverse
  | duplicate
  | swap
  | drop
  | setResult (text : String)
  | setOtherwise (text : String)
  /-- Forgets both results. -/
  | reset
deriving DecidableEq, Repr

/-- Carries out a command, unless the stack has too few conditions for it. -/
def run? (session : Session) : Command → Option Session
  | .push condition => some { session with stack := condition :: session.stack }
  | .join op =>
    match session.stack with
    | right :: left :: rest => some { session with stack := .logic left op right :: rest }
    | _ => none
  | .reverse =>
    match session.stack with
    | top :: rest => some { session with stack := top.reverse :: rest }
    | [] => none
  | .duplicate =>
    match session.stack with
    | top :: rest => some { session with stack := top :: top :: rest }
    | [] => none
  | .swap =>
    match session.stack with
    | top :: second :: rest => some { session with stack := second :: top :: rest }
    | _ => none
  | .drop =>
    match session.stack with
    | _ :: rest => some { session with stack := rest }
    | [] => none
  | .setResult text =>
    some { session with options := { session.options with result? := some text } }
  | .setOtherwise text =>
    some { session with options := { session.options with otherwise? := some text } }
  | .reset => some { session with options := {} }

/-- The top condition. -/
def top? (session : Session) : Option Condition :=
  session.stack.head?

/-- Whether the two topmost conditions are equal. -/
def topsEqual? (session : Session) : Option Bool :=
  match session.stack with
  | top :: second :: _ => some (top == second)
  | _ => none

end Session

end BranchlessCalc
