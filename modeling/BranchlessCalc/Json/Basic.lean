/-
  BranchlessCalc.Json.Basic

  JSON values and their compact text.
-/
import BranchlessCalc.Json.Number

namespace BranchlessCalc

/-- A JSON value. Members of an object keep their order, and a name may occur
    more than once. -/
inductive Json
  | null
  | bool (value : Bool)
  | number (value : Json.Number)
  | string (text : String)
  | array (items : List Json)
  | object (members : List (String × Json))
deriving Inhabited, Repr

namespace Json

/-- The member of a name, the last one if there are several. -/
def get? (name : String) : Json → Option Json
  | object members => (members.reverse.find? fun member => member.1 == name).map (·.2)
  | _ => none

/-! ## Writing -/

/-- The escape letter of a character that has one. -/
def escapeLetter? (c : Char) : Option Char :=
  if c = '"' then some '"'
  else if c = '\\' then some '\\'
  else if c = '\x08' then some 'b'
  else if c = '\x0c' then some 'f'
  else if c = '\n' then some 'n'
  else if c = '\r' then some 'r'
  else if c = '\t' then some 't'
  else none

/-- A character inside a written string. Only quotes, backslashes and characters
    below the space are escaped. -/
def escapeChar (c : Char) : List Char :=
  match escapeLetter? c with
  | some letter => ['\\', letter]
  | none =>
    if c.toNat < 0x20 then
      ['\\', 'u', '0', '0', Nat.digitChar (c.toNat / 16), Nat.digitChar (c.toNat % 16)]
    else
      [c]

/-- A written string with its quotes. -/
def writeString (text : String) : String :=
  String.ofList ('"' :: text.toList.flatMap escapeChar ++ ['"'])

/-- A written number. -/
def Number.write (n : Number) : String :=
  let sign := if n.negative then "-" else ""
  let fraction := if n.fraction.isEmpty then "" else "." ++ String.ofList n.fraction
  let exponent := (n.exponent?.map fun e => "e" ++ toString e).getD ""
  sign ++ String.ofList n.whole ++ fraction ++ exponent

mutual

/-- A value as text without any white space. -/
def compact : Json → String
  | null => "null"
  | bool value => if value then "true" else "false"
  | number value => value.write
  | string text => writeString text
  | array items => "[" ++ ",".intercalate (compactItems items) ++ "]"
  | object members => "\x7b" ++ ",".intercalate (compactMembers members) ++ "\x7d"

def compactItems : List Json → List String
  | [] => []
  | item :: rest => item.compact :: compactItems rest

def compactMembers : List (String × Json) → List String
  | [] => []
  | (name, value) :: rest => (writeString name ++ ":" ++ value.compact) :: compactMembers rest

end

end Json

end BranchlessCalc
