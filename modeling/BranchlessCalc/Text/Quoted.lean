/-
  BranchlessCalc.Text.Quoted

  Texts quoted in messages, with every character visible.
-/
import BranchlessCalc.Text.Unprintable

namespace BranchlessCalc.Text

/-- One character between double quotes. A character that cannot be told by its
    glyph is written by its code point, in lower case hexadecimal between braces. -/
def quoteChar (c : Char) : List Char :=
  if c = '"' then ['\\', '"']
  else if c = '\\' then ['\\', '\\']
  else if c = '\n' then ['\\', 'n']
  else if c = '\r' then ['\\', 'r']
  else if c = '\t' then ['\\', 't']
  else if c = '\x00' then ['\\', '0']
  else if isUnprintable c then ['\\', 'u', '\x7b'] ++ Nat.toDigits 16 c.toNat ++ ['\x7d']
  else [c]

/-- A text between double quotes. -/
def quote (text : String) : String :=
  String.ofList ('"' :: text.toList.flatMap quoteChar ++ ['"'])

end BranchlessCalc.Text
