/-
  BranchlessCalc.Json.Parser

  From tokens to JSON values.

  Tokens are taken one at a time by a machine with a stack of the arrays and
  objects that are open. At the level of tokens each value is written in one way
  only, so the machine reads back exactly what its values are written as.
-/
import BranchlessCalc.Json.Token

namespace BranchlessCalc.Json

/-- How strings without a text are taken. -/
inductive Mode
  /-- They are refused. -/
  | strict
  /-- They are let through, because the value is only skipped. -/
  | skipping
deriving DecidableEq, Repr

/-- The text that a string token is taken as. -/
def Mode.text? : Mode → Option String → Option String
  | .strict, text? => text?
  | .skipping, text? => some (text?.getD "")

/-- An array or object that is open, with what is complete in it, the last item
    first. An object is open at the value of a member whose name is known. -/
inductive Frame
  | array (items : List Json)
  | object (members : List (String × Json)) (name : String)

/-- What has been read so far. -/
inductive State
  /-- A value has to follow. -/
  | needsValue (frames : List Frame)
  /-- An array was opened: its first item or its end has to follow. -/
  | opensArray (frames : List Frame)
  /-- An object was opened: its first name or its end has to follow. -/
  | opensObject (frames : List Frame)
  /-- The name of a member has to follow. -/
  | needsName (members : List (String × Json)) (frames : List Frame)
  /-- The colon behind a name has to follow. -/
  | needsColon (members : List (String × Json)) (name : String) (frames : List Frame)
  /-- A value is complete. -/
  | complete (value : Json) (frames : List Frame)

/-- One token where a value has to follow. -/
def stepValue (mode : Mode) (frames : List Frame) : Token → Option State
  | .null => some (.complete .null frames)
  | .bool value => some (.complete (.bool value) frames)
  | .number value => some (.complete (.number value) frames)
  | .string text? => (mode.text? text?).map fun text => .complete (.string text) frames
  | .leftBracket => some (.opensArray frames)
  | .leftBrace => some (.opensObject frames)
  | _ => none

/-- One token where the name of a member has to follow. -/
def stepName (mode : Mode) (members : List (String × Json)) (frames : List Frame) :
    Token → Option State
  | .string text? => (mode.text? text?).map fun name => .needsColon members name frames
  | _ => none

/-- One token behind a complete value. -/
def stepComplete (value : Json) : List Frame → Token → Option State
  | .array items :: frames, .comma => some (.needsValue (.array (value :: items) :: frames))
  | .array items :: frames, .rightBracket =>
    some (.complete (.array (value :: items).reverse) frames)
  | .object members name :: frames, .comma => some (.needsName ((name, value) :: members) frames)
  | .object members name :: frames, .rightBrace =>
    some (.complete (.object ((name, value) :: members).reverse) frames)
  | _, _ => none

/-- Takes one token. -/
def State.step (mode : Mode) : State → Token → Option State
  | .needsValue frames, token => stepValue mode frames token
  | .opensArray frames, .rightBracket => some (.complete (.array []) frames)
  | .opensArray frames, token => stepValue mode (.array [] :: frames) token
  | .opensObject frames, .rightBrace => some (.complete (.object []) frames)
  | .opensObject frames, token => stepName mode [] frames token
  | .needsName members frames, token => stepName mode members frames token
  | .needsColon members name frames, .colon => some (.needsValue (.object members name :: frames))
  | .needsColon _ _ _, _ => none
  | .complete value frames, token => stepComplete value frames token

/-- Takes tokens up to the end of the outermost value, and leaves the others. -/
def State.run (mode : Mode) : State → List Token → Option (Json × List Token)
  | .complete value [], tokens => some (value, tokens)
  | _, [] => none
  | state, token :: tokens =>
    match state.step mode token with
    | some next => next.run mode tokens
    | none => none

/-- Reads one value off a list of tokens. -/
def readValue (tokens : List Token) : Option (Json × List Token) :=
  State.run .strict (.needsValue []) tokens

/-- Passes over one value, which may hold strings without a text. -/
def skipValue (tokens : List Token) : Option (List Token) :=
  (State.run .skipping (.needsValue []) tokens).map (·.2)

/-- The value of a text that is one JSON value and nothing else. -/
def parse? (text : String) : Option Json :=
  let scanned := scan text.toList
  match readValue scanned.tokens with
  | some (value, []) => if scanned.complete then some value else none
  | _ => none

end BranchlessCalc.Json
