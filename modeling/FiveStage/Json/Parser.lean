import FiveStage.Json.Token

/-!
# Parsing JSON

The parser is a machine over tokens with a stack of the arrays and objects that are open, so nesting
may be as deep as the text makes it.
-/

namespace FiveStage.Json

/-- An array or object that is open, with its contents so far, the last first. -/
inductive Frame where
  | array (items : List Json)
  | object (members : List (Option String × Json))
  /-- An object in which a name waits for its value. -/
  | member (members : List (Option String × Json)) (name : Option String)

/-- What may come next. -/
inductive Expected where
  | value
  /-- A first item, or the end of an empty array. -/
  | firstItem
  /-- A first name, or the end of an empty object. -/
  | firstName
  | name
  | colon
  /-- A comma, or the end of the innermost array or object. -/
  | separator
  /-- The end of the text. -/
  | nothing
  deriving DecidableEq, Repr

/-- The parser between tokens. -/
structure Parser where
  /-- What is open, the innermost first. -/
  stack : List Frame := []
  expected : Expected := .value
  /-- The value of the whole text, once it is there. -/
  result : Option Json := none

namespace Parser

/-- A value is complete. -/
def complete (p : Parser) (v : Json) : Option Parser :=
  match p.stack with
  | [] => some { p with expected := .nothing, result := some v }
  | .array items :: rest =>
      some { p with stack := .array (v :: items) :: rest, expected := .separator }
  | .member members name :: rest =>
      some { p with stack := .object ((name, v) :: members) :: rest, expected := .separator }
  | .object _ :: _ => none

/-- A name of a member. -/
def takeName (p : Parser) (name : Option String) : Option Parser :=
  match p.stack with
  | .object members :: rest =>
      some { p with stack := .member members name :: rest, expected := .colon }
  | _ => none

/-- A bracket that closes the innermost array. -/
def closeArray (p : Parser) : Option Parser :=
  match p.stack with
  | .array items :: rest => complete { p with stack := rest } (.array items.reverse)
  | _ => none

/-- A brace that closes the innermost object. -/
def closeObject (p : Parser) : Option Parser :=
  match p.stack with
  | .object members :: rest => complete { p with stack := rest } (.object members.reverse)
  | _ => none

/-- A comma. -/
def separate (p : Parser) : Option Parser :=
  match p.stack with
  | .array _ :: _ => some { p with expected := .value }
  | .object _ :: _ => some { p with expected := .name }
  | _ => none

/-- A token where a value may start. -/
def startValue (p : Parser) (t : Token) : Option Parser :=
  match t with
  | .scalar v => p.complete v
  | .string text => p.complete (.string text)
  | .openArray => some { p with stack := .array [] :: p.stack, expected := .firstItem }
  | .openObject => some { p with stack := .object [] :: p.stack, expected := .firstName }
  | _ => none

def step (p : Parser) (t : Token) : Option Parser :=
  match p.expected, t with
  | .value, t => p.startValue t
  | .firstItem, .closeArray => p.closeArray
  | .firstItem, t => p.startValue t
  | .firstName, .closeObject => p.closeObject
  | .firstName, .string name => p.takeName name
  | .name, .string name => p.takeName name
  | .colon, .colon => some { p with expected := .value }
  | .separator, .comma => p.separate
  | .separator, .closeArray => p.closeArray
  | .separator, .closeObject => p.closeObject
  | _, _ => none

end Parser

/-- The value that a text stands for, if it is JSON. -/
def parse? (text : String) : Option Json := do
  let tokens ← tokens? text.toList
  let parser ← tokens.foldlM Parser.step {}
  parser.result

end FiveStage.Json
