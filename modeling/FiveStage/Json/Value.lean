import FiveStage.Text.Layout

/-!
# JSON values

JSON values as a reader of settings needs them. Numbers keep their literal, because settings tell
`1` from `1.0`. A string may name code units that form no character; such a string has no text.
Objects keep their members in order, repeated names included.
-/

namespace FiveStage

/-- A JSON value. -/
inductive Json where
  | null
  | bool (value : Bool)
  /-- A number, as it is written. -/
  | number (literal : List Char)
  /-- A string, with its text if it has one. -/
  | string (text : Option String)
  | array (items : List Json)
  /-- An object. A member's name is missing if it has no text. -/
  | object (members : List (Option String × Json))

namespace Json

/-- The truth value that a value is. -/
def bool? : Json → Option Bool
  | bool value => some value
  | _ => none

/-- The natural number that a value is, if it is written with digits only and is at most
`largest`. -/
def natural? (largest : Nat) : Json → Option Nat
  | number literal =>
      let n := Text.ofDigits literal
      if literal.all Char.isDigit && n ≤ largest then some n else none
  | _ => none

end Json

end FiveStage
