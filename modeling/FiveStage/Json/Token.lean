import FiveStage.Json.Value

/-!
# JSON tokens

The scanner that cuts a text into JSON tokens. It is a machine that takes one character at a time,
so a text is scanned by folding over its characters. Outside strings only the four blank characters
separate tokens; inside strings every character from the blank on stands for itself except the quote
and the backslash.
-/

namespace FiveStage.Json

/-- A token. -/
inductive Token where
  | openArray
  | closeArray
  | openObject
  | closeObject
  | comma
  | colon
  /-- A string, with its text if it has one. -/
  | string (text : Option String)
  /-- A number, `true`, `false` or `null`. -/
  | scalar (value : Json)

/-- A part of a string: a character, or a code unit written as an escape. -/
inductive Piece where
  | char (c : Char)
  | unit (code : Nat)
  deriving DecidableEq, Repr

namespace Piece

/-- Whether a code unit is the first of a pair. -/
def isLeading (code : Nat) : Bool :=
  0xD800 ≤ code && code < 0xDC00

/-- Whether a code unit is the second of a pair. -/
def isTrailing (code : Nat) : Bool :=
  0xDC00 ≤ code && code < 0xE000

/-- The characters that the parts of a string stand for. Code units of a pair stand for a character
only together. -/
def characters? : List Piece → Option (List Char)
  | [] => some []
  | char c :: rest => (characters? rest).map (c :: ·)
  | unit code :: rest =>
      if isLeading code then
        match rest with
        | unit second :: rest =>
            if isTrailing second then
              let c := Char.ofNat (0x10000 + (code - 0xD800) * 0x400 + (second - 0xDC00))
              (characters? rest).map (c :: ·)
            else none
        | _ => none
      else if isTrailing code then none
      else (characters? rest).map (Char.ofNat code :: ·)

/-- The text that the parts of a string stand for. -/
def text? (pieces : List Piece) : Option String :=
  (characters? pieces).map String.ofList

end Piece

/-- How far a number has been read. -/
inductive NumberPhase where
  /-- After the minus sign. -/
  | sign
  /-- After a leading zero. -/
  | zero
  /-- Within the digits before the point. -/
  | whole
  /-- After the point. -/
  | point
  /-- Within the digits after the point. -/
  | fraction
  /-- After the exponent letter. -/
  | letter
  /-- After the sign of the exponent. -/
  | exponentSign
  /-- Within the digits of the exponent. -/
  | exponent
  deriving DecidableEq, Repr

namespace NumberPhase

/-- Whether a number may end here. -/
def isComplete : NumberPhase → Bool
  | zero | whole | fraction | exponent => true
  | sign | point | letter | exponentSign => false

/-- The phase after one more character, if the number goes on with it. -/
def next? (phase : NumberPhase) (c : Char) : Option NumberPhase :=
  match phase with
  | sign => if c = '0' then some zero else if c.isDigit then some whole else none
  | zero =>
      if c = '.' then some point else if c = 'e' || c = 'E' then some letter else none
  | whole =>
      if c.isDigit then some whole
      else if c = '.' then some point
      else if c = 'e' || c = 'E' then some letter
      else none
  | point => if c.isDigit then some fraction else none
  | fraction =>
      if c.isDigit then some fraction else if c = 'e' || c = 'E' then some letter else none
  | letter =>
      if c.isDigit then some exponent else if c = '+' || c = '-' then some exponentSign else none
  | exponentSign => if c.isDigit then some exponent else none
  | exponent => if c.isDigit then some exponent else none

end NumberPhase

/-- What the scanner is in the middle of. -/
inductive Mode where
  | between
  /-- A literal name, with the letters that must follow. -/
  | word (rest : List Char) (value : Json)
  /-- A number, with its characters so far, the last first. -/
  | number (phase : NumberPhase) (literal : List Char)
  /-- A string, with its parts so far, the last first. -/
  | string (pieces : List Piece)
  /-- The character after a backslash. -/
  | escape (pieces : List Piece)
  /-- The hexadecimal digits of an escape, with how many are missing and their value so far. -/
  | code (pieces : List Piece) (missing : Nat) (value : Nat)

/-- The scanner: the tokens so far, the last first, and what it is in the middle of. -/
structure Scanner where
  mode : Mode := .between
  tokens : List Token := []

namespace Scanner

/-- The value of a hexadecimal digit. -/
def hexDigit? (c : Char) : Option Nat :=
  if c.isDigit then some (c.toNat - '0'.toNat)
  else if 'a' ≤ c && c ≤ 'f' then some (c.toNat - 'a'.toNat + 10)
  else if 'A' ≤ c && c ≤ 'F' then some (c.toNat - 'A'.toNat + 10)
  else none

/-- The character that a one-letter escape stands for. -/
def escaped? : Char → Option Char
  | '"' => some '"'
  | '\\' => some '\\'
  | '/' => some '/'
  | 'b' => some '\x08'
  | 'f' => some '\x0c'
  | 'n' => some '\n'
  | 'r' => some '\r'
  | 't' => some '\t'
  | _ => none

/-- The scanner after one more token. -/
def emit (s : Scanner) (t : Token) : Scanner :=
  { mode := .between, tokens := t :: s.tokens }

/-- The scanner in the middle of something else. -/
def enter (s : Scanner) (mode : Mode) : Scanner :=
  { s with mode }

/-- A character between tokens. -/
def start (s : Scanner) (c : Char) : Option Scanner :=
  if c = ' ' || c = '\t' || c = '\n' || c = '\r' then some (s.enter .between)
  else if c = '[' then some (s.emit .openArray)
  else if c = ']' then some (s.emit .closeArray)
  else if c = '\x7b' then some (s.emit .openObject)
  else if c = '\x7d' then some (s.emit .closeObject)
  else if c = ',' then some (s.emit .comma)
  else if c = ':' then some (s.emit .colon)
  else if c = '"' then some (s.enter (.string []))
  else if c = 't' then some (s.enter (.word ['r', 'u', 'e'] (.bool true)))
  else if c = 'f' then some (s.enter (.word ['a', 'l', 's', 'e'] (.bool false)))
  else if c = 'n' then some (s.enter (.word ['u', 'l', 'l'] .null))
  else if c = '-' then some (s.enter (.number .sign [c]))
  else if c = '0' then some (s.enter (.number .zero [c]))
  else if c.isDigit then some (s.enter (.number .whole [c]))
  else none

/-- The token of a number that has ended. -/
def numberToken (literal : List Char) : Token :=
  .scalar (.number literal.reverse)

def step (s : Scanner) (c : Char) : Option Scanner :=
  match s.mode with
  | .between => s.start c
  | .word rest value =>
      match rest with
      | [] => none
      | [d] => if c = d then some (s.emit (.scalar value)) else none
      | d :: rest => if c = d then some (s.enter (.word rest value)) else none
  | .number phase literal =>
      match phase.next? c with
      | some phase => some (s.enter (.number phase (c :: literal)))
      | none => if phase.isComplete then (s.emit (numberToken literal)).start c else none
  | .string pieces =>
      if c = '"' then some (s.emit (.string (Piece.text? pieces.reverse)))
      else if c = '\\' then some (s.enter (.escape pieces))
      else if c.toNat < 0x20 then none
      else some (s.enter (.string (.char c :: pieces)))
  | .escape pieces =>
      if c = 'u' then some (s.enter (.code pieces 4 0))
      else (escaped? c).map fun d => s.enter (.string (.char d :: pieces))
  | .code pieces missing value =>
      (hexDigit? c).map fun digit =>
        let value := 16 * value + digit
        if missing ≤ 1 then s.enter (.string (.unit value :: pieces))
        else s.enter (.code pieces (missing - 1) value)

/-- The end of the text. -/
def finish (s : Scanner) : Option (List Token) :=
  match s.mode with
  | .between => some s.tokens.reverse
  | .number phase literal =>
      if phase.isComplete then some (numberToken literal :: s.tokens).reverse else none
  | _ => none

end Scanner

/-- The tokens of a text, if it consists of tokens. -/
def tokens? (text : List Char) : Option (List Token) :=
  (text.foldlM Scanner.step {}).bind Scanner.finish

end FiveStage.Json
