import FiveStage.Text.Layout
import FiveStage.Text.Printable

/-!
# The notation of values in reports

Reports show structured values in a fixed notation: quoted texts, lists in brackets, records with
named fields in braces, and optional values as `Some(..)` or `None`.
-/

namespace FiveStage.Text

/-- A character inside a quoted text. The quote, the backslash and four control characters have
short forms; any other character that is not printable is its code in hexadecimal. -/
def quoteChar (c : Char) : String :=
  if c = '"' then "\\\""
  else if c = '\\' then "\\\\"
  else if c = '\n' then "\\n"
  else if c = '\r' then "\\r"
  else if c = '\t' then "\\t"
  else if c.toNat = 0 then "\\0"
  else if isPrintable c then String.singleton c
  else "\\u\x7b" ++ hexDigits c.toNat ++ "\x7d"

def quoted (s : String) : String :=
  "\"" ++ String.join (s.toList.map quoteChar) ++ "\""

/-- Items between brackets. -/
def list (items : List String) : String :=
  "[" ++ ", ".intercalate items ++ "]"

/-- A value that may be missing. -/
def optional (value : Option String) : String :=
  match value with
  | none => "None"
  | some v => "Some(" ++ v ++ ")"

def bool (b : Bool) : String :=
  if b then "true" else "false"

/-- Named fields with their values, separated by commas. -/
def fields (entries : List (String × String)) : String :=
  ", ".intercalate (entries.map fun (name, value) => name ++ ": " ++ value)

/-- A record: its name and its fields in braces. -/
def record (name : String) (entries : List (String × String)) : String :=
  name ++ " \x7b " ++ fields entries ++ " \x7d"

/-- A record that shows only some of its fields. -/
def openRecord (name : String) (entries : List (String × String)) : String :=
  name ++ " \x7b " ++ fields entries ++ ", .. \x7d"

end FiveStage.Text
