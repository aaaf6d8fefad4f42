import FiveStage.Word

/-!
# Columns and numerals

Padding of a text to a column width, the number that decimal digits stand for, and the two
hexadecimal forms that reports use: the bare form `0x1f` and the word form `0x0000001f`.
-/

namespace FiveStage.Text

/-- The text preceded by as many `fill` as it takes to be `width` characters long. -/
def padLeft (width : Nat) (fill : Char) (s : String) : String :=
  String.ofList (List.replicate (width - s.length) fill) ++ s

/-- The text followed by as many blanks as it takes to be `width` characters long. -/
def padRight (width : Nat) (s : String) : String :=
  s ++ String.ofList (List.replicate (width - s.length) ' ')

/-- The number that decimal digits stand for, the most significant first. -/
def ofDigits (digits : List Char) : Nat :=
  digits.foldl (fun n c => 10 * n + (c.toNat - '0'.toNat)) 0

/-- The hexadecimal digits of a number, in lower case. -/
def hexDigits (n : Nat) : String :=
  String.ofList (Nat.toDigits 16 n)

/-- A number in hexadecimal after `0x`, with no more digits than it needs. -/
def hex (n : Nat) : String :=
  "0x" ++ hexDigits n

/-- A number in hexadecimal after `0x`, with at least `digits` digits. -/
def hexPadded (digits : Nat) (n : Nat) : String :=
  "0x" ++ padLeft digits '0' (hexDigits n)

end FiveStage.Text

namespace FiveStage.Word

/-- A word as `0x` and eight hexadecimal digits. -/
def hex (w : Word) : String :=
  Text.hexPadded 8 w.toNat

end FiveStage.Word
