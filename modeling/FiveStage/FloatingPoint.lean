import FiveStage.Text.Layout

/-!
# Binary floating point

Floating-point data of any binary interchange format, as exact values. Each operation computes its
exact result as a fraction and rounds once, to the nearest datum of the format, to the even one from
halfway. There is one NaN. Decimal text is rounded by the same rule.
-/

namespace FiveStage.FloatingPoint

/-! ## Rounding quotients -/

/-- The integer nearest to `num / den`; halfway, the even one. -/
def roundDiv (num den : Nat) : Nat :=
  let q := num / den
  let r := num % den
  if 2 * r < den then q
  else if den < 2 * r then q + 1
  else q + q % 2

/-- The fraction `num / den` times `2 ^ e`. -/
def scale (num den : Nat) : Int → Nat × Nat
  | .ofNat e => (num * Nat.pow 2 e, den)
  | .negSucc e => (num, den * Nat.pow 2 (e + 1))

/-- The largest `k` with `2 ^ k ≤ num / den`, for positive `num` and `den`. -/
def floorLog2 (num den : Nat) : Int :=
  let k : Int := num.log2 - den.log2
  let (n, d) := scale num den (-k)
  if d ≤ n then k else k - 1

/-! ## Formats and arithmetic -/

/-- A binary interchange format. -/
structure Format where
  /-- Bits of the significand, the leading one included. -/
  precision : Nat
  /-- Bits of the exponent field. -/
  exponentBits : Nat
  deriving DecidableEq, Repr

/-- The 32-bit format. -/
def binary32 : Format := { precision := 24, exponentBits := 8 }

/-- The 64-bit format. -/
def binary64 : Format := { precision := 53, exponentBits := 11 }

/-- A floating-point datum. The finite ones are `significand * 2 ^ exponent`, negated if
`negative`. -/
inductive Datum where
  | nan
  | infinite (negative : Bool)
  | finite (negative : Bool) (significand : Nat) (exponent : Int)
  deriving DecidableEq, Repr

namespace Format

variable (f : Format)

/-- The exponent that belongs to the exponent field zero or one. -/
def minExponent : Int :=
  3 - Nat.pow 2 (f.exponentBits - 1) - f.precision

/-- The largest exponent of a finite datum. -/
def maxExponent : Int :=
  Nat.pow 2 (f.exponentBits - 1) - f.precision

/-- The datum nearest to `num / den`, negated if `negative`. -/
def round (negative : Bool) (num den : Nat) : Datum :=
  if num = 0 then .finite negative 0 f.minExponent
  else
    let e := max (floorLog2 num den - (f.precision - 1 : Nat)) f.minExponent
    let (n, d) := scale num den (-e)
    let q := roundDiv n d
    let (q, e) := if q = Nat.pow 2 f.precision then (q / 2, e + 1) else (q, e)
    if f.maxExponent < e then .infinite negative else .finite negative q e

/-- The datum nearest to `significand * 2 ^ exponent`, negated if `negative`. -/
def roundScaled (negative : Bool) (num den : Nat) (exponent : Int) : Datum :=
  let (n, d) := scale num den exponent
  f.round negative n d

/-- The datum nearest to a natural number. -/
def ofNat (n : Nat) : Datum :=
  f.round false n 1

/-- The datum that a bit pattern stands for. -/
def decode (bits : Nat) : Datum :=
  let fraction := bits % Nat.pow 2 (f.precision - 1)
  let field := bits / Nat.pow 2 (f.precision - 1) % Nat.pow 2 f.exponentBits
  let negative := bits / Nat.pow 2 (f.precision - 1 + f.exponentBits) % 2 == 1
  if field = Nat.pow 2 f.exponentBits - 1 then
    if fraction = 0 then .infinite negative else .nan
  else if field = 0 then .finite negative fraction f.minExponent
  else .finite negative (Nat.pow 2 (f.precision - 1) + fraction) (f.minExponent + field - 1)

/-- The bit pattern with the given parts. -/
def pack (negative : Bool) (field fraction : Nat) : Nat :=
  (if negative then Nat.pow 2 (f.precision - 1 + f.exponentBits) else 0) +
    field * Nat.pow 2 (f.precision - 1) + fraction

/-- The bit pattern of a datum of the format. A finite datum has the full precision unless its
exponent is the least one. -/
def encode : Datum → Nat
  | .nan => f.pack false (Nat.pow 2 f.exponentBits - 1) (Nat.pow 2 (f.precision - 2))
  | .infinite negative => f.pack negative (Nat.pow 2 f.exponentBits - 1) 0
  | .finite negative significand exponent =>
      let hidden := Nat.pow 2 (f.precision - 1)
      if significand < hidden then f.pack negative 0 significand
      else f.pack negative (exponent - f.minExponent + 1).toNat (significand - hidden)

/-- The signed integer that a finite datum is in units of `2 ^ e`, for `e` at most its exponent. -/
def signedIn (e : Int) (negative : Bool) (significand : Nat) (exponent : Int) : Int :=
  let magnitude : Int := significand * Nat.pow 2 (exponent - e).toNat
  if negative then -magnitude else magnitude

/-- The sum of two data. A sum of zero is negative only if both operands are. -/
def add : Datum → Datum → Datum
  | .nan, _ => .nan
  | _, .nan => .nan
  | .infinite s, .infinite t => if s = t then .infinite s else .nan
  | .infinite s, .finite .. => .infinite s
  | .finite .., .infinite t => .infinite t
  | .finite s m a, .finite t n b =>
      let e := min a b
      let sum := signedIn e s m a + signedIn e t n b
      if sum = 0 then .finite (s && t) 0 f.minExponent
      else f.roundScaled (decide (sum < 0)) sum.natAbs 1 e

/-- The datum with the other sign. -/
def negate : Datum → Datum
  | .nan => .nan
  | .infinite s => .infinite !s
  | .finite s m a => .finite (!s) m a

/-- The difference of two data. -/
def sub (x y : Datum) : Datum :=
  f.add x (negate y)

/-- The product of two data. -/
def mul : Datum → Datum → Datum
  | .nan, _ => .nan
  | _, .nan => .nan
  | .infinite s, .infinite t => .infinite (s != t)
  | .infinite s, .finite t n _ => if n = 0 then .nan else .infinite (s != t)
  | .finite s m _, .infinite t => if m = 0 then .nan else .infinite (s != t)
  | .finite s m a, .finite t n b => f.roundScaled (s != t) (m * n) 1 (a + b)

/-- The quotient of two data. -/
def div : Datum → Datum → Datum
  | .nan, _ => .nan
  | _, .nan => .nan
  | .infinite _, .infinite _ => .nan
  | .infinite s, .finite t .. => .infinite (s != t)
  | .finite s .., .infinite t => .finite (s != t) 0 f.minExponent
  | .finite s m a, .finite t n b =>
      if n = 0 then if m = 0 then .nan else .infinite (s != t)
      else f.roundScaled (s != t) m n (a - b)

end Format

/-! ## Decimal text -/

/-- The digits of a nonnegative fraction with a fixed number of places after the point. -/
def fixedPoint (places num den : Nat) : String :=
  let units := roundDiv (num * Nat.pow 10 places) den
  let whole := toString (units / Nat.pow 10 places)
  if places = 0 then whole
  else whole ++ "." ++ Text.padLeft places '0' (toString (units % Nat.pow 10 places))

/-- A datum with a fixed number of places after the point. -/
def Datum.fixed (places : Nat) : Datum → String
  | .nan => "NaN"
  | .infinite negative => if negative then "-inf" else "inf"
  | .finite negative significand exponent =>
      let (num, den) := scale significand 1 exponent
      (if negative then "-" else "") ++ fixedPoint places num den

end FiveStage.FloatingPoint
