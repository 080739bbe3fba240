import Flowgate.Number.Rounding

/-! # Binary64 numbers

A binary floating point number of 64 bits, held by its three fields. The value
of a finite number is its significand times a power of two, and every operation
computes that exact value first and rounds once, to the nearest number and
halves to the even significand.

All not-a-number patterns are equal for the program, so one of them stands for
all.
-/

namespace Flowgate

/-- The weight of the leading bit of a significand, which is two to the power of 52. -/
abbrev Binary64.leadingBit : Nat := 0x10000000000000

/-- The fields of a 64-bit floating point number. -/
structure Binary64 where
  /-- The sign, which zeros carry too. -/
  negative : Bool
  /-- The biased exponent; 0 is the subnormal range and 2047 the special values. -/
  exponent : Fin 2048
  /-- The fraction below the leading bit. -/
  fraction : Fin Binary64.leadingBit
  deriving DecidableEq, Repr

namespace Binary64

/-- The one not-a-number. -/
def nan : Binary64 := ⟨false, 2047, 1⟩

/-- The infinity of a sign. -/
def infinity (negative : Bool) : Binary64 := ⟨negative, 2047, 0⟩

/-- The zero of a sign. -/
def zero (negative : Bool) : Binary64 := ⟨negative, 0, 0⟩

instance : Inhabited Binary64 := ⟨zero false⟩

def isNaN (x : Binary64) : Bool := x.exponent == 2047 && x.fraction != 0

def isInfinite (x : Binary64) : Bool := x.exponent == 2047 && x.fraction == 0

def isFinite (x : Binary64) : Bool := x.exponent != 2047

def isZero (x : Binary64) : Bool := x.exponent == 0 && x.fraction == 0

/-- The whole number that a finite value multiplies by `2 ^ x.scale`. -/
def significand (x : Binary64) : Nat :=
  if x.exponent = 0 then x.fraction else leadingBit + x.fraction

/-- The power of two of a finite value. -/
def scale (x : Binary64) : Int := max x.exponent.val 1 - 1075

/-- The number of the other sign. -/
def negate (x : Binary64) : Binary64 := { x with negative := !x.negative }

/-- The magnitude of a finite value as a quotient. -/
def magnitude (x : Binary64) : Nat × Nat := scaleRatio 2 x.scale x.significand 1

/-- Put a significand of 53 bits at most and its power of two into fields. A
significand without the leading bit is subnormal and belongs to the least power. -/
def ofFields (negative : Bool) (significand : Nat) (scale : Int) : Binary64 :=
  if significand < leadingBit then ⟨negative, 0, Fin.ofNat _ significand⟩
  else if scale > 971 then infinity negative
  else ⟨negative, Fin.ofNat _ (scale + 1075).toNat, Fin.ofNat _ (significand - leadingBit)⟩

/-- The power of two at which the significand of `num / den` has 53 bits, or the
least power there is. -/
def scaleOf (num den : Nat) : Int :=
  let low : Int := num.log2 - den.log2 - 53
  let (n, d) := scaleRatio 2 (-low) num den
  max (if n / d < 2 * leadingBit then low else low + 1) (-1074)

/-- The number nearest to `num / den`. -/
def ofRatio (negative : Bool) (num den : Nat) : Binary64 :=
  if num = 0 then zero negative
  else
    let scale := scaleOf num den
    let (n, d) := scaleRatio 2 (-scale) num den
    let rounded := roundHalfEven n d
    if rounded < 2 * leadingBit then ofFields negative rounded scale
    else ofFields negative (rounded / 2) (scale + 1)

/-- The number nearest to an integer. -/
def ofInt (i : Int) : Binary64 := ofRatio (i < 0) i.natAbs 1

/-- The number nearest to a quotient of an integer by a positive natural. -/
def ofIntRatio (num : Int) (den : Nat) : Binary64 := ofRatio (num < 0) num.natAbs den

/-- The integer of which a finite value is the multiple by `2 ^ x.scale`. -/
def signedSignificand (x : Binary64) : Int :=
  if x.negative then -x.significand else x.significand

/-- Round an integer times a power of two. A sum of zero takes the given sign. -/
def ofScaled (zeroSign : Bool) (value : Int) (scale : Int) : Binary64 :=
  if value = 0 then zero zeroSign
  else
    let (n, d) := scaleRatio 2 scale value.natAbs 1
    ofRatio (value < 0) n d

/-- A common power of two makes the sum of two finite values exact before it is
rounded. Opposite zeros and opposite equal values add to the positive zero. -/
def add (x y : Binary64) : Binary64 :=
  if x.isNaN || y.isNaN then nan
  else if x.isInfinite then
    if y.isInfinite && x.negative != y.negative then nan else x
  else if y.isInfinite then y
  else
    let scale := min x.scale y.scale
    let lift (z : Binary64) : Int := z.signedSignificand * Nat.pow 2 (z.scale - scale).toNat
    ofScaled (x.negative && y.negative) (lift x + lift y) scale

/-- Divide by a positive count. -/
def divNat (x : Binary64) (count : Nat) : Binary64 :=
  if x.isFinite then
    let (n, d) := x.magnitude
    ofRatio x.negative n (d * count)
  else x

/-- The integer part, cut toward zero; special values have none. -/
def truncate? (x : Binary64) : Option Int :=
  if x.isFinite then
    let (n, d) := x.magnitude
    some (if x.negative then -(n / d : Nat) else (n / d : Nat))
  else none

/-- The integer that a value is, if it is one. -/
def toInt? (x : Binary64) : Option Int :=
  match x.truncate? with
  | some i =>
      let (n, d) := x.magnitude
      if n % d = 0 then some i else none
  | none => none

/-- Numeric equality: both zeros are equal and a not-a-number equals nothing. -/
def same (x y : Binary64) : Bool :=
  !x.isNaN && !y.isNaN && (x == y || x.isZero && y.isZero)

/-- Strictly above zero. -/
def isPositive (x : Binary64) : Bool := !x.isNaN && !x.isZero && !x.negative

end Binary64

end Flowgate
